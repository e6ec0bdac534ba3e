import Mathlib.Data.List.Chain
import PatternWorkbench.Proofs.Inference.Fallback

/-!
# Maximal runs

A rule that ends in a run without a bound takes the whole run, and a rule that
looks at what follows stops nowhere else.  So a segment ends where its rule could
not have gone on, and what begins there is left to another rule.
-/

namespace PatternWorkbench.Inference

/-- The characters that may stand right behind what a rule covers. -/
def Rule.mayPrecede : Rule → Char → Bool
  | digits, c => !Unicode.isDecimal c
  | lowercase, c => !('a' ≤ c && c ≤ 'z')
  | uppercase, c => !('A' ≤ c && c ≤ 'Z')
  | word, c | method, c => !Unicode.isWord c
  | whitespace, c => !Unicode.isBlank c
  | path, c => Unicode.isBlank c || c == '"'
  | status, c => Unicode.isBlank c
  | ipv4, _ | httpVersion, _ | date, _ | isoDate, _ | time, _ | timezone, _ => true

/-! ## Behind what a rule covers -/

/-- Behind a row stands no character that its last run could still take. -/
theorem not_holds_behind_row {runs : List Run} {last : Run} {text : Text} {length : Nat}
    (hopen : last.count.bound = none)
    (hcover : Shape.coverRow? (runs ++ [last]) text = some length) :
    ∀ c ∈ (text.drop length).head?, last.kind.holds c = false := by
  induction runs generalizing text length with
  | nil =>
      obtain ⟨taken, later, hlast, hnil, rfl⟩ := Shape.coverRow?_cons_eq_some_iff.1 hcover
      obtain rfl : 0 = later := by simpa [Shape.coverRow?] using hnil
      intro c hc
      rw [List.head?_drop] at hc
      rcases Run.full_of_cover? hlast with hbound | hends
      · rw [hopen] at hbound
        contradiction
      · exact hends c hc
  | cons run runs ih =>
      obtain ⟨taken, later, _, hlater, rfl⟩ := Shape.coverRow?_cons_eq_some_iff.1 hcover
      rw [← List.drop_drop]
      exact ih hlater

/-- What a rule covers is followed by a character that may follow, or by nothing. -/
theorem Rule.mayPrecede_of_cover? {rule : Rule} {text : Text} {length : Nat}
    (hcover : rule.cover? text = some length) :
    ∀ c ∈ (text.drop length).head?, rule.mayPrecede c = true := by
  intro c hc
  obtain ⟨hshape, _, hagrees⟩ := cover?_eq_some_iff.1 hcover
  obtain ⟨later, hbehind⟩ := List.head?_eq_some_iff.1 hc
  rw [hbehind] at hagrees
  have hrow (runs : List Run) (last : Run) (hopen : last.count.bound = none)
      (hcover : Shape.coverRow? (runs ++ [last]) text = some length) :
      (!last.kind.holds c) = true := by
    rw [not_holds_behind_row hopen hcover c hc]
    rfl
  have hmany {kind : Kind} (hcover : (Shape.manyOf kind).cover? text = some length) :
      (!kind.holds c) = true := hrow [] ⟨kind, .oneOrMore⟩ rfl hcover
  cases rule with
  | digits | lowercase | uppercase | word | whitespace => exact hmany hshape
  | path =>
      have hends := hrow [.one (.exact '/')] ⟨.path, .anyNumber⟩ rfl hshape
      simpa [Kind.holds, mayPrecede] using hends
  | method | status => exact hagrees
  | ipv4 | httpVersion | date | isoDate | time | timezone => rfl

/-- Where a rule may stop it could not begin, unless its texts have a fixed form. -/
theorem Rule.not_mayPrecede_of_cover? {rule : Rule} {c : Char} {rest : Text} {length : Nat}
    (hrule : rule ∉ [ipv4, httpVersion, date, isoDate, time, timezone])
    (hcover : rule.cover? (c :: rest) = some length) : rule.mayPrecede c = false := by
  obtain ⟨kind, hkind, hholds⟩ := exists_firstKind hcover
  have hwordy (hall : ∀ kind ∈ rule.shape.firstKinds, kind.isWordy = true) :=
    Kind.isWord_of_holds (hall kind hkind) hholds
  have hmany {expected : Kind} (hmem : kind ∈ [expected]) : (!expected.holds c) = false := by
    obtain rfl := List.mem_singleton.1 hmem
    rw [hholds]
    rfl
  cases rule with
  | digits | lowercase | uppercase | word | whitespace => exact hmany hkind
  | path =>
      obtain rfl : kind = .exact '/' := List.mem_singleton.1 hkind
      obtain rfl : c = '/' := by simpa [Kind.holds] using hholds
      rw [mayPrecede, Unicode.isBlank_eq_has]
      decide
  | method =>
      have hword := hwordy (by decide)
      simp [mayPrecede, hword]
  | status =>
      have hword := hwordy (by decide)
      rw [mayPrecede, ← Bool.not_eq_true]
      intro hblank
      rw [Unicode.not_isWord_of_isBlank hblank] at hword
      contradiction
  | ipv4 | httpVersion | date | isoDate | time | timezone => simp at hrule

/-! ## Neighbouring segments -/

/-- What holds of every first segment and the one behind it holds of all neighbours. -/
theorem isChain_segmentsFrom {related : Segment → Segment → Prop}
    (hfirst : ∀ start c rest d later,
      (c :: rest).drop (Segment.first start c rest).text.length = d :: later →
        related (Segment.first start c rest)
          (Segment.first (Segment.first start c rest).stop d later))
    (start : Nat) (text : Text) : (segmentsFrom start text).IsChain related := by
  fun_induction segmentsFrom start text with
  | case1 => exact .nil
  | case2 start c rest segment ih =>
      rw [List.isChain_cons]
      refine ⟨fun next hnext => ?_, ih⟩
      cases hbehind : (c :: rest).drop segment.text.length with
      | nil => simp [hbehind, segmentsFrom] at hnext
      | cons d later =>
          rw [hbehind, segmentsFrom, List.head?_cons, Option.mem_some_iff] at hnext
          rw [← hnext]
          exact hfirst start c rest d later hbehind

/-- The rule of a first segment covers its text. -/
theorem cover?_of_rule_first {start : Nat} {c : Char} {rest : Text} {rule : Rule}
    (hrule : (Segment.first start c rest).rule = some rule) :
    rule.cover? (c :: rest) = some (Segment.first start c rest).text.length := by
  revert hrule
  rw [Segment.first]
  split
  case h_1 covering length hcovered =>
    intro hrule
    obtain rfl := Option.some.inj hrule
    have hcover := Segment.cover?_of_coveringRule? hcovered
    rwa [List.length_take_of_le (Rule.cover?_bounds hcover).2]
  case h_2 => simp

theorem splitAtByte_stop_first (before : Text) (c : Char) (rest : Text) :
    let segment := Segment.first (byteLength before) c rest
    splitAtByte (before ++ c :: rest) segment.stop =
      some (before ++ segment.text, (c :: rest).drop segment.text.length) := by
  intro segment
  have hwhole : before ++ c :: rest =
      (before ++ segment.text) ++ (c :: rest).drop segment.text.length := by
    rw [List.append_assoc, Segment.text_first_append_drop]
  have hstop : segment.stop = byteLength (before ++ segment.text) := by
    rw [Segment.stop, start_first, byteLength_append]
  rw [hwhole, hstop, splitAtByte_byteLength]

/-- Blanks begin a segment of blanks. -/
theorem rule_first_of_isBlank (start : Nat) {c : Char} (rest : Text)
    (hblank : Unicode.isBlank c = true) :
    (Segment.first start c rest).rule = some .whitespace := by
  cases hrule : (Segment.first start c rest).rule with
  | none =>
      rw [((rule_first_eq_none_iff start).1 hrule).noBlank] at hblank
      contradiction
  | some rule =>
      by_contra hother
      have hcover := cover?_of_rule_first hrule
      rw [Rule.cover?_eq_none_of_isBlank (by simpa using hother) hblank] at hcover
      contradiction

/-- The segments of a sample end where their rules could not have gone on.  So
neighbours are of different rules, unless these have a fixed form or there is no
rule. -/
structure HasMaximalRuns (text : Text) : Prop where
  ends : ∀ segment ∈ segments text, ∀ rule ∈ segment.rule,
    ∃ ahead behind, splitAtByte text segment.stop = some (ahead, behind) ∧
      ∀ c ∈ behind.head?, rule.mayPrecede c = true
  status : (segments text).IsChain fun segment next =>
    segment.rule = some .status → next.rule = some .whitespace
  apart : (segments text).IsChain fun segment next => segment.rule = next.rule →
    segment.rule ∈ [none, some .ipv4, some .httpVersion, some .date, some .isoDate,
      some .time, some .timezone]

/-- Every segment of a sample goes as far as its rule allows. -/
theorem segments_hasMaximalRuns (text : Text) : HasMaximalRuns text := by
  constructor
  case ends =>
    intro segment hsegment rule hrule
    obtain ⟨before, after, hsegments⟩ := List.append_of_mem hsegment
    obtain ⟨c, rest, htext, rfl⟩ := exists_eq_first hsegments
    rw [Nat.zero_add, htext, splitAtByte_stop_first]
    rw [Nat.zero_add] at hrule
    exact ⟨_, _, rfl, Rule.mayPrecede_of_cover? (cover?_of_rule_first hrule)⟩
  case status =>
    refine isChain_segmentsFrom (fun start c rest d later hbehind hstatus => ?_) 0 text
    refine rule_first_of_isBlank _ later ?_
    exact Rule.mayPrecede_of_cover? (cover?_of_rule_first hstatus) d (by rw [hbehind]; rfl)
  case apart =>
    refine isChain_segmentsFrom (fun start c rest d later hbehind hsame => ?_) 0 text
    cases hrule : (Segment.first start c rest).rule with
    | none => simp
    | some rule =>
        by_contra hfree
        rw [hrule] at hsame
        have hstops := Rule.mayPrecede_of_cover? (cover?_of_rule_first hrule) d
          (by rw [hbehind]; rfl)
        have hbegins := Rule.not_mayPrecede_of_cover? (by simpa using hfree)
          (cover?_of_rule_first hsame.symm)
        rw [hstops] at hbegins
        contradiction

end PatternWorkbench.Inference
