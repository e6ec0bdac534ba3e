import PatternWorkbench.Proofs.Inference.Tiles

/-!
# Characters that stand for themselves

Wherever a sample is cut, the characters behind the cut decide whether a rule
covers anything.  Word characters, blanks and slashes are always covered, signs
only before four decimals, and nothing else ever is.
-/

namespace PatternWorkbench.Inference

open Unicode (RangeTable)

/-! ## What a rule can begin with -/

/-- All that a rule can cover begins with a word character, a blank or a slash,
or is an offset from standard time. -/
theorem Rule.first_of_cover? {rule : Rule} {c : Char} {rest : Text} {length : Nat}
    (hcover : rule.cover? (c :: rest) = some length) :
    Unicode.isWord c = true ∨ rule = .whitespace ∧ Unicode.isBlank c = true ∨
      rule = .path ∧ c = '/' ∨ rule = .timezone ∧ (c = '+' ∨ c = '-') := by
  obtain ⟨kind, hkind, hholds⟩ := exists_firstKind hcover
  have hwordy (hall : ∀ kind ∈ rule.shape.firstKinds, kind.isWordy = true) :=
    Kind.isWord_of_holds (hall kind hkind) hholds
  cases rule with
  | ipv4 | method | httpVersion | status | date | isoDate | time | digits | lowercase
  | uppercase | word => exact Or.inl (hwordy (by decide))
  | timezone =>
      obtain rfl : kind = .sign := List.mem_singleton.1 hkind
      exact Or.inr (Or.inr (Or.inr ⟨rfl, by simpa [Kind.holds] using hholds⟩))
  | path =>
      obtain rfl : kind = .exact '/' := List.mem_singleton.1 hkind
      exact Or.inr (Or.inr (Or.inl ⟨rfl, by simpa [Kind.holds] using hholds⟩))
  | whitespace =>
      obtain rfl : kind = .blank := List.mem_singleton.1 hkind
      exact Or.inr (Or.inl ⟨rfl, hholds⟩)

/-- Blanks are left to the last rule. -/
theorem Rule.cover?_eq_none_of_isBlank {rule : Rule} {c : Char} {rest : Text}
    (hrule : rule ≠ .whitespace) (hblank : Unicode.isBlank c = true) :
    rule.cover? (c :: rest) = none := by
  rw [Option.eq_none_iff_forall_ne_some]
  intro length hcover
  rcases first_of_cover? hcover with hword | ⟨hlast, _⟩ | ⟨_, rfl⟩ | ⟨_, rfl | rfl⟩
  · rw [Unicode.not_isWord_of_isBlank hblank] at hword
    contradiction
  · exact hrule hlast
  all_goals
    rw [Unicode.isBlank_eq_has] at hblank
    exact absurd hblank (by decide)

/-! ## Where no rule covers anything -/

def BeginsWithFourDecimals (text : Text) : Prop :=
  ∃ digits after, text = digits ++ after ∧ digits.length = 4 ∧
    ∀ d ∈ digits, Unicode.isDecimal d = true

/-- The character, with the rest of the sample behind it, begins nothing that a
rule covers. -/
structure Uncovered (c : Char) (rest : Text) : Prop where
  noWord : Unicode.isWord c = false
  noBlank : Unicode.isBlank c = false
  noSlash : c ≠ '/'
  noOffset : c = '+' ∨ c = '-' → ¬ BeginsWithFourDecimals rest

theorem passes_timezone_iff {c : Char} {text : Text} :
    Shape.timezone.Passes (c :: text) ↔ (c = '+' ∨ c = '-') ∧ text.length = 4 ∧
      ∀ d ∈ text, Unicode.isDecimal d = true := by
  have hsign : Kind.sign.holds c = true ↔ c = '+' ∨ c = '-' := by simp [Kind.holds]
  rw [Shape.timezone, Shape.Passes, rowPasses_cons_iff, ← hsign]
  constructor
  · rintro ⟨first, later, hwhole, hfirst, hlater⟩
    obtain ⟨d, rfl, hholds⟩ := Run.passes_one_iff.1 hfirst
    obtain ⟨digits, _, rfl, hdigits, hnil⟩ := rowPasses_cons_iff.1 hlater
    rw [rowPasses_nil_iff.1 hnil, List.append_nil, List.singleton_append] at hwhole
    obtain ⟨rfl, rfl⟩ := List.cons.inj hwhole
    exact ⟨hholds, Run.passes_exactly_iff.1 hdigits⟩
  · rintro ⟨hholds, hdigits⟩
    refine ⟨[c], text, rfl, Run.passes_one_iff.2 ⟨c, rfl, hholds⟩, ?_⟩
    rw [← List.append_nil text]
    exact .cons (Run.passes_exactly_iff.2 hdigits) .nil

/-- A rule that does not look at what follows covers every text of its shape. -/
theorem Rule.cover?_ne_none (rule : Rule) {text after : Text}
    (hfollow : rule.follow = .anything) (hpasses : rule.shape.Passes text)
    (hne : text ≠ []) : rule.cover? (text ++ after) ≠ none := by
  obtain ⟨length, hcover, hle⟩ := Shape.exists_cover? rule.isPlain_shape hpasses after
  have hlength : 0 < length := Nat.lt_of_lt_of_le (List.length_pos_iff.2 hne) hle
  have hagrees : rule.follow.agrees ((text ++ after).drop length) = true := by
    rw [hfollow]
    rfl
  rw [cover?_eq_some_iff.2 ⟨hcover, hlength, hagrees⟩]
  simp

/-- A rule for one or more characters of a kind covers any of them. -/
theorem Rule.cover?_manyOf_ne_none (rule : Rule) {kind : Kind} {c : Char} (rest : Text)
    (hshape : rule.shape = .manyOf kind) (hfollow : rule.follow = .anything)
    (hholds : kind.holds c = true) : rule.cover? (c :: rest) ≠ none := by
  have hpasses : rule.shape.Passes ([c] ++ []) := by
    rw [hshape]
    refine .cons ⟨?_, Nat.le_refl 1, by simp [Count.bound]⟩ .nil
    simpa using hholds
  exact rule.cover?_ne_none hfollow hpasses (by simp)

theorem beginsWithFourDecimals_of_cover? {c : Char} {rest : Text} {length : Nat}
    (hcover : Rule.timezone.cover? (c :: rest) = some length) :
    BeginsWithFourDecimals rest := by
  obtain ⟨hshape, hlength, _⟩ := Rule.cover?_eq_some_iff.1 hcover
  obtain ⟨length, rfl⟩ := Nat.exists_eq_succ_of_ne_zero (Nat.ne_of_gt hlength)
  have hpasses := Shape.passes_of_cover? hshape
  rw [List.take_succ_cons] at hpasses
  exact ⟨rest.take length, rest.drop length, (List.take_append_drop length rest).symm,
    (passes_timezone_iff.1 hpasses).2⟩

/-- No rule covers anything exactly where a character is uncovered. -/
theorem coveringRule?_eq_none_iff {c : Char} {rest : Text} :
    Segment.coveringRule? (c :: rest) = none ↔ Uncovered c rest := by
  have hall : ∀ rule, rule ∈ Rule.all := by intro rule; cases rule <;> decide
  rw [Segment.coveringRule?, List.findSome?_eq_none_iff]
  constructor
  · intro hnone
    have hcover (rule : Rule) : rule.cover? (c :: rest) = none :=
      Option.map_eq_none_iff.1 (hnone rule (hall rule))
    constructor
    · rw [← Bool.not_eq_true]
      intro hword
      exact Rule.word.cover?_manyOf_ne_none rest rfl rfl hword (hcover .word)
    · rw [← Bool.not_eq_true]
      intro hblank
      exact Rule.whitespace.cover?_manyOf_ne_none rest rfl rfl hblank (hcover .whitespace)
    · rintro rfl
      have hpasses : Rule.path.shape.Passes (['/'] ++ ([] ++ [])) :=
        .cons (Run.passes_one_iff.2 ⟨'/', rfl, by decide⟩)
          (.cons ⟨by simp, Nat.le_refl 0, by simp [Count.bound]⟩ .nil)
      exact Rule.path.cover?_ne_none rfl hpasses (by simp) (hcover .path)
    · rintro hsign ⟨digits, after, rfl, hdigits⟩
      have hpasses : Rule.timezone.shape.Passes (c :: digits) :=
        passes_timezone_iff.2 ⟨hsign, hdigits⟩
      exact Rule.timezone.cover?_ne_none rfl hpasses (by simp) (hcover .timezone)
  · intro huncovered rule _
    rw [Option.map_eq_none_iff, Option.eq_none_iff_forall_ne_some]
    intro length hcover
    rcases Rule.first_of_cover? hcover with hword | ⟨_, hblank⟩ | ⟨_, hslash⟩ | ⟨rfl, hsign⟩
    · rw [huncovered.noWord] at hword
      contradiction
    · rw [huncovered.noBlank] at hblank
      contradiction
    · exact huncovered.noSlash hslash
    · exact huncovered.noOffset hsign (beginsWithFourDecimals_of_cover? hcover)

/-! ## Segments without a rule -/

/-- Letters, marks, decimals, underscores, white space and slashes of any
script. -/
def isRecognizable (c : Char) : Bool :=
  RangeTable.anyHas [Unicode.uppercaseLetter, Unicode.lowercaseLetter,
      Unicode.titlecaseLetter, Unicode.modifierLetter, Unicode.otherLetter,
      Unicode.nonspacingMark, Unicode.spacingMark, Unicode.enclosingMark,
      Unicode.decimalNumber] c.toNat ||
    c == '_' || Unicode.whiteSpace.has c.toNat || c == '/'

theorem Uncovered.not_isRecognizable {c : Char} {rest : Text}
    (huncovered : Uncovered c rest) : isRecognizable c = false := by
  have hword := huncovered.noWord
  have hblank := huncovered.noBlank
  rw [Unicode.isBlank_eq_has] at hblank
  rw [Unicode.isWord, Unicode.CharSet.word, Unicode.CharSet.mem_ofTables] at hword
  have htables : ∀ table ∈ Unicode.wordTables, table.has c.toNat = false := by
    intro table htable
    rw [← Bool.not_eq_true]
    intro hhas
    rw [Unicode.anyHas_of_mem htable hhas] at hword
    contradiction
  have hunderscore : c ≠ '_' := by
    rintro rfl
    have hjoins : Unicode.connectorPunctuation.has '_'.toNat = true := by decide
    rw [htables _ (by simp [Unicode.wordTables])] at hjoins
    exact Bool.false_ne_true hjoins
  simp only [Unicode.wordTables, Unicode.alphabeticTables, List.cons_append,
    List.nil_append, List.forall_mem_cons] at htables
  simp [isRecognizable, RangeTable.anyHas, htables, hunderscore, hblank,
    huncovered.noSlash]

/-- Each segment of a sample is without a rule exactly where no rule can begin,
and stands for one character then. -/
structure FallsBack (text : Text) : Prop where
  boundary : ∀ before segment after, segments text = before ++ segment :: after →
    ∃ c rest, text = (before.map Segment.text).flatten ++ c :: rest ∧
      segment.start = byteLength (before.map Segment.text).flatten ∧
      (segment.rule = none ↔ Uncovered c rest) ∧
      (segment.rule = none → segment.text = [c] ∧ segment.fragment = quoted [c])
  unrecognizable : ∀ segment ∈ segments text, segment.rule = none →
    ∀ c ∈ segment.text, isRecognizable c = false

/-- A segment has no rule exactly where nothing is covered. -/
theorem rule_first_eq_none_iff (start : Nat) {c : Char} {rest : Text} :
    (Segment.first start c rest).rule = none ↔ Uncovered c rest := by
  rw [← coveringRule?_eq_none_iff, Segment.first]
  split
  case h_1 rule length hcovered => simp [hcovered]
  case h_2 hnone => simp [hnone]

theorem text_first_of_uncovered (start : Nat) {c : Char} {rest : Text}
    (huncovered : Uncovered c rest) : (Segment.first start c rest).text = [c] := by
  rw [Segment.first, coveringRule?_eq_none_iff.2 huncovered]

/-- The segments of a sample stand for single characters exactly where no rule can
begin. -/
theorem segments_fallsBack (text : Text) : FallsBack text := by
  have hboundary : ∀ before segment after, segments text = before ++ segment :: after →
      ∃ c rest, text = (before.map Segment.text).flatten ++ c :: rest ∧
        segment.start = byteLength (before.map Segment.text).flatten ∧
        (segment.rule = none ↔ Uncovered c rest) ∧
        (segment.rule = none → segment.text = [c] ∧ segment.fragment = quoted [c]) := by
    intro before segment after hsegments
    obtain ⟨c, rest, htext, rfl⟩ := exists_eq_first hsegments
    refine ⟨c, rest, htext, ?_, rule_first_eq_none_iff _, ?_⟩
    · rw [start_first, Nat.zero_add]
    · intro hnone
      have huncovered := (rule_first_eq_none_iff _).1 hnone
      rw [Segment.fragment, hnone, text_first_of_uncovered _ huncovered]
      exact ⟨rfl, rfl⟩
  refine ⟨hboundary, fun segment hsegment hnone d hd => ?_⟩
  obtain ⟨before, after, hsegments⟩ := List.append_of_mem hsegment
  obtain ⟨c, rest, _, _, huncovered, hchar⟩ := hboundary before segment after hsegments
  rw [(hchar hnone).1, List.mem_singleton] at hd
  rw [hd]
  exact (huncovered.1 hnone).not_isRecognizable

end PatternWorkbench.Inference
