import PatternWorkbench.Inference.Rule
import PatternWorkbench.Proofs.Unicode.Ascii

/-!
# Covers and texts of a shape

What a shape covers is a text of the shape.  Taking as many characters as
allowed is never wrong: where neighbouring runs have no character in common or a
fixed length, a text of the shape that stands at the beginning of another is
covered, and what is covered is no shorter.
-/

namespace PatternWorkbench.Inference

/-! ## Kinds and counts -/

theorem Kind.isDigit_of_oneToFive {c : Char} (hholds : oneToFive.holds c = true) :
    c.isDigit = true := by
  rw [holds, Bool.and_eq_true, decide_eq_true_eq, decide_eq_true_eq] at hholds
  have hlow : '0'.toNat ≤ c.toNat := Nat.le_trans (by decide) hholds.1
  have hhigh : c.toNat ≤ '9'.toNat := Nat.le_trans hholds.2 (by decide)
  exact Char.isDigit_iff_toNat.2 ⟨hlow, hhigh⟩

theorem Kind.isAlpha_of_letter {c : Char} (hholds : letter.holds c = true) :
    c.isAlpha = true := by
  rw [holds, Bool.or_eq_true] at hholds
  apply Bool.or_eq_true_iff.2
  apply hholds.imp_left
  intro hupper
  rw [Bool.and_eq_true, decide_eq_true_eq, decide_eq_true_eq] at hupper
  exact decide_eq_true hupper

def Kind.isWordy : Kind → Bool
  | exact c => c.isAlphanum
  | decimal | word | lower | upper | letter | oneToFive => true
  | blank | nonBlank | sign | path | any => false

theorem Kind.isWord_of_holds {kind : Kind} {c : Char} (hwordy : kind.isWordy = true)
    (hholds : kind.holds c = true) : Unicode.isWord c = true := by
  have hletter (hletter : letter.holds c = true) : Unicode.isWord c = true := by
    apply Unicode.isWord_of_isAlphanum
    rw [Char.isAlphanum, isAlpha_of_letter hletter, Bool.true_or]
  cases kind with
  | exact expected =>
      obtain rfl : c = expected := by simpa [holds] using hholds
      exact Unicode.isWord_of_isAlphanum hwordy
  | decimal => exact Unicode.isWord_of_isDecimal hholds
  | word => exact hholds
  | lower => exact hletter (Bool.or_eq_true_iff.2 (Or.inr hholds))
  | upper => exact hletter (Bool.or_eq_true_iff.2 (Or.inl hholds))
  | letter => exact hletter hholds
  | oneToFive =>
      have hdigit := isDigit_of_oneToFive hholds
      exact Unicode.isWord_of_isAlphanum (by simp [Char.isAlphanum, hdigit])
  | blank | nonBlank | sign | path | any => contradiction

def Kind.isSolid : Kind → Bool
  | exact c => !Unicode.whiteSpace.has c.toNat
  | nonBlank | path => true
  | kind => kind.isWordy

theorem Kind.not_isBlank_of_holds {kind : Kind} {c : Char} (hsolid : kind.isSolid = true)
    (hholds : kind.holds c = true) : Unicode.isBlank c = false := by
  have hword (hwordy : kind.isWordy = true) : Unicode.isBlank c = false := by
    rw [← Bool.not_eq_true]
    intro hblank
    have hno := Unicode.not_isWord_of_isBlank hblank
    rw [isWord_of_holds hwordy hholds] at hno
    contradiction
  cases kind with
  | exact expected =>
      obtain rfl : c = expected := by simpa [holds] using hholds
      have hfree : (!Unicode.whiteSpace.has c.toNat) = true := hsolid
      rwa [Bool.not_eq_true', ← Unicode.isBlank_eq_has] at hfree
  | nonBlank => simpa [holds] using hholds
  | path =>
      rw [holds, Bool.and_eq_true, Bool.not_eq_true'] at hholds
      exact hholds.1
  | decimal | word | lower | upper | letter | oneToFive | blank | sign | any =>
      exact hword hsolid

def Kind.lacksDecimals : Kind → Bool
  | exact c => c.toNat < 0x80 && !c.isDigit
  | sign => true
  | decimal | word | blank | nonBlank | lower | upper | letter | oneToFive | path | any =>
      false

theorem Kind.not_holds_of_isDecimal {kind : Kind} {c : Char}
    (hlacks : kind.lacksDecimals = true) (hdecimal : Unicode.isDecimal c = true) :
    kind.holds c = false := by
  have hne {d : Char} (hascii : d.toNat < 0x80) (hdigit : d.isDigit = false) : c ≠ d := by
    rintro rfl
    rw [Unicode.isDecimal_eq_isDigit hascii, hdigit] at hdecimal
    contradiction
  cases kind with
  | exact d =>
      simp only [lacksDecimals, Bool.and_eq_true, decide_eq_true_eq, Bool.not_eq_true']
        at hlacks
      simpa [holds] using hne hlacks.1 hlacks.2
  | sign =>
      have hplus : c ≠ '+' := hne (by decide) (by decide)
      have hminus : c ≠ '-' := hne (by decide) (by decide)
      simp [holds, hplus, hminus]
  | decimal | word | blank | nonBlank | lower | upper | letter | oneToFive | path | any =>
      contradiction

namespace Count

def bound : Count → Option Nat
  | exactly count => some count
  | between _ high => some high
  | oneOrMore | anyNumber => none

theorem most_le_bound (available : Nat) (count : Count) :
    ∀ bound ∈ count.bound, count.most available ≤ bound := by
  intro highest hhighest
  cases count with
  | exactly count =>
      obtain rfl : count = highest := by simpa [bound] using hhighest
      exact Nat.min_le_right _ _
  | between low high =>
      obtain rfl : high = highest := by simpa [bound] using hhighest
      exact Nat.min_le_right _ _
  | oneOrMore | anyNumber => simp [bound] at hhighest

/-- A run takes no fewer characters than it may. -/
theorem le_most {available length : Nat} {count : Count} (hle : length ≤ available)
    (hbound : ∀ bound ∈ count.bound, length ≤ bound) :
    length ≤ count.most available := by
  cases count with
  | exactly count => exact Nat.le_min.2 ⟨hle, hbound count rfl⟩
  | between low high => exact Nat.le_min.2 ⟨hle, hbound high rfl⟩
  | oneOrMore | anyNumber => exact hle

end Count

/-! ## Texts of a shape -/

/-- Characters of the kind, as many as the run may have. -/
structure Run.Passes (run : Run) (text : Text) : Prop where
  holds : ∀ c ∈ text, run.kind.holds c = true
  least : run.count.least ≤ text.length
  bound : ∀ bound ∈ run.count.bound, text.length ≤ bound

inductive RowPasses : List Run → Text → Prop where
  | nil : RowPasses [] []
  | cons {run : Run} {runs : List Run} {first later : Text}
      (hfirst : run.Passes first) (hlater : RowPasses runs later) :
      RowPasses (run :: runs) (first ++ later)

def Shape.Passes : Shape → Text → Prop
  | row runs, text => RowPasses runs text
  | oneOf words, text => text ∈ words

theorem Run.passes_exactly_iff {kind : Kind} {count : Nat} {text : Text} :
    (⟨kind, .exactly count⟩ : Run).Passes text ↔
      text.length = count ∧ ∀ c ∈ text, kind.holds c = true := by
  constructor
  · intro hpasses
    exact ⟨Nat.le_antisymm (hpasses.bound count rfl) hpasses.least, hpasses.holds⟩
  · rintro ⟨rfl, hholds⟩
    refine ⟨hholds, Nat.le_refl _, fun bound hbound => ?_⟩
    exact Nat.le_of_eq (Option.some.inj hbound)

theorem Run.passes_one_iff {kind : Kind} {text : Text} :
    (Run.one kind).Passes text ↔ ∃ c, text = [c] ∧ kind.holds c = true := by
  rw [one, passes_exactly_iff, List.length_eq_one_iff]
  constructor
  · rintro ⟨⟨c, rfl⟩, hholds⟩
    exact ⟨c, rfl, hholds c (by simp)⟩
  · rintro ⟨c, rfl, hholds⟩
    exact ⟨⟨c, rfl⟩, by simpa using hholds⟩

theorem rowPasses_nil_iff {text : Text} : RowPasses [] text ↔ text = [] := by
  constructor
  · rintro ⟨⟩
    rfl
  · rintro rfl
    exact .nil

theorem rowPasses_cons_iff {run : Run} {runs : List Run} {text : Text} :
    RowPasses (run :: runs) text ↔
      ∃ first later, text = first ++ later ∧ run.Passes first ∧ RowPasses runs later := by
  constructor
  · rintro ⟨⟩
    exact ⟨_, _, rfl, ‹_›, ‹_›⟩
  · rintro ⟨first, later, rfl, hfirst, hlater⟩
    exact .cons hfirst hlater

namespace RowPasses

variable {runs : List Run} {text : Text}

/-- Each character of a row is of the kind of one of its runs. -/
theorem exists_run (hpasses : RowPasses runs text) :
    ∀ c ∈ text, ∃ run ∈ runs, run.kind.holds c = true := by
  induction hpasses with
  | nil => simp
  | @cons run runs first later hfirst _ ih =>
      intro c hc
      rcases List.mem_append.1 hc with hc | hc
      · exact ⟨run, by simp, hfirst.holds c hc⟩
      · obtain ⟨other, hother, hholds⟩ := ih c hc
        exact ⟨other, List.mem_cons_of_mem run hother, hholds⟩

/-- Each run that is not optional has a character in the text. -/
theorem exists_char (hpasses : RowPasses runs text) :
    ∀ run ∈ runs, 1 ≤ run.count.least → ∃ c ∈ text, run.kind.holds c = true := by
  induction hpasses with
  | nil => simp
  | @cons run runs first later hfirst _ ih =>
      intro other hother hleast
      rcases List.mem_cons.1 hother with rfl | hother
      · have hlength : 0 < first.length := Nat.lt_of_lt_of_le hleast hfirst.least
        obtain ⟨c, hc⟩ := List.exists_mem_of_length_pos hlength
        exact ⟨c, List.mem_append_left later hc, hfirst.holds c hc⟩
      · obtain ⟨c, hc, hholds⟩ := ih other hother hleast
        exact ⟨c, List.mem_append_right first hc, hholds⟩

/-- The characters that a row names are in its texts. -/
theorem mem_of_exact {c : Char} (hpasses : RowPasses runs text)
    (hrun : Run.one (.exact c) ∈ runs) : c ∈ text := by
  obtain ⟨d, hd, hholds⟩ := hpasses.exists_char _ hrun (Nat.le_refl 1)
  obtain rfl : d = c := by simpa [Run.one, Kind.holds] using hholds
  exact hd

/-- A row whose first run is not optional begins with a character of it. -/
theorem holds_head {run : Run} {c : Char} (hpasses : RowPasses (run :: runs) (c :: text))
    (hleast : 1 ≤ run.count.least) : run.kind.holds c = true := by
  generalize hwhole : c :: text = whole at hpasses
  cases hpasses with
  | @cons _ _ first later hfirst _ =>
      cases first with
      | nil =>
          have := hfirst.least
          simp only [List.length_nil] at this
          omega
      | cons d first =>
          obtain rfl := (List.cons.inj hwhole).1
          exact hfirst.holds c (by simp)

theorem exists_cons {run : Run} (hpasses : RowPasses (run :: runs) text)
    (hleast : 1 ≤ run.count.least) :
    ∃ c rest, text = c :: rest ∧ run.kind.holds c = true := by
  cases text with
  | nil =>
      obtain ⟨c, hc, _⟩ := hpasses.exists_char run (by simp) hleast
      simp at hc
  | cons c rest => exact ⟨c, rest, rfl, hpasses.holds_head hleast⟩

end RowPasses

/-! ## What is covered -/

theorem all_take_takeWhile {p : Char → Bool} {text : Text} {count : Nat}
    (hcount : count ≤ (text.takeWhile p).length) :
    ∀ c ∈ text.take count, p c = true := by
  have htaken := List.prefix_iff_eq_take.1 (List.takeWhile_prefix p (l := text))
  have hshorter : text.take count = (text.takeWhile p).take count := by
    rw [htaken, List.take_take, Nat.min_eq_left hcount]
  intro c hc
  rw [hshorter] at hc
  exact List.all_eq_true.1 List.all_takeWhile c (List.mem_of_mem_take hc)

/-- A run takes as many characters as it may, and no fewer than it must. -/
theorem Run.cover?_eq_some_iff {run : Run} {text : Text} {taken : Nat} :
    run.cover? text = some taken ↔
      taken = run.count.most (text.takeWhile run.kind.holds).length ∧
        run.count.least ≤ taken := by
  simp only [cover?]
  split
  case isTrue hfew =>
    constructor
    · intro hcover
      contradiction
    · rintro ⟨rfl, hleast⟩
      omega
  case isFalse hleast =>
    rw [Option.some_inj]
    constructor
    · rintro rfl
      exact ⟨rfl, Nat.le_of_not_lt hleast⟩
    · rintro ⟨rfl, _⟩
      rfl

theorem Run.cover?_le {run : Run} {text : Text} {taken : Nat}
    (hcover : run.cover? text = some taken) : taken ≤ text.length := by
  obtain ⟨rfl, _⟩ := cover?_eq_some_iff.1 hcover
  exact Nat.le_trans (Count.most_le _ _) (Shape.length_takeWhile_le _ _)

theorem Run.passes_of_cover? {run : Run} {text : Text} {taken : Nat}
    (hcover : run.cover? text = some taken) : run.Passes (text.take taken) := by
  have hlength := List.length_take_of_le (cover?_le hcover)
  obtain ⟨rfl, hleast⟩ := cover?_eq_some_iff.1 hcover
  constructor
  · exact all_take_takeWhile (Count.most_le _ _)
  · rwa [hlength]
  · rw [hlength]
    exact Count.most_le_bound _ _

theorem not_holds_behind_takeWhile {p : Char → Bool} {text : Text} {c : Char}
    (hc : text[(text.takeWhile p).length]? = some c) : p c = false := by
  induction text with
  | nil => simp at hc
  | cons d text ih =>
      cases hd : p d with
      | true =>
          rw [List.takeWhile_cons, if_pos hd, List.length_cons, List.getElem?_cons_succ] at hc
          exact ih hc
      | false =>
          rw [List.takeWhile_cons, if_neg (by simp [hd])] at hc
          obtain rfl : d = c := by simpa using hc
          exact hd

theorem Count.most_eq (available : Nat) (count : Count) :
    count.bound = some (count.most available) ∨ count.most available = available := by
  cases count with
  | exactly count =>
      rcases Nat.le_total available count with hle | hle
      · exact Or.inr (Nat.min_eq_left hle)
      · exact Or.inl (congrArg some (Nat.min_eq_right hle).symm)
  | between low high =>
      rcases Nat.le_total available high with hle | hle
      · exact Or.inr (Nat.min_eq_left hle)
      · exact Or.inl (congrArg some (Nat.min_eq_right hle).symm)
  | oneOrMore | anyNumber => exact Or.inr rfl

/-- A run stops where it may not go on or has no more characters. -/
theorem Run.full_of_cover? {run : Run} {text : Text} {taken : Nat}
    (hcover : run.cover? text = some taken) :
    run.count.bound = some taken ∨
      ∀ c, text[taken]? = some c → run.kind.holds c = false := by
  obtain ⟨rfl, _⟩ := cover?_eq_some_iff.1 hcover
  refine (Count.most_eq _ _).imp_right fun hall c hc => ?_
  rw [hall] at hc
  exact not_holds_behind_takeWhile hc

namespace Shape

theorem coverRow?_cons_eq_some_iff {run : Run} {runs : List Run} {text : Text}
    {length : Nat} :
    coverRow? (run :: runs) text = some length ↔
      ∃ taken later, run.cover? text = some taken ∧
        coverRow? runs (text.drop taken) = some later ∧ length = taken + later := by
  simp only [coverRow?, Option.bind_eq_bind, Option.bind_eq_some_iff,
    Option.pure_def, Option.some_inj]
  constructor
  · rintro ⟨taken, hfirst, later, hlater, rfl⟩
    exact ⟨taken, later, hfirst, hlater, rfl⟩
  · rintro ⟨taken, later, hfirst, hlater, rfl⟩
    exact ⟨taken, hfirst, later, hlater, rfl⟩

/-- What a row covers is a text of the row. -/
theorem passes_of_coverRow? {runs : List Run} {text : Text} {length : Nat}
    (hcover : coverRow? runs text = some length) :
    RowPasses runs (text.take length) := by
  induction runs generalizing text length with
  | nil =>
      obtain rfl : 0 = length := by simpa [coverRow?] using hcover
      exact .nil
  | cons run runs ih =>
      obtain ⟨taken, later, hfirst, hlater, rfl⟩ := coverRow?_cons_eq_some_iff.1 hcover
      rw [List.take_add]
      exact .cons (Run.passes_of_cover? hfirst) (ih hlater)

theorem exists_word_of_cover? {words : List Text} {text : Text} {length : Nat}
    (hcover : (oneOf words).cover? text = some length) :
    ∃ word ∈ words, word <+: text ∧ length = word.length := by
  obtain ⟨word, hfind, rfl⟩ := Option.map_eq_some_iff.1 hcover
  have hstarts := List.find?_some hfind
  exact ⟨word, List.mem_of_find?_eq_some hfind, List.isPrefixOf_iff_prefix.1 hstarts, rfl⟩

/-- What a shape covers is a text of the shape. -/
theorem passes_of_cover? {shape : Shape} {text : Text} {length : Nat}
    (hcover : shape.cover? text = some length) : shape.Passes (text.take length) := by
  cases shape with
  | row runs => exact passes_of_coverRow? hcover
  | oneOf words =>
      obtain ⟨word, hword, hbegins, rfl⟩ := exists_word_of_cover? hcover
      rwa [← List.prefix_iff_eq_take.1 hbegins]

theorem accepts_iff_cover? {shape : Shape} {text : Text} :
    shape.accepts text = true ↔ shape.cover? text = some text.length := by
  rw [accepts, beq_iff_eq]

theorem passes_of_accepts {shape : Shape} {text : Text}
    (haccepts : shape.accepts text = true) : shape.Passes text := by
  have hpasses := passes_of_cover? (accepts_iff_cover?.1 haccepts)
  rwa [List.take_length] at hpasses

end Shape

/-! ## Nothing shorter -/

/-- A run that cannot take too much: it is as long as it may be, or nothing comes
behind it, or nothing that it could take. -/
def Run.EndsBefore (run : Run) : List Run → Prop
  | [] => True
  | next :: _ => run.count.bound = some run.count.least ∨
      1 ≤ next.count.least ∧ ∀ c, run.kind.holds c = true → next.kind.holds c = false

/-- No run of a row can take what belongs to the next. -/
def Separated : List Run → Prop
  | [] => True
  | run :: runs => run.EndsBefore runs ∧ Separated runs

/-- A shape of which at most one text stands at the beginning of another, if it is
not the last run that goes on. -/
def Shape.IsPlain : Shape → Prop
  | row runs => Separated runs
  | oneOf words => ∀ word ∈ words, ∀ other ∈ words, word <+: other → word = other

theorem le_length_takeWhile {p : Char → Bool} {text : Text} (after : Text)
    (hholds : ∀ c ∈ text, p c = true) :
    text.length ≤ ((text ++ after).takeWhile p).length := by
  rw [List.takeWhile_append_of_pos hholds, List.length_append]
  exact Nat.le_add_right _ _

theorem takeWhile_append_cons {p : Char → Bool} {text : Text} {c : Char} (after : Text)
    (hholds : ∀ c ∈ text, p c = true) (hc : p c = false) :
    (text ++ c :: after).takeWhile p = text := by
  rw [List.takeWhile_append_of_pos hholds, List.takeWhile_cons, if_neg (by simp [hc]),
    List.append_nil]

/-- A text of a run at the beginning of another is covered. -/
theorem Run.exists_cover? {run : Run} {text : Text} (hpasses : run.Passes text)
    (after : Text) :
    ∃ taken, run.cover? (text ++ after) = some taken ∧ text.length ≤ taken := by
  have hle := Count.le_most (le_length_takeWhile after hpasses.holds) hpasses.bound
  exact ⟨_, cover?_eq_some_iff.2 ⟨rfl, Nat.le_trans hpasses.least hle⟩, hle⟩

/-- Before a text that it cannot take from, a run covers its own text and no
more. -/
theorem Run.cover?_append {run : Run} {runs : List Run} {first later : Text}
    (hends : run.EndsBefore runs) (hne : runs ≠ []) (hfirst : run.Passes first)
    (hlater : RowPasses runs later) (after : Text) :
    run.cover? (first ++ (later ++ after)) = some first.length := by
  obtain ⟨taken, hcover, hle⟩ := exists_cover? hfirst (later ++ after)
  obtain ⟨htaken, _⟩ := cover?_eq_some_iff.1 hcover
  suffices hge : taken ≤ first.length by rwa [Nat.le_antisymm hge hle] at hcover
  cases runs with
  | nil => contradiction
  | cons next runs =>
      rcases hends with hfixed | ⟨hleast, happart⟩
      · rw [htaken]
        exact Nat.le_trans (Count.most_le_bound _ _ _ hfixed) hfirst.least
      · obtain ⟨c, later, rfl, hnext⟩ := hlater.exists_cons hleast
        have hc : run.kind.holds c = false := by
          rw [← Bool.not_eq_true]
          intro hholds
          rw [happart c hholds] at hnext
          contradiction
        have hwhole : (first ++ (c :: later ++ after)).takeWhile run.kind.holds = first :=
          takeWhile_append_cons (later ++ after) hfirst.holds hc
        rw [htaken, hwhole]
        exact Count.most_le _ _

namespace Shape

/-- Where a text of a row stands, the row covers that text at least. -/
theorem exists_coverRow? {runs : List Run} {text : Text} (hseparated : Separated runs)
    (hpasses : RowPasses runs text) (after : Text) :
    ∃ length, coverRow? runs (text ++ after) = some length ∧ text.length ≤ length := by
  induction hpasses with
  | nil => exact ⟨0, rfl, Nat.le_refl 0⟩
  | @cons run runs first later hfirst hlater ih =>
      rw [List.append_assoc, List.length_append]
      -- Only the last run may go on into what comes behind the text.
      by_cases hnil : runs = []
      · subst hnil
        cases hlater
        obtain ⟨taken, hcover, hle⟩ := Run.exists_cover? hfirst ([] ++ after)
        exact ⟨taken, coverRow?_cons_eq_some_iff.2 ⟨taken, 0, hcover, rfl, rfl⟩, hle⟩
      · have hcover := Run.cover?_append hseparated.1 hnil hfirst hlater after
        obtain ⟨length, hrest, hle⟩ := ih hseparated.2
        refine ⟨first.length + length, coverRow?_cons_eq_some_iff.2
          ⟨_, _, hcover, ?_, rfl⟩, Nat.add_le_add_left hle _⟩
        rwa [List.drop_left]

theorem cover?_of_mem {words : List Text} {word : Text} (hplain : (oneOf words).IsPlain)
    (hword : word ∈ words) (after : Text) :
    (oneOf words).cover? (word ++ after) = some word.length := by
  have hbegins : word <+: word ++ after := List.prefix_append word after
  cases hcover : (oneOf words).cover? (word ++ after) with
  | none =>
      have hnone := List.find?_eq_none.1 (Option.map_eq_none_iff.1 hcover) word hword
      exact absurd (List.isPrefixOf_iff_prefix.2 hbegins) hnone
  | some length =>
      obtain ⟨other, hother, hprefix, rfl⟩ := exists_word_of_cover? hcover
      rcases List.prefix_or_prefix_of_prefix hbegins hprefix with hshort | hshort
      · rw [hplain word hword other hother hshort]
      · rw [hplain other hother word hword hshort]

/-- A text of the shape at the beginning of another is covered, and nothing
shorter is. -/
theorem exists_cover? {shape : Shape} {text : Text} (hplain : shape.IsPlain)
    (hpasses : shape.Passes text) (after : Text) :
    ∃ length, shape.cover? (text ++ after) = some length ∧ text.length ≤ length := by
  cases shape with
  | row runs => exact exists_coverRow? hplain hpasses after
  | oneOf words => exact ⟨_, cover?_of_mem hplain hpasses after, Nat.le_refl _⟩

/-- A shape accepts its texts and no others. -/
theorem accepts_iff {shape : Shape} (hplain : shape.IsPlain) {text : Text} :
    shape.accepts text = true ↔ shape.Passes text := by
  refine ⟨passes_of_accepts, fun hpasses => accepts_iff_cover?.2 ?_⟩
  obtain ⟨length, hcover, hle⟩ := exists_cover? hplain hpasses []
  rw [List.append_nil] at hcover
  rw [hcover, Nat.le_antisymm (cover?_le hcover) hle]

/-- One or more characters of a kind are accepted, and nothing else is. -/
theorem accepts_manyOf_iff {kind : Kind} {text : Text} :
    (manyOf kind).accepts text = true ↔
      text ≠ [] ∧ ∀ c ∈ text, kind.holds c = true := by
  have hplain : (manyOf kind).IsPlain := ⟨trivial, trivial⟩
  rw [accepts_iff hplain, ← List.length_pos_iff]
  constructor
  · intro hpasses
    obtain ⟨first, later, rfl, hfirst, hlater⟩ := rowPasses_cons_iff.1 hpasses
    rw [rowPasses_nil_iff.1 hlater, List.append_nil]
    exact ⟨hfirst.least, hfirst.holds⟩
  · rintro ⟨hleast, hholds⟩
    have hrun : (⟨kind, .oneOrMore⟩ : Run).Passes text :=
      ⟨hholds, hleast, by simp [Count.bound]⟩
    exact rowPasses_cons_iff.2 ⟨text, [], (List.append_nil text).symm, hrun, .nil⟩

end Shape

/-! ## Rules -/

/-- A rule covers what its shape covers, if what follows agrees. -/
theorem Rule.cover?_eq_some_iff {rule : Rule} {text : Text} {length : Nat} :
    rule.cover? text = some length ↔
      rule.shape.cover? text = some length ∧ 0 < length ∧
        rule.follow.agrees (text.drop length) = true := by
  simp only [cover?, Option.bind_eq_bind, Option.bind_eq_some_iff]
  constructor
  · rintro ⟨width, hshape, hagrees⟩
    split at hagrees
    case isFalse => contradiction
    case isTrue hboth =>
      obtain rfl := Option.some.inj hagrees
      rw [Bool.and_eq_true, decide_eq_true_eq] at hboth
      exact ⟨hshape, hboth⟩
  · rintro ⟨hshape, hlength, hagrees⟩
    exact ⟨length, hshape, by simp [hlength, hagrees]⟩

/-- The shapes of the rules take no more than they should. -/
theorem Rule.isPlain_shape (rule : Rule) : rule.shape.IsPlain := by
  have hdecimals {low high : Nat} {separator : Char} {runs : List Run}
      (hlacks : (Kind.exact separator).lacksDecimals = true) :
      (⟨.decimal, .between low high⟩ : Run).EndsBefore (.one (.exact separator) :: runs) :=
    Or.inr ⟨Nat.le_refl 1, fun _ hc => Kind.not_holds_of_isDecimal hlacks hc⟩
  cases rule with
  | ipv4 =>
      have hpoint {runs : List Run} := @hdecimals 1 3 '.' runs (by decide)
      exact ⟨hpoint, Or.inl rfl, hpoint, Or.inl rfl, hpoint, Or.inl rfl, trivial, trivial⟩
  | method => show ∀ word ∈ _, _; decide
  | httpVersion =>
      exact ⟨Or.inl rfl, Or.inl rfl, Or.inl rfl, Or.inl rfl, Or.inl rfl, Or.inl rfl,
        Or.inl rfl, trivial, trivial⟩
  | date =>
      exact ⟨hdecimals (by decide), Or.inl rfl, Or.inl rfl, Or.inl rfl, trivial, trivial⟩
  | isoDate | time => exact ⟨Or.inl rfl, Or.inl rfl, Or.inl rfl, Or.inl rfl, trivial, trivial⟩
  | status | timezone | path => exact ⟨Or.inl rfl, trivial, trivial⟩
  | digits | lowercase | uppercase | word | whitespace => exact ⟨trivial, trivial⟩

def Shape.firstKinds : Shape → List Kind
  | row runs => (runs.head?.map Run.kind).toList
  | oneOf words => words.filterMap fun word => word.head?.map .exact

/-- A rule covers only what its shape can begin with. -/
theorem Rule.exists_firstKind {rule : Rule} {c : Char} {rest : Text} {length : Nat}
    (hcover : rule.cover? (c :: rest) = some length) :
    ∃ kind ∈ rule.shape.firstKinds, kind.holds c = true := by
  obtain ⟨hshape, hlength, _⟩ := cover?_eq_some_iff.1 hcover
  obtain ⟨length, rfl⟩ := Nat.exists_eq_succ_of_ne_zero (Nat.ne_of_gt hlength)
  have hpasses := Shape.passes_of_cover? hshape
  rw [List.take_succ_cons] at hpasses
  have hrow {run : Run} {runs : List Run} (hleast : 1 ≤ run.count.least)
      (hpasses : (Shape.row (run :: runs)).Passes (c :: rest.take length)) :
      ∃ kind ∈ (Shape.row (run :: runs)).firstKinds, kind.holds c = true :=
    ⟨run.kind, by simp [Shape.firstKinds], RowPasses.holds_head hpasses hleast⟩
  cases rule with
  | method => exact ⟨.exact c, List.mem_filterMap.2 ⟨_, hpasses, rfl⟩, beq_self_eq_true c⟩
  | ipv4 | httpVersion | status | date | isoDate | time | timezone | path | digits
  | lowercase | uppercase | word | whitespace => exact hrow (by decide) hpasses

theorem Rule.cover?_eq_none_of_first {rule : Rule} {c : Char} {rest : Text}
    (hkinds : ∀ kind ∈ rule.shape.firstKinds, kind.holds c = false) :
    rule.cover? (c :: rest) = none := by
  rw [Option.eq_none_iff_forall_ne_some]
  intro length hcover
  obtain ⟨kind, hkind, hholds⟩ := exists_firstKind hcover
  rw [hkinds kind hkind] at hholds
  contradiction

end PatternWorkbench.Inference
