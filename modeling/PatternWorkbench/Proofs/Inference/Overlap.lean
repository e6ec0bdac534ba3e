import Mathlib.Data.List.Basic
import PatternWorkbench.Proofs.Inference.Agreement

/-!
# Which entries accept together

The entries for shapes of their own accept different texts.  What such an entry
accepts is accepted by the general ones behind it too, so the order of the
catalogue only decides between a shape and the more general ones.  A text with a
line feed has no shape at all.
-/

namespace PatternWorkbench.Inference

/-! ## Characters of a shape's texts -/

def Shape.isInhabited : Shape → Bool
  | row runs => runs.any fun run => 1 ≤ run.count.least
  | oneOf words => words.all fun word => !word.isEmpty

namespace Shape

variable {shape : Shape} {text : Text}

theorem ne_nil_of_accepts (hinhabited : shape.isInhabited = true)
    (haccepts : shape.accepts text = true) : text ≠ [] := by
  have hpasses := passes_of_accepts haccepts
  rintro rfl
  cases shape with
  | row runs =>
      obtain ⟨run, hrun, hleast⟩ := List.any_eq_true.1 hinhabited
      obtain ⟨c, hc, _⟩ := RowPasses.exists_char hpasses run hrun (of_decide_eq_true hleast)
      exact List.not_mem_nil hc
  | oneOf words =>
      have hempty := List.all_eq_true.1 hinhabited [] hpasses
      contradiction

/-- A shape made of more special kinds of characters. -/
theorem accepts_manyOf {kind : Kind} (hinhabited : shape.isInhabited = true)
    (hkinds : ∀ other ∈ shape.kinds, ∀ c, other.holds c = true → kind.holds c = true)
    (haccepts : shape.accepts text = true) : (manyOf kind).accepts text = true := by
  apply accepts_manyOf_iff.2
  refine ⟨ne_nil_of_accepts hinhabited haccepts, fun c hc => ?_⟩
  obtain ⟨other, hother, hholds⟩ := exists_kind haccepts c hc
  exact hkinds other hother c hholds

/-- A row that cannot begin with a character has no text that does. -/
theorem head?_ne {run : Run} {runs : List Run} {c : Char}
    (haccepts : (row (run :: runs)).accepts text = true) (hleast : 1 ≤ run.count.least)
    (homits : run.kind.omits c = true) : text.head? ≠ some c := by
  obtain ⟨d, rest, rfl, hholds⟩ := RowPasses.exists_cons (passes_of_accepts haccepts) hleast
  intro hhead
  obtain rfl : d = c := Option.some.inj hhead
  rw [Kind.not_holds_of_omits homits] at hholds
  contradiction

end Shape

/-! ## Entries for shapes of their own -/

section Told

variable {text : Text}

/-- The entries of which no two accept the same text. -/
def exclusive : List Entry :=
  [.ipv4, .path, .date, .time, .digits, .word]

/-- The one of them that can accept a text, told by a few characters. -/
def told (text : Text) : Entry :=
  if text.head? = some '/' then .path
  else if '.' ∈ text then .ipv4
  else if ':' ∈ text then .time
  else if '/' ∈ text ∨ '-' ∈ text then .date
  else if text.any Unicode.isAlphabetic = true then .word
  else .digits

theorem told_of_ipv4 (haccepts : Shape.ipv4.accepts text = true) : told text = .ipv4 := by
  have hslash := Shape.head?_ne haccepts (c := '/') (by decide) (by decide)
  have hpoint : '.' ∈ text :=
    RowPasses.mem_of_exact (Shape.passes_of_accepts haccepts) (by decide)
  rw [told, if_neg hslash, if_pos hpoint]

theorem told_of_path (haccepts : Shape.path.accepts text = true) : told text = .path := by
  obtain ⟨c, rest, rfl, hc⟩ := RowPasses.exists_cons (Shape.passes_of_accepts haccepts)
    (Nat.le_refl 1)
  obtain rfl : c = '/' := by simpa [Run.one, Kind.holds] using hc
  rw [told, List.head?_cons, if_pos rfl]

theorem told_of_time (haccepts : Shape.time.accepts text = true) : told text = .time := by
  have hslash := Shape.head?_ne haccepts (c := '/') (by decide) (by decide)
  have hpoint := Shape.not_mem_of_omits (c := '.') haccepts (by decide)
  have hcolon : ':' ∈ text :=
    RowPasses.mem_of_exact (Shape.passes_of_accepts haccepts) (by decide)
  rw [told, if_neg hslash, if_neg hpoint, if_pos hcolon]

theorem told_of_date {shape : Shape} (hshape : shape ∈ dateShapes)
    (haccepts : shape.accepts text = true) : told text = .date := by
  have homits : ∀ shape ∈ dateShapes, ∀ kind ∈ shape.kinds,
      kind.omits '.' = true ∧ kind.omits ':' = true := by decide
  have hpoint : '.' ∉ text :=
    Shape.not_mem_of_omits haccepts fun kind hkind => (homits shape hshape kind hkind).1
  have hcolon : ':' ∉ text :=
    Shape.not_mem_of_omits haccepts fun kind hkind => (homits shape hshape kind hkind).2
  suffices hmarks : text.head? ≠ some '/' ∧ ('/' ∈ text ∨ '-' ∈ text) by
    rw [told, if_neg hmarks.1, if_neg hpoint, if_neg hcolon, if_pos hmarks.2]
  have hrow {runs : List Run} {c : Char} (hrun : Run.one (.exact c) ∈ runs)
      (haccepts : (Shape.row runs).accepts text = true) : c ∈ text :=
    RowPasses.mem_of_exact (Shape.passes_of_accepts haccepts) hrun
  rw [dateShapes, List.mem_cons, List.mem_cons, List.mem_singleton] at hshape
  rcases hshape with rfl | rfl | rfl
  · exact ⟨Shape.head?_ne haccepts (by decide) (by decide),
      Or.inl (hrow (by decide) haccepts)⟩
  · exact ⟨Shape.head?_ne haccepts (by decide) (by decide),
      Or.inr (hrow (by decide) haccepts)⟩
  · exact ⟨Shape.head?_ne haccepts (by decide) (by decide),
      Or.inl (hrow (by decide) haccepts)⟩

/-- Neither numbers nor words have separators, so only letters tell them apart. -/
theorem told_of_manyOf {kind : Kind}
    (hkind : ∀ c ∈ ['.', '/', ':', '-'], kind.holds c = false)
    (haccepts : (Shape.manyOf kind).accepts text = true) :
    told text = if text.any Unicode.isAlphabetic = true then .word else .digits := by
  have hseparators : ∀ c ∈ ['.', '/', ':', '-'], c ∉ text := by
    intro c hc
    apply Shape.not_mem_of_kinds haccepts
    intro other hother
    rw [List.mem_singleton.1 hother]
    exact hkind c hc
  have hslash : text.head? ≠ some '/' :=
    fun hhead => hseparators '/' (by decide) (List.mem_of_head? hhead)
  have hdate : ¬('/' ∈ text ∨ '-' ∈ text) :=
    not_or.2 ⟨hseparators '/' (by decide), hseparators '-' (by decide)⟩
  rw [told, if_neg hslash, if_neg (hseparators '.' (by decide)),
    if_neg (hseparators ':' (by decide)), if_neg hdate]

theorem told_of_digits (haccepts : (Shape.manyOf .decimal).accepts text = true) :
    told text = .digits := by
  have homits : ['.', '/', ':', '-'].all Kind.decimal.omits = true := by decide
  have hletter : ¬text.any Unicode.isAlphabetic = true := by
    intro hany
    obtain ⟨c, hc, halphabetic⟩ := List.any_eq_true.1 hany
    have hdecimal := (Shape.accepts_manyOf_iff.1 haccepts).2 c hc
    rw [Unicode.not_isAlphabetic_of_isDecimal hdecimal] at halphabetic
    contradiction
  have hkind : ∀ c ∈ ['.', '/', ':', '-'], Kind.decimal.holds c = false :=
    fun c hc => Kind.not_holds_of_omits (List.all_eq_true.1 homits c hc)
  rw [told_of_manyOf hkind haccepts, if_neg hletter]

theorem told_of_word (haccepts : (Shape.manyOf .word).accepts text = true)
    (hletter : text.any Unicode.isAlphabetic = true) : told text = .word := by
  have hkind : ∀ c ∈ ['.', '/', ':', '-'], Kind.word.holds c = false :=
    fun _ => Unicode.not_isWord_of_separator
  rw [told_of_manyOf hkind haccepts, if_pos hletter]

theorem exists_dateShape (haccepts : Entry.date.accepts text = true) :
    ∃ shape ∈ dateShapes, shape.accepts text = true := by
  rw [Entry.accepts, dateFragment?, Option.isSome_map] at haccepts
  obtain ⟨shape, hfind⟩ := Option.isSome_iff_exists.1 haccepts
  have hfound := List.find?_some hfind
  exact ⟨shape, List.mem_of_find?_eq_some hfind, hfound⟩

/-- An exclusive entry that accepts a text is the one told by its characters. -/
theorem eq_told {entry : Entry} (hentry : entry ∈ exclusive)
    (haccepts : entry.accepts text = true) : entry = told text := by
  cases entry with
  | ipv4 => exact (told_of_ipv4 haccepts).symm
  | path => exact (told_of_path haccepts).symm
  | time => exact (told_of_time haccepts).symm
  | digits => exact (told_of_digits haccepts).symm
  | date =>
      obtain ⟨shape, hshape, haccepts⟩ := exists_dateShape haccepts
      exact (told_of_date hshape haccepts).symm
  | word =>
      rw [Entry.accepts, Bool.and_eq_true] at haccepts
      exact (told_of_word haccepts.1 haccepts.2).symm
  | status | method | nonSpace | wildcard | literal => exact absurd hentry (by decide)

/-- The shape of a date, told by a hyphen or a letter. -/
def toldDate (text : Text) : Shape :=
  if '-' ∈ text then .isoDate
  else if text.any Kind.letter.holds = true then .dayMonthNameYear
  else .dayMonthYear

/-- No text is accepted by two shapes of dates. -/
theorem eq_toldDate {shape : Shape} (hshape : shape ∈ dateShapes)
    (haccepts : shape.accepts text = true) : shape = toldDate text := by
  rw [dateShapes, List.mem_cons, List.mem_cons, List.mem_singleton] at hshape
  rcases hshape with rfl | rfl | rfl
  · have hhyphen := Shape.not_mem_of_omits (c := '-') haccepts (by decide)
    obtain ⟨c, hc, hletter⟩ := RowPasses.exists_char (Shape.passes_of_accepts haccepts)
      ⟨.letter, .exactly 3⟩ (by decide) (by decide)
    rw [toldDate, if_neg hhyphen, if_pos (List.any_eq_true.2 ⟨c, hc, hletter⟩)]
  · have hhyphen : '-' ∈ text :=
      RowPasses.mem_of_exact (Shape.passes_of_accepts haccepts) (by decide)
    rw [toldDate, if_pos hhyphen]
  · have hhyphen := Shape.not_mem_of_omits (c := '-') haccepts (by decide)
    have hletter : ¬text.any Kind.letter.holds = true := by
      intro hany
      obtain ⟨c, hc, hletter⟩ := List.any_eq_true.1 hany
      obtain ⟨kind, hkind, hholds⟩ := Shape.exists_kind haccepts c hc
      have hkinds : ∀ kind ∈ Shape.dayMonthYear.kinds,
          kind = .decimal ∨ kind = .exact '/' := by decide
      rcases hkinds kind hkind with rfl | rfl
      · have hno := Unicode.not_isAlphabetic_of_isDecimal hholds
        rw [Unicode.isAlphabetic_of_isAlpha (Kind.isAlpha_of_letter hletter)] at hno
        contradiction
      · obtain rfl : c = '/' := by simpa [Kind.holds] using hholds
        contradiction
    rw [toldDate, if_neg hhyphen, if_neg hletter]

end Told

/-! ## General entries -/

section Chain

variable {text : Text}

theorem digits_of_status (haccepts : Entry.status.accepts text = true) :
    Entry.digits.accepts text = true := by
  have hkinds : ∀ kind ∈ Shape.statusCode.kinds, kind = .oneToFive ∨ kind = .decimal := by
    decide
  refine Shape.accepts_manyOf (by decide) (fun kind hkind c hholds => ?_) haccepts
  rcases hkinds kind hkind with rfl | rfl
  · exact Kind.decimal_of_oneToFive hholds
  · exact hholds

theorem word_of_method (haccepts : Entry.method.accepts text = true) :
    Entry.word.accepts text = true := by
  have hkinds : ∀ kind ∈ Shape.httpMethod.kinds, kind.isWordy = true := by decide
  have hword : (Shape.manyOf .word).accepts text = true :=
    Shape.accepts_manyOf (by decide)
      (fun kind hkind _ => Kind.isWord_of_holds (hkinds kind hkind)) haccepts
  have hletters : ∀ word ∈ ["GET", "POST", "PUT", "DELETE", "PATCH", "HEAD", "OPTIONS",
      "CONNECT", "TRACE"].map String.toList, word.any Char.isAlpha = true := by decide
  obtain ⟨c, hc, halpha⟩ :=
    List.any_eq_true.1 (hletters text (Shape.passes_of_accepts haccepts))
  rw [Entry.accepts, hword, Bool.true_and]
  exact List.any_eq_true.2 ⟨c, hc, Unicode.isAlphabetic_of_isAlpha halpha⟩

theorem nonSpace_of_shape {shape : Shape} (hinhabited : shape.isInhabited = true)
    (hsolid : ∀ kind ∈ shape.kinds, kind.isSolid = true)
    (haccepts : shape.accepts text = true) : Entry.nonSpace.accepts text = true := by
  refine Shape.accepts_manyOf hinhabited (fun kind hkind c hholds => ?_) haccepts
  rw [Kind.holds, Kind.not_isBlank_of_holds (hsolid kind hkind) hholds, Bool.not_false]

theorem nonSpace_of_exclusive {entry : Entry} (hentry : entry ∈ exclusive)
    (haccepts : entry.accepts text = true) : Entry.nonSpace.accepts text = true := by
  cases entry with
  | ipv4 | path | time | digits =>
      exact nonSpace_of_shape (by decide) (by decide) haccepts
  | date =>
      have hdates : ∀ shape ∈ dateShapes, shape.isInhabited = true ∧
          ∀ kind ∈ shape.kinds, kind.isSolid = true := by decide
      obtain ⟨shape, hshape, haccepts⟩ := exists_dateShape haccepts
      exact nonSpace_of_shape (hdates shape hshape).1 (hdates shape hshape).2 haccepts
  | word =>
      rw [Entry.accepts, Bool.and_eq_true] at haccepts
      exact nonSpace_of_shape (by decide) (by decide) haccepts.1
  | status | method | nonSpace | wildcard | literal => exact absurd hentry (by decide)

/-- The exclusive entry that accepts whatever an entry for a shape accepts. -/
def Entry.core : Entry → Entry
  | status => digits
  | method => word
  | entry => entry

/-- A text of an entry for a shape is a text of the exclusive entry behind it. -/
theorem core_accepts {entry : Entry} (haccepts : entry.accepts text = true) :
    entry.core.accepts text = true := by
  cases entry with
  | status => exact digits_of_status haccepts
  | method => exact word_of_method haccepts
  | ipv4 | path | date | time | digits | word | nonSpace | wildcard | literal =>
      exact haccepts

def shaped : List Entry :=
  catalogue.takeWhile (· != .nonSpace)

/-- Every text of a shape is without blanks. -/
theorem nonSpace_of_shaped {entry : Entry} (hentry : entry ∈ shaped)
    (haccepts : entry.accepts text = true) : Entry.nonSpace.accepts text = true := by
  have hcore : ∀ entry ∈ shaped, entry.core ∈ exclusive := by decide
  exact nonSpace_of_exclusive (hcore entry hentry) (core_accepts haccepts)

theorem wildcard_of_nonSpace (haccepts : Entry.nonSpace.accepts text = true) :
    Entry.wildcard.accepts text = true := by
  have hfeed : Unicode.isBlank '\n' = true := by
    rw [Unicode.isBlank_eq_has]
    decide
  obtain ⟨hne, hsolid⟩ := Shape.accepts_manyOf_iff.1 haccepts
  refine Shape.accepts_manyOf_iff.2 ⟨hne, fun c hc => ?_⟩
  suffices hbreak : c ≠ '\n' by simpa [Kind.holds] using hbreak
  rintro rfl
  have hblank := hsolid '\n' hc
  rw [Kind.holds, hfeed] at hblank
  contradiction

theorem wildcard_accepts_iff :
    Entry.wildcard.accepts text = true ↔ text ≠ [] ∧ '\n' ∉ text := by
  rw [Entry.accepts, Shape.accepts_manyOf_iff]
  apply and_congr_right
  intro _
  constructor
  · intro hany hfeed
    have hno := hany '\n' hfeed
    contradiction
  · intro hfeed c hc
    have hne : c ≠ '\n' := ne_of_mem_of_not_mem hc hfeed
    simpa [Kind.holds] using hne

theorem literal_accepts_iff : Entry.literal.accepts text = true ↔ text ≠ [] := by
  simp [Entry.accepts]

/-- Anything accepted unasked is accepted as anything. -/
theorem wildcard_of_autoSelect {entry : Entry} (hauto : entry.autoSelect = true)
    (haccepts : entry.accepts text = true) : Entry.wildcard.accepts text = true := by
  have hshaped (hentry : entry ∈ shaped) : Entry.wildcard.accepts text = true :=
    wildcard_of_nonSpace (nonSpace_of_shaped hentry haccepts)
  cases entry with
  | ipv4 | status | method | path | date | time | digits | word => exact hshaped (by decide)
  | nonSpace => exact wildcard_of_nonSpace haccepts
  | wildcard => exact haccepts
  | literal => contradiction

/-- Nothing is found for a text exactly if it is empty or has a line feed. -/
theorem classify?_eq_none_iff : classify? text = none ↔ text = [] ∨ '\n' ∈ text := by
  have hfind : classify? text = none ↔ Entry.wildcard.accepts text = false := by
    rw [classify?, Option.map_eq_none_iff, List.find?_eq_none]
    constructor
    · intro hnone
      simpa [Entry.autoSelect] using hnone .wildcard (by decide)
    · intro hwildcard entry _ hboth
      rw [Bool.and_eq_true] at hboth
      rw [wildcard_of_autoSelect hboth.1 hboth.2] at hwildcard
      contradiction
  rw [hfind, ← Bool.not_eq_true, wildcard_accepts_iff, not_and_or, not_not, not_not]

end Chain

/-! ## What the order decides -/

/-- The entries whose texts an entry takes from them by being asked earlier. -/
def Entry.overrides : Entry → List Entry
  | status => [digits, nonSpace, wildcard]
  | method => [word, nonSpace, wildcard]
  | ipv4 | path | date | time | digits | word => [nonSpace, wildcard]
  | nonSpace => [wildcard]
  | wildcard | literal => []

/-- Of two entries that accept a text unasked, one overrides the other. -/
theorem overrides_of_accepts {entry other : Entry} {text : Text}
    (hauto : entry.autoSelect = true) (hother : other.autoSelect = true)
    (haccepts : entry.accepts text = true) (halso : other.accepts text = true) :
    entry = other ∨ other ∈ entry.overrides ∨ entry ∈ other.overrides := by
  have htable : ∀ entry ∈ catalogue, ∀ other ∈ catalogue, entry.autoSelect = true →
      other.autoSelect = true →
        (entry.core ∈ exclusive → other.core ∈ exclusive → entry.core = other.core) →
          entry = other ∨ other ∈ entry.overrides ∨ entry ∈ other.overrides := by decide
  have hall (entry : Entry) : entry ∈ catalogue := by cases entry <;> decide
  refine htable entry (hall entry) other (hall other) hauto hother fun hcore hcore' => ?_
  calc entry.core
    _ = told text := eq_told hcore (core_accepts haccepts)
    _ = other.core := (eq_told hcore' (core_accepts halso)).symm

/-- The first of a list that has a property comes before all others that have it. -/
theorem find?_eq_some_iff_idxOf {p : Entry → Bool} {order : List Entry} {entry : Entry} :
    order.find? p = some entry ↔
      entry ∈ order ∧ p entry = true ∧
        ∀ other ∈ order, p other = true → order.idxOf entry ≤ order.idxOf other := by
  have hfirst {entry : Entry} (hfind : order.find? p = some entry) :
      ∀ other ∈ order, p other = true → order.idxOf entry ≤ order.idxOf other := by
    obtain ⟨hentry, earlier, later, rfl, hearlier⟩ := List.find?_eq_some_iff_append.1 hfind
    have hnot {other : Entry} (hother : p other = true) : other ∉ earlier := by
      intro hmem
      have := hearlier other hmem
      rw [hother] at this
      contradiction
    intro other _ hother
    rw [List.idxOf_append_of_notMem (hnot hentry), List.idxOf_cons_self,
      List.idxOf_append_of_notMem (hnot hother), Nat.add_zero]
    exact Nat.le_add_right _ _
  constructor
  · intro hfind
    exact ⟨List.mem_of_find?_eq_some hfind, List.find?_some hfind, hfirst hfind⟩
  · rintro ⟨hmem, hentry, hearliest⟩
    cases hfind : order.find? p with
    | none => exact absurd hentry (List.find?_eq_none.1 hfind entry hmem)
    | some found =>
        have hfound := List.mem_of_find?_eq_some hfind
        have hle := hearliest found hfound (List.find?_some hfind)
        have hge := hfirst hfind entry hmem hentry
        rw [(List.idxOf_inj hfound).1 (Nat.le_antisymm hge hle)]

/-- Any order that asks overriding entries earlier classifies in the same way. -/
theorem classify?_of_perm {order : List Entry} (hperm : order.Perm catalogue)
    (hoverrides : ∀ entry, ∀ other ∈ Entry.overrides entry,
      order.idxOf entry < order.idxOf other) (text : Text) :
    (order.find? fun entry => entry.autoSelect && entry.accepts text).map
      (·.fragment text) = classify? text := by
  have hcatalogue : ∀ entry ∈ catalogue, ∀ other ∈ entry.overrides,
      catalogue.idxOf entry < catalogue.idxOf other := by decide
  rw [classify?]
  congr 1
  cases hfind : catalogue.find? fun entry => entry.autoSelect && entry.accepts text with
  | none =>
      rw [List.find?_eq_none] at hfind ⊢
      exact fun entry hentry => hfind entry (hperm.mem_iff.1 hentry)
  | some entry =>
      obtain ⟨hmem, hentry, hfirst⟩ := find?_eq_some_iff_idxOf.1 hfind
      refine find?_eq_some_iff_idxOf.2 ⟨hperm.mem_iff.2 hmem, hentry, fun other hother hboth => ?_⟩
      have hlater := hfirst other (hperm.mem_iff.1 hother) hboth
      rw [Bool.and_eq_true] at hentry hboth
      rcases overrides_of_accepts hentry.1 hboth.1 hentry.2 hboth.2 with rfl | hover | hunder
      · exact Nat.le_refl _
      · exact Nat.le_of_lt (hoverrides entry other hover)
      · have := hcatalogue other (hperm.mem_iff.1 hother) entry hunder
        omega

structure Overlaps (text : Text) : Prop where
  unclassified : classify? text = none ↔ text = [] ∨ '\n' ∈ text
  exclusive : ∀ entry ∈ exclusive, ∀ other ∈ exclusive,
    entry.accepts text = true → other.accepts text = true → entry = other
  status : Entry.status.accepts text = true → Entry.digits.accepts text = true
  method : Entry.method.accepts text = true → Entry.word.accepts text = true
  nonSpace : ∀ entry ∈ shaped,
    entry.accepts text = true → Entry.nonSpace.accepts text = true
  wildcard : Entry.nonSpace.accepts text = true → Entry.wildcard.accepts text = true
  literal : Entry.wildcard.accepts text = true → Entry.literal.accepts text = true
  date : ∀ shape ∈ dateShapes, ∀ other ∈ dateShapes,
    shape.accepts text = true → other.accepts text = true → shape = other
  overridden : ∀ entry other : Entry, entry.autoSelect = true → other.autoSelect = true →
    entry.accepts text = true → other.accepts text = true →
      entry = other ∨ other ∈ entry.overrides ∨ entry ∈ other.overrides
  ordered : ∀ order : List Entry, order.Perm catalogue →
    (∀ entry, ∀ other ∈ Entry.overrides entry, order.idxOf entry < order.idxOf other) →
      (order.find? fun entry => entry.autoSelect && entry.accepts text).map
        (·.fragment text) = classify? text
  lineFeed : '\n' ∈ text → ∀ entry : Entry,
    entry.accepts text = true ↔ entry = .literal ∧ entry.autoSelect = false

/-- The entries of the catalogue accept the same text only where one is more general,
and their order decides between them. -/
theorem catalogue_overlaps (text : Text) : Overlaps text where
  unclassified := classify?_eq_none_iff
  exclusive entry hentry other hother haccepts halso := by
    rw [eq_told hentry haccepts, eq_told hother halso]
  status := digits_of_status
  method := word_of_method
  nonSpace _ := nonSpace_of_shaped
  wildcard := wildcard_of_nonSpace
  literal hwildcard := literal_accepts_iff.2 (wildcard_accepts_iff.1 hwildcard).1
  date shape hshape other hother haccepts halso := by
    rw [eq_toldDate hshape haccepts, eq_toldDate hother halso]
  overridden _ _ := overrides_of_accepts
  ordered _ hperm hoverrides := classify?_of_perm hperm hoverrides text
  lineFeed hfeed entry := by
    constructor
    · intro haccepts
      cases hauto : entry.autoSelect with
      | true =>
          have hwildcard := wildcard_of_autoSelect hauto haccepts
          exact absurd hfeed (wildcard_accepts_iff.1 hwildcard).2
      | false =>
          cases entry with
          | literal => exact ⟨rfl, rfl⟩
          | ipv4 | status | method | path | date | time | digits | word | nonSpace
          | wildcard => contradiction
    · rintro ⟨rfl, _⟩
      exact literal_accepts_iff.2 (List.ne_nil_of_mem hfeed)

end PatternWorkbench.Inference
