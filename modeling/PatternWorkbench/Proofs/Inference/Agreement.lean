import PatternWorkbench.Inference.Catalogue
import PatternWorkbench.Proofs.Inference.Tiles

/-!
# Classification and segmentation agree

A text that the catalogue accepts for its shape is one segment, with the same
fragment.  The rule for the shape covers all of it, and no earlier rule covers
anything: it would need a character that the text has not, another first
character, or another number of decimals in front.
-/

namespace PatternWorkbench.Inference

/-! ## Kinds of characters -/

theorem Kind.decimal_holds {c : Char} (hascii : c.toNat < 0x80) :
    decimal.holds c = c.isDigit :=
  Unicode.isDecimal_eq_isDigit hascii

theorem Kind.decimal_of_oneToFive {c : Char} (hholds : oneToFive.holds c = true) :
    decimal.holds c = true := by
  have hhigh : c.toNat ≤ '5'.toNat := by
    rw [holds, Bool.and_eq_true, decide_eq_true_eq, decide_eq_true_eq] at hholds
    exact hholds.2
  rw [decimal_holds (Nat.lt_of_le_of_lt hhigh (by decide))]
  exact isDigit_of_oneToFive hholds

/-- Whether the kind, as far as ASCII tells, does not have the character. -/
def Kind.omits : Kind → Char → Bool
  | decimal, c => c.toNat < 0x80 && !c.isDigit
  | exact expected, c => c != expected
  | oneToFive, c => !(oneToFive.holds c)
  | letter, c => !(letter.holds c)
  | sign, c => !(sign.holds c)
  | word, _ | blank, _ | nonBlank, _ | lower, _ | upper, _ | path, _ | any, _ => false

/-- What a kind omits as far as ASCII tells, it does not have. -/
theorem Kind.not_holds_of_omits {kind : Kind} {c : Char} (homits : kind.omits c = true) :
    kind.holds c = false := by
  cases kind with
  | decimal =>
      rw [omits, Bool.and_eq_true, decide_eq_true_eq, Bool.not_eq_true'] at homits
      rw [decimal_holds homits.1, homits.2]
  | exact expected => simpa [omits, holds] using homits
  | oneToFive | letter | sign => simpa only [omits, Bool.not_eq_true'] using homits
  | word | blank | nonBlank | lower | upper | path | any => contradiction

def Shape.kinds : Shape → List Kind
  | row runs => runs.map Run.kind
  | oneOf words => words.flatten.map .exact

namespace Shape

variable {shape : Shape} {text : Text}

theorem exists_kind (haccepts : shape.accepts text = true) :
    ∀ c ∈ text, ∃ kind ∈ shape.kinds, kind.holds c = true := by
  intro c hc
  have hpasses := passes_of_accepts haccepts
  cases shape with
  | row runs =>
      obtain ⟨run, hrun, hholds⟩ := RowPasses.exists_run hpasses c hc
      exact ⟨run.kind, List.mem_map_of_mem hrun, hholds⟩
  | oneOf words =>
      have hmem : c ∈ words.flatten := List.mem_flatten_of_mem hpasses hc
      exact ⟨.exact c, List.mem_map_of_mem hmem, beq_self_eq_true c⟩

theorem not_mem_of_kinds {c : Char} (haccepts : shape.accepts text = true)
    (hkinds : ∀ kind ∈ shape.kinds, kind.holds c = false) : c ∉ text := by
  intro hc
  obtain ⟨kind, hkind, hholds⟩ := exists_kind haccepts c hc
  rw [hkinds kind hkind] at hholds
  contradiction

theorem not_mem_of_omits {c : Char} (haccepts : shape.accepts text = true)
    (homits : ∀ kind ∈ shape.kinds, kind.omits c = true) : c ∉ text :=
  not_mem_of_kinds haccepts fun kind hkind => Kind.not_holds_of_omits (homits kind hkind)

end Shape

/-! ## Rules that cover nothing -/

/-- A character that every text of the rule has. -/
def Rule.separator? : Rule → Option Char
  | ipv4 => some '.'
  | date => some '/'
  | isoDate => some '-'
  | time => some ':'
  | _ => none

/-- A rule covers nothing of a text without its separator. -/
theorem Rule.cover?_eq_none_of_not_mem {rule : Rule} {separator : Char} {text : Text}
    (hrule : rule.separator? = some separator) (hmem : separator ∉ text) :
    rule.cover? text = none := by
  rw [Option.eq_none_iff_forall_ne_some]
  intro length hcover
  have hpasses := Shape.passes_of_cover? (cover?_eq_some_iff.1 hcover).1
  cases rule with
  | ipv4 | date | isoDate | time =>
      obtain rfl := Option.some.inj hrule
      exact hmem (List.mem_of_mem_take (RowPasses.mem_of_exact hpasses (by decide)))
  | method | httpVersion | status | timezone | path | digits | lowercase | uppercase
  | word | whitespace => contradiction

/-- Rules whose texts do not begin with a decimal. -/
theorem Rule.cover?_eq_none_of_isDecimal {rule : Rule} {c : Char} {rest : Text}
    (hrule : rule ∈ [method, httpVersion, timezone, path])
    (hdecimal : Unicode.isDecimal c = true) : rule.cover? (c :: rest) = none := by
  have hlacks : ∀ rule ∈ [method, httpVersion, timezone, path],
      ∀ kind ∈ rule.shape.firstKinds, kind.lacksDecimals = true := by decide
  apply cover?_eq_none_of_first
  intro kind hkind
  exact Kind.not_holds_of_isDecimal (hlacks rule hrule kind hkind) hdecimal

/-- The text behind a code covered by the rule for status codes does not go on with
a decimal. -/
theorem Rule.length_takeWhile_of_status {text : Text} {length : Nat}
    (hcover : status.cover? text = some length) :
    (text.takeWhile Kind.decimal.holds).length = 3 ∧ length = 3 := by
  obtain ⟨hshape, _, hagrees⟩ := cover?_eq_some_iff.1 hcover
  have hpasses := Shape.passes_of_cover? hshape
  obtain ⟨first, later, hcode, hfirst, hlater⟩ := rowPasses_cons_iff.1 hpasses
  obtain ⟨c, rfl, hc⟩ := Run.passes_one_iff.1 hfirst
  obtain ⟨digits, rest, rfl, hdigits, hnil⟩ := rowPasses_cons_iff.1 hlater
  obtain ⟨htwo, hdecimals⟩ := Run.passes_exactly_iff.1 hdigits
  rw [rowPasses_nil_iff.1 hnil, List.append_nil, List.singleton_append] at hcode
  have hlength : length = 3 := by
    have := congrArg List.length hcode
    rw [List.length_take_of_le (Shape.cover?_le hshape), List.length_cons, htwo] at this
    exact this
  have hall : ∀ d ∈ c :: digits, Kind.decimal.holds d = true :=
    List.forall_mem_cons.2 ⟨Kind.decimal_of_oneToFive hc, hdecimals⟩
  have hbehind : (text.drop length).takeWhile Kind.decimal.holds = [] := by
    cases hafter : text.drop length with
    | nil => rfl
    | cons d after =>
        rw [hafter] at hagrees
        have hblank : Kind.decimal.holds d = false :=
          Unicode.not_isDecimal_of_isBlank hagrees
        rw [List.takeWhile_cons, hblank]
        rfl
  have hwhole : text = c :: digits ++ text.drop length := by
    rw [← hcode, List.take_append_drop]
  refine ⟨?_, hlength⟩
  rw [hwhole, List.takeWhile_append_of_pos hall, hbehind]
  simp [htwo]

/-- A status code has three decimals, no more and no fewer. -/
theorem Rule.cover?_status_eq_none {text : Text}
    (hlength : (text.takeWhile Kind.decimal.holds).length ≠ 3) :
    status.cover? text = none := by
  rw [Option.eq_none_iff_forall_ne_some]
  intro length hcover
  exact hlength (length_takeWhile_of_status hcover).1

/-! ## One segment -/

/-- The decimals in front of a separator. -/
theorem passes_takeWhile {run : Run} {separator : Char} {runs : List Run} {text : Text}
    (hpasses : RowPasses (run :: .one (.exact separator) :: runs) text)
    (hseparator : run.kind.holds separator = false) :
    run.Passes (text.takeWhile run.kind.holds) := by
  obtain ⟨first, later, rfl, hfirst, hlater⟩ := rowPasses_cons_iff.1 hpasses
  obtain ⟨_, rest, rfl, hone, _⟩ := rowPasses_cons_iff.1 hlater
  obtain ⟨c, rfl, hc⟩ := Run.passes_one_iff.1 hone
  obtain rfl : c = separator := by simpa [Kind.holds] using hc
  rwa [List.singleton_append, takeWhile_append_cons rest hfirst.holds hseparator]

def Shape.beginsWithDecimal : Shape → Bool
  | row (run :: _) => (run.kind = .decimal || run.kind = .oneToFive) && 1 ≤ run.count.least
  | _ => false

theorem Shape.exists_decimal {shape : Shape} {text : Text}
    (hbegins : shape.beginsWithDecimal = true) (hpasses : shape.Passes text) :
    ∃ c rest, text = c :: rest ∧ Unicode.isDecimal c = true := by
  unfold beginsWithDecimal at hbegins
  split at hbegins
  case h_2 => contradiction
  case h_1 run runs =>
    simp only [Bool.and_eq_true, Bool.or_eq_true, decide_eq_true_eq] at hbegins
    obtain ⟨hkind, hleast⟩ := hbegins
    obtain ⟨c, rest, rfl, hc⟩ := RowPasses.exists_cons hpasses hleast
    refine ⟨c, rest, rfl, ?_⟩
    rcases hkind with hdecimal | hfive
    · rw [hdecimal] at hc
      exact hc
    · rw [hfive] at hc
      exact Kind.decimal_of_oneToFive hc

/-- Whether a rule cannot cover the beginning of a text of another rule that begins with
a decimal: it begins otherwise, or asks for a character that is not there. -/
def Rule.yieldsTo (other rule : Rule) : Bool :=
  other ∈ [method, httpVersion, timezone, path] ||
    other.separator?.any fun separator => rule.shape.kinds.all (·.omits separator)

/-- A text that begins with a decimal is one segment, if the rules before its own yield
and it does not begin with a status code. -/
theorem segments_of_decimal {rule : Rule} {text : Text}
    (hbegins : rule.shape.beginsWithDecimal = true)
    (hyield : ∀ other ∈ rule.before, other = .status ∨ other.yieldsTo rule = true)
    (haccepts : rule.shape.accepts text = true)
    (hstatus : Rule.status ∈ rule.before → Rule.status.cover? text = none) :
    segments text = [⟨some rule, text, 0⟩] := by
  have hpasses := Shape.passes_of_accepts haccepts
  obtain ⟨c, rest, rfl, hdecimal⟩ := Shape.exists_decimal hbegins hpasses
  apply segments_eq_singleton haccepts
  intro other hother
  rcases hyield other hother with rfl | hyields
  · exact hstatus hother
  · rw [Rule.yieldsTo, Bool.or_eq_true, decide_eq_true_eq, Option.any_eq_true] at hyields
    rcases hyields with hfree | ⟨separator, hsome, homits⟩
    · exact Rule.cover?_eq_none_of_isDecimal hfree hdecimal
    · rw [List.all_eq_true] at homits
      exact Rule.cover?_eq_none_of_not_mem hsome (Shape.not_mem_of_omits haccepts homits)

section Shaped

variable {text : Text}

theorem segments_of_status (haccepts : Shape.statusCode.accepts text = true) :
    segments text = [⟨some .status, text, 0⟩] :=
  segments_of_decimal (by decide) (by decide) haccepts fun hbefore => absurd hbefore (by decide)

theorem segments_of_method (haccepts : Shape.httpMethod.accepts text = true) :
    segments text = [⟨some .method, text, 0⟩] := by
  have homits : ∀ kind ∈ Shape.httpMethod.kinds, kind.omits '.' = true := by decide
  have hpoint := Shape.not_mem_of_omits haccepts homits
  have hipv4 : Rule.ipv4.cover? text = none := Rule.cover?_eq_none_of_not_mem rfl hpoint
  exact segments_eq_singleton haccepts (List.forall_mem_singleton.2 hipv4)

theorem segments_of_date (haccepts : Shape.dayMonthNameYear.accepts text = true) :
    segments text = [⟨some .date, text, 0⟩] := by
  refine segments_of_decimal (by decide) (by decide) haccepts fun _ => ?_
  have hday := passes_takeWhile (Shape.passes_of_accepts haccepts)
    (Kind.not_holds_of_omits (by decide))
  -- A day has one decimal less than a status code.
  have hshort := hday.bound 2 rfl
  exact Rule.cover?_status_eq_none (Nat.ne_of_lt (Nat.lt_succ_of_le hshort))

theorem segments_of_isoDate (haccepts : Shape.isoDate.accepts text = true) :
    segments text = [⟨some .isoDate, text, 0⟩] := by
  refine segments_of_decimal (by decide) (by decide) haccepts fun _ => ?_
  have hyear := passes_takeWhile (Shape.passes_of_accepts haccepts)
    (Kind.not_holds_of_omits (by decide))
  apply Rule.cover?_status_eq_none
  rw [(Run.passes_exactly_iff.1 hyear).1]
  decide

theorem segments_of_time (haccepts : Shape.time.accepts text = true) :
    segments text = [⟨some .time, text, 0⟩] := by
  refine segments_of_decimal (by decide) (by decide) haccepts fun _ => ?_
  have hhours := passes_takeWhile (Shape.passes_of_accepts haccepts)
    (Kind.not_holds_of_omits (by decide))
  apply Rule.cover?_status_eq_none
  rw [(Run.passes_exactly_iff.1 hhours).1]
  decide

theorem segments_of_path (haccepts : Shape.path.accepts text = true) :
    segments text = [⟨some .path, text, 0⟩] := by
  have homits : ∀ rule ∈ Rule.path.before, ∀ kind ∈ rule.shape.firstKinds,
      kind.omits '/' = true := by decide
  refine segments_eq_singleton haccepts fun other hother => ?_
  obtain ⟨c, rest, rfl, hc⟩ := RowPasses.exists_cons (Shape.passes_of_accepts haccepts)
    (Nat.le_refl 1)
  obtain rfl : c = '/' := by simpa [Run.one, Kind.holds] using hc
  apply Rule.cover?_eq_none_of_first
  intro kind hkind
  exact Kind.not_holds_of_omits (homits other hother kind hkind)

/-- A status code is not followed by a decimal, so it is all of the digits. -/
theorem segments_of_digits (haccepts : (Shape.manyOf .decimal).accepts text = true)
    (hcode : Shape.statusCode.accepts text = false) :
    segments text = [⟨some .digits, text, 0⟩] := by
  refine segments_of_decimal (by decide) (by decide) haccepts fun _ => ?_
  rw [Option.eq_none_iff_forall_ne_some]
  intro length hcover
  -- A code with more digits behind it is not covered, and one without is not here.
  obtain ⟨hthree, rfl⟩ := Rule.length_takeWhile_of_status hcover
  have hdecimals := (Shape.accepts_manyOf_iff.1 haccepts).2
  have hlength : text.length = 3 := by
    rw [← hthree, ← List.append_nil text, List.takeWhile_append_of_pos hdecimals]
    simp
  have hshape : Shape.statusCode.cover? text = some 3 := (Rule.cover?_eq_some_iff.1 hcover).1
  rw [← hlength, ← Shape.accepts_iff_cover?, hcode] at hshape
  contradiction

end Shaped

/-! ## The catalogue -/

theorem classify?_eq_some {entry : Entry} {text : Text}
    (hentry : catalogue.find? (·.accepts text) = some entry)
    (hauto : entry.autoSelect = true) : classify? text = some (entry.fragment text) := by
  obtain ⟨haccepts, earlier, later, hall, hearlier⟩ :=
    List.find?_eq_some_iff_append.1 hentry
  have hfind : catalogue.find? (fun entry => entry.autoSelect && entry.accepts text) =
      some entry := by
    refine List.find?_eq_some_iff_append.2 ⟨by simp [hauto, haccepts], earlier, later,
      hall, fun other hother => ?_⟩
    rw [Bool.not_eq_true', Bool.and_eq_false_iff]
    exact Or.inr (by simpa using hearlier other hother)
  rw [classify?, hfind, Option.map_some]

theorem not_status_of_find?_digits {text : Text}
    (hentry : catalogue.find? (·.accepts text) = some .digits) :
    Shape.statusCode.accepts text = false := by
  rw [← Bool.not_eq_true]
  intro hstatus
  have hearlier : Entry.status.accepts text = true := hstatus
  cases hipv4 : Entry.ipv4.accepts text <;>
    simp [catalogue, hipv4, hearlier] at hentry

/-- A text whose first entry is the one for its shape is a single segment, and the
fragments of both are the same. -/
theorem segments_of_firstEntry {entry : Entry} {text : Text}
    (hentry : catalogue.find? (·.accepts text) = some entry)
    (hshaped : entry ∈ [Entry.ipv4, .status, .method, .path, .time, .digits] ∨
      entry = .date ∧ (dateShapes.find? (·.accepts text) = some .dayMonthNameYear ∨
        dateShapes.find? (·.accepts text) = some .isoDate)) :
    ∃ segment, segments text = [segment] ∧ segment.start = 0 ∧ segment.text = text ∧
      segment.stop = byteLength text ∧ classify? text = some segment.fragment := by
  have haccepts := List.find?_some hentry
  suffices hsingle : ∃ rule : Rule, segments text = [⟨some rule, text, 0⟩] ∧
      entry.autoSelect = true ∧ entry.fragment text = rule.fragment text by
    obtain ⟨rule, hsegments, hauto, hfragment⟩ := hsingle
    refine ⟨_, hsegments, rfl, rfl, Nat.zero_add _, ?_⟩
    rw [classify?_eq_some hentry hauto, hfragment]
    rfl
  rcases hshaped with hplain | ⟨rfl, hshape | hshape⟩
  · simp only [List.mem_cons, List.not_mem_nil, or_false] at hplain
    rcases hplain with rfl | rfl | rfl | rfl | rfl | rfl
    · have hfirst : ∀ other ∈ Rule.ipv4.before, other.cover? text = none :=
        fun _ hother => absurd hother List.not_mem_nil
      exact ⟨.ipv4, segments_eq_singleton haccepts hfirst, rfl, rfl⟩
    · exact ⟨.status, segments_of_status haccepts, rfl, rfl⟩
    · exact ⟨.method, segments_of_method haccepts, rfl, rfl⟩
    · exact ⟨.path, segments_of_path haccepts, rfl, rfl⟩
    · exact ⟨.time, segments_of_time haccepts, rfl, rfl⟩
    · have hcode := not_status_of_find?_digits hentry
      exact ⟨.digits, segments_of_digits haccepts hcode, rfl, rfl⟩
  · have hdate := List.find?_some hshape
    refine ⟨.date, segments_of_date hdate, rfl, ?_⟩
    rw [Entry.fragment, dateFragment?, hshape]
    rfl
  · have hdate := List.find?_some hshape
    refine ⟨.isoDate, segments_of_isoDate hdate, rfl, ?_⟩
    rw [Entry.fragment, dateFragment?, hshape]
    rfl

theorem find?_accepts_get : catalogue.find? (·.accepts "GET".toList) = some .method := by
  have hipv4 : Entry.ipv4.accepts "GET".toList = false := by
    rw [← Bool.not_eq_true]
    intro haccepts
    have hpasses : Shape.ipv4.Passes ['G', 'E', 'T'] := Shape.passes_of_accepts haccepts
    have hdecimal := RowPasses.holds_head hpasses (Nat.le_refl 1)
    rw [Kind.not_holds_of_omits (by decide)] at hdecimal
    contradiction
  rw [catalogue, List.find?_cons, hipv4]
  rfl

/-- The name of a method is classified as one and is one segment. -/
theorem segments_of_firstEntry_get :
    ∃ segment, segments "GET".toList = [segment] ∧ segment.start = 0 ∧
      segment.text = "GET".toList ∧ segment.stop = byteLength "GET".toList ∧
      classify? "GET".toList = some segment.fragment :=
  segments_of_firstEntry find?_accepts_get (Or.inl (by decide))

end PatternWorkbench.Inference
