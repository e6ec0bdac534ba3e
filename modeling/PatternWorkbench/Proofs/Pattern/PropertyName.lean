import PatternWorkbench.Pattern.Meaning

/-!
# Names of properties

The tables name properties by letters, digits and points.  A property that is
found was therefore asked for without parentheses, square brackets and
backslashes.
-/

namespace PatternWorkbench.Pattern

open Unicode (CharSet Roster)

def isDelimiter (c : Char) : Bool :=
  ['(', ')', '[', ']', '\\'].contains c

theorem eq_of_isDelimiter {c : Char} (hdelimiter : isDelimiter c = true) :
    c = '(' ∨ c = ')' ∨ c = '[' ∨ c = ']' ∨ c = '\\' := by
  simpa only [isDelimiter, List.contains_eq_mem, List.mem_cons, List.not_mem_nil,
    or_false, decide_eq_true_eq] using hdelimiter

/-- A text without delimiters. -/
def IsLegible (text : Text) : Prop :=
  ∀ c ∈ text, isDelimiter c = false

instance (text : Text) : Decidable (IsLegible text) :=
  List.decidableBAll (fun c => isDelimiter c = false) text

theorem isLegible_nil : IsLegible [] := by
  simp [IsLegible]

theorem isLegible_cons {c : Char} {text : Text} :
    IsLegible (c :: text) ↔ isDelimiter c = false ∧ IsLegible text :=
  List.forall_mem_cons

theorem isLegible_append {left right : Text} :
    IsLegible (left ++ right) ↔ IsLegible left ∧ IsLegible right :=
  List.forall_mem_append

namespace Property

/-- Whether no byte of a name stands for a delimiter. -/
def isLegible (name : String) : Bool :=
  name.toByteArray.data.toList.all fun byte =>
    !([0x28, 0x29, 0x5B, 0x5D, 0x5C] : List UInt8).contains byte

theorem isDelimiter_eq_false_of_isLegible {text : Text}
    (hlegible : isLegible (String.ofList text) = true) :
    IsLegible text := by
  intro c hc
  rw [Bool.eq_false_iff]
  intro hdelimiter
  have hbytes : ∀ byte ∈ String.utf8EncodeChar c,
      byte ∈ (String.ofList text).toByteArray.data.toList := by
    intro byte hbyte
    rw [String.toByteArray_ofList, List.utf8Encode, List.toList_data_toByteArray]
    exact List.mem_flatMap.2 ⟨c, hc, hbyte⟩
  rw [isLegible, List.all_eq_true] at hlegible
  rcases eq_of_isDelimiter hdelimiter with
      rfl | rfl | rfl | rfl | rfl <;>
    exact absurd (hlegible _ (hbytes _ (List.mem_singleton.2 rfl))) (by decide)

/-! ## Tables -/

/-- A name that is found in a legible table is legible. -/
theorem isLegible_of_find? {Value : Type} {entries : List (List String × Value)}
    {name : String} (hentries : entries.all (·.1.all isLegible) = true)
    (hfound : (entries.find? fun entry => entry.1.contains name).isSome = true) :
    isLegible name = true := by
  obtain ⟨entry, hentry⟩ := Option.isSome_iff_exists.1 hfound
  have hname := List.find?_some hentry
  rw [List.all_eq_true] at hentries
  have hnames := hentries entry (List.mem_of_find?_eq_some hentry)
  rw [List.all_eq_true] at hnames
  exact hnames name (List.contains_iff_mem.1 hname)

theorem isLegible_of_named? {Value : Type} {entries : List (List String × Value)}
    {name : String} {value : Value} (hentries : entries.all (·.1.all isLegible) = true)
    (hnamed : named? entries name = some value) : isLegible name = true := by
  refine isLegible_of_find? hentries ?_
  obtain ⟨entry, hentry, _⟩ := Option.map_eq_some_iff.1 hnamed
  exact Option.isSome_of_eq_some hentry

theorem isLegible_of_fromRoster? {entries : List (List String × Roster)}
    {name : String} {set : CharSet} (hentries : entries.all (·.1.all isLegible) = true)
    (hfound : fromRoster? entries name = some set) : isLegible name = true := by
  obtain ⟨roster, hnamed, _⟩ := Option.map_eq_some_iff.1 hfound
  exact isLegible_of_named? hentries hnamed

theorem isLegible_categories : categories.all (·.1.all isLegible) = true := by
  decide +kernel

theorem isLegible_binaryProperties :
    binaryProperties.all (·.1.all isLegible) = true := by
  decide +kernel

theorem isLegible_scripts : Unicode.scripts.all (·.1.all isLegible) = true := by
  decide +kernel

/-- Every property that can be asked for by name has legible names only. -/
theorem isLegible_choosable : choosable.all (·.1.all isLegible) = true := by
  decide +kernel

theorem isLegible_graphemeBreaks :
    Unicode.graphemeBreaks.all (·.1.all isLegible) = true := by
  decide +kernel

theorem isLegible_wordBreaks : Unicode.wordBreaks.all (·.1.all isLegible) = true := by
  decide +kernel

theorem isLegible_sentenceBreaks :
    Unicode.sentenceBreaks.all (·.1.all isLegible) = true := by
  decide +kernel

theorem isLegible_ages : Unicode.ages.all (isLegible ·.1) = true := by
  decide +kernel

/-- A version and its short form, a `v` and the digits, are both legible. -/
theorem isLegible_of_isVersion {name version : String}
    (hlegible : isLegible version = true) (hversion : isVersion name version = true) :
    IsLegible name.toList := by
  have hchars : IsLegible version.toList :=
    isDelimiter_eq_false_of_isLegible (by rwa [String.ofList_toList])
  rw [isVersion, Bool.or_eq_true, beq_iff_eq, beq_iff_eq] at hversion
  rcases hversion with rfl | hshort
  · exact hchars
  · rw [hshort]
    intro c hc
    rcases List.mem_cons.1 hc with rfl | hc
    · rfl
    · exact hchars c (List.mem_filter.1 hc).1

/-- A value that some property has is named without delimiters. -/
theorem legible_of_value? {kind : Choosable} {name : String} {set : CharSet}
    (hvalue : kind.value? name = some set) :
    IsLegible name.toList := by
  have hlegible (h : isLegible name = true) :
      IsLegible name.toList :=
    isDelimiter_eq_false_of_isLegible (by rwa [String.ofList_toList])
  cases kind with
  | category => exact hlegible (isLegible_of_fromRoster? isLegible_categories hvalue)
  | script =>
      obtain ⟨table, hnamed, _⟩ := Option.map_eq_some_iff.1 hvalue
      exact hlegible (isLegible_of_named? isLegible_scripts hnamed)
  | scriptUse =>
      obtain ⟨entry, hentry, _⟩ := Option.map_eq_some_iff.1 hvalue
      exact hlegible (isLegible_of_find? isLegible_scripts
        (Option.isSome_of_eq_some hentry))
  | age =>
      simp only [Choosable.value?, age?] at hvalue
      split at hvalue
      case isFalse => simp at hvalue
      case isTrue hany =>
        obtain ⟨age, hage, hversion⟩ := List.any_eq_true.1 hany
        exact isLegible_of_isVersion (List.all_eq_true.1 isLegible_ages age hage)
          hversion
  | graphemeBreak =>
      exact hlegible (isLegible_of_fromRoster? isLegible_graphemeBreaks hvalue)
  | wordBreak => exact hlegible (isLegible_of_fromRoster? isLegible_wordBreaks hvalue)
  | sentenceBreak =>
      exact hlegible (isLegible_of_fromRoster? isLegible_sentenceBreaks hvalue)

/-! ## Loose spelling -/

/-- A delimiter is none of the characters that a loose spelling leaves out or
changes. -/
theorem mem_looseChars_of_isDelimiter {c : Char} {name : Text}
    (hdelimiter : isDelimiter c = true) (hc : c ∈ name) : c ∈ looseChars name := by
  rw [looseChars, List.mem_map]
  refine ⟨c, List.mem_filter.2 ⟨hc, ?_⟩, ?_⟩ <;>
    rcases eq_of_isDelimiter hdelimiter with
      rfl | rfl | rfl | rfl | rfl <;>
    decide

/-- A label whose loose spelling has no delimiter has none itself. -/
theorem legible_of_loosely {label : Text}
    (hloose : IsLegible (loosely label).toList) :
    IsLegible label := by
  intro c hc
  rw [Bool.eq_false_iff]
  intro hdelimiter
  have hnone {name : Text} (hname : loosely label = String.ofList (looseChars name)) :
      c ∉ name := fun hmem => by
    rw [hname, String.toList_ofList] at hloose
    rw [hloose c (mem_looseChars_of_isDelimiter hdelimiter hmem)] at hdelimiter
    contradiction
  match label with
  | [] => simp at hc
  | [d] => exact hnone rfl hc
  | i :: s :: rest =>
      rw [loosely] at hnone
      split at hnone
      case isFalse => exact hnone rfl hc
      case isTrue hprefix =>
        -- The two letters in front are no delimiters.
        have hrest : c ∈ rest := by
          rw [Bool.and_eq_true, decide_eq_true_eq, decide_eq_true_eq] at hprefix
          rcases List.mem_cons.1 hc with rfl | hc
          · rcases eq_of_isDelimiter hdelimiter with
                rfl | rfl | rfl | rfl | rfl <;>
              exact absurd hprefix.1 (by decide)
          · rcases List.mem_cons.1 hc with rfl | hc
            · rcases eq_of_isDelimiter hdelimiter with
                  rfl | rfl | rfl | rfl | rfl <;>
                exact absurd hprefix.2 (by decide)
            · exact hc
        split at hnone
        case isFalse => exact hnone rfl hrest
        case isTrue hletter =>
          have hmem := mem_looseChars_of_isDelimiter hdelimiter hrest
          rw [hletter, List.mem_singleton] at hmem
          rw [hmem] at hdelimiter
          contradiction

end Property

/-! ## Queries -/

def PropertyQuery.letters : PropertyQuery → Text
  | .plain label => label
  | .valued property label => property ++ label

/-- A property that is found is asked for without delimiters. -/
theorem PropertyQuery.legible_of_lookup {query : PropertyQuery} {set : CharSet}
    (hfound : query.lookup = .found set) :
    IsLegible query.letters := by
  have hlegible {label : Text} (h : Property.isLegible (Property.loosely label) = true) :
      IsLegible label :=
    Property.legible_of_loosely
      (Property.isDelimiter_eq_false_of_isLegible (by rwa [String.ofList_toList]))
  cases query with
  | plain label =>
      rw [lookup] at hfound
      split at hfound
      case h_1 set hbinary =>
        exact hlegible (Property.isLegible_of_fromRoster?
          Property.isLegible_binaryProperties hbinary)
      case h_2 =>
        split at hfound
        case isTrue => simp at hfound
        case isFalse =>
          split at hfound
          case h_1 set heither =>
            rw [Option.orElse_eq_orElse, Option.orElse_eq_or, Option.or_eq_some_iff] at heither
            rcases heither with hcategory | ⟨_, hscript⟩
            · exact hlegible (Property.isLegible_of_fromRoster?
                Property.isLegible_categories hcategory)
            · obtain ⟨table, hnamed, _⟩ := Option.map_eq_some_iff.1 hscript
              exact hlegible (Property.isLegible_of_named?
                Property.isLegible_scripts hnamed)
          case h_2 => split at hfound <;> simp at hfound
  | valued property label =>
      rw [lookup] at hfound
      split at hfound
      case h_1 kind hkind =>
        cases hvalue : kind.value? (Property.loosely label) with
        | none => simp [hvalue, PropertyLookup.ofValue] at hfound
        | some value =>
            intro c hc
            rcases List.mem_append.1 hc with hc | hc
            · exact hlegible (Property.isLegible_of_named?
                Property.isLegible_choosable hkind) c hc
            · exact Property.legible_of_loosely
                (Property.legible_of_value? hvalue) c hc
      case h_2 => split at hfound <;> simp at hfound

namespace Escape

/-- Cutting a text at a mark loses nothing. -/
theorem eq_of_cutAt {mark text before after : Text}
    (hcut : cutAt mark text = some (before, after)) :
    text = before ++ mark ++ after := by
  induction text generalizing before with
  | nil => simp [cutAt] at hcut
  | cons c text ih =>
      rw [cutAt] at hcut
      split at hcut
      case isTrue hbegins =>
        obtain ⟨rest, hrest⟩ := List.isPrefixOf_iff_prefix.1 hbegins
        obtain ⟨rfl, rfl⟩ := Prod.mk.inj (Option.some.inj hcut)
        rw [← hrest, List.drop_left, List.nil_append]
      case isFalse =>
        obtain ⟨⟨left, right⟩, hinner, hsame⟩ := Option.map_eq_some_iff.1 hcut
        obtain ⟨rfl, rfl⟩ := Prod.mk.inj hsame
        rw [ih hinner, List.cons_append, List.cons_append]

/-- What stands between the braces of a property that is found is free of
delimiters. -/
theorem legible_of_query {inside : Text} {set : CharSet}
    (hfound : (query inside).1.lookup = .found set) :
    IsLegible inside := by
  have hvalued {mark property label : Text}
      (hmark : IsLegible mark)
      (hcut : cutAt mark inside = some (property, label))
      (hlookup : (PropertyQuery.valued property label).lookup = .found set) :
      IsLegible inside := by
    rw [eq_of_cutAt hcut]
    have hletters := PropertyQuery.legible_of_lookup hlookup
    intro c hc
    rw [List.append_assoc, List.mem_append, List.mem_append] at hc
    rcases hc with hc | hc | hc
    · exact hletters c (List.mem_append_left _ hc)
    · exact hmark c hc
    · exact hletters c (List.mem_append_right _ hc)
  unfold query at hfound
  split at hfound
  case h_1 property label hcut => exact hvalued (by decide) hcut hfound
  case h_2 =>
    split at hfound
    case h_1 property label hcut =>
      rw [Option.orElse_eq_orElse, Option.orElse_eq_or, Option.or_eq_some_iff] at hcut
      rcases hcut with hcut | ⟨_, hcut⟩
      · exact hvalued (by decide) hcut hfound
      · exact hvalued (by decide) hcut hfound
    case h_2 => exact PropertyQuery.legible_of_lookup hfound

end Escape

end PatternWorkbench.Pattern
