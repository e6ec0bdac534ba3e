import PatternWorkbench.Proofs.Pattern.Numbering

/-!
# Characters in names of groups

A name has letters, digits and a few signs only, in verbose mode too, so there is
neither a space nor a line feed in it.
-/

namespace PatternWorkbench.Pattern

open Reading (State Stepped)

namespace GroupReading

variable {verbose isFirst : Bool} {pos start stop length : Nat} {rest name : Text}
  {span : Span} {c : Char}

def IsPlainName (name : Text) : Prop :=
  ∀ c ∈ name, isNameChar c = true

theorem isNameChar_of_isNameStart (hstart : isNameStart c = true) : isNameChar c = true := by
  rw [isNameStart, Bool.or_eq_true] at hstart
  rcases hstart with hline | hletter
  · simp [isNameChar, hline]
  · simp [isNameChar, Unicode.isAlphanumeric, hletter]

theorem isNameChar_separator : isNameChar ' ' = false ∧ isNameChar '\n' = false := by
  decide +kernel

theorem IsPlainName.space_notMem (hplain : IsPlainName name) : ' ' ∉ name := fun hmem => by
  simpa [isNameChar_separator.1] using hplain ' ' hmem

theorem IsPlainName.feed_notMem (hplain : IsPlainName name) : '\n' ∉ name := fun hmem => by
  simpa [isNameChar_separator.2] using hplain '\n' hmem

theorem isPlainName_of_nameLength (hlength : nameLength isFirst pos rest = .ok length) :
    IsPlainName (rest.take length) := by
  induction rest generalizing isFirst pos length with
  | nil => simp [nameLength, fail] at hlength
  | cons c rest ih =>
      rw [nameLength] at hlength
      split at hlength
      case isTrue =>
        obtain rfl := Except.ok.inj hlength
        exact fun d hd => absurd hd List.not_mem_nil
      case isFalse =>
        generalize hallowed : (if isFirst = true then isNameStart c else isNameChar c) =
          allowed at hlength
        cases allowed with
        | false => simp [fail] at hlength
        | true =>
          obtain ⟨others, hothers, hsame⟩ := bind_eq_ok_iff.1 hlength
          obtain rfl := Except.ok.inj hsame
          refine List.forall_mem_cons.2 ⟨?_, ih hothers⟩
          cases isFirst with
          | true => exact isNameChar_of_isNameStart hallowed
          | false => exact hallowed

theorem isPlainName_of_name (hread : GroupReading.name pos rest = .ok (name, span)) :
    IsPlainName name := by
  obtain ⟨length, hlength, hname⟩ := bind_eq_ok_iff.1 hread
  split at hname
  case isTrue => simp [fail] at hname
  case isFalse =>
    obtain ⟨rfl, _⟩ := Prod.mk.inj (Except.ok.inj hname)
    exact isPlainName_of_nameLength hlength

/-- What opens a group with a name has read the name. -/
theorem isPlainName_of_opening
    (hread : opening verbose start rest = .ok (.named name span, stop)) :
    IsPlainName name := by
  unfold opening at hread
  simp only at hread
  split at hread
  case h_1 => simp [fail] at hread
  case h_2 =>
    split at hread
    case h_1 | h_2 =>
      obtain ⟨⟨other, place⟩, hname, hsame⟩ := bind_eq_ok_iff.1 hread
      obtain ⟨hopening, _⟩ := Prod.mk.inj (Except.ok.inj hsame)
      obtain ⟨rfl, _⟩ := Opening.named.inj hopening
      exact isPlainName_of_name hname
    case h_3 => simp [fail] at hread
    case h_4 =>
      obtain ⟨⟨items, last, closing⟩, _, hflags⟩ := bind_eq_ok_iff.1 hread
      simp only at hflags
      split at hflags
      case isTrue => simp [pure, Except.pure] at hflags
      case isFalse =>
        split at hflags
        case isTrue => simp [fail] at hflags
        case isFalse => simp [pure, Except.pure] at hflags
    case h_5 => simp [pure, Except.pure] at hread

end GroupReading

/-! ## Names of a reading -/

namespace Reading

variable {state next : State} {pos stop : Nat} {c : Char} {rest : Text}

def State.PlainlyNamed (state : State) : Prop :=
  ∀ entry ∈ state.names, GroupReading.IsPlainName entry.1

theorem Stepped.keeps_plainNames (hstepped : Stepped state pos c rest next stop)
    (hplain : state.PlainlyNamed) : next.PlainlyNamed := by
  cases hstepped with
  | setFlags | grouping | numbered | bar | again | atom => exact hplain
  | named hc hopening hfresh =>
      refine List.forall_mem_append.2 ⟨hplain, List.forall_mem_singleton.2 ?_⟩
      exact GroupReading.isPlainName_of_opening hopening
  | close hc hclose =>
      unfold State.close at hclose
      split at hclose
      case h_1 => simp [fail] at hclose
      case h_2 =>
        obtain rfl := Except.ok.inj hclose
        exact hplain

/-- The groups of a tree that was read have the names that were given. -/
theorem State.Numbered.plainNames_read {tree : Tree} (hnumbered : state.Numbered)
    (hplain : state.PlainlyNamed) (hread : state.read pos rest = .ok tree) :
    ∀ name ∈ tree.groups.filterMap (·.2), GroupReading.IsPlainName name := by
  fun_induction State.read state pos rest with
  | case1 state start rest pos hskip =>
      have hgroups : tree.groups = state.opened := by
        rw [Tree.groups, (State.features_of_finish hread).2, opened]
      rw [hgroups, hnumbered.names]
      intro name hname
      obtain ⟨entry, hentry, rfl⟩ := List.mem_map.1 hname
      exact hplain entry hentry
  | case2 => simp at hread
  | case3 state start rest pos c cs hskip next stop hstep ih =>
      have hstepped := stepped_of_step hstep
      exact ih (hstepped.keeps_numbering hnumbered) (hstepped.keeps_plainNames hplain) hread

end Reading

/-- All groups of a pattern have plain names. -/
theorem Tree.isPlainName_of_read {pattern : Text} {tree : Tree}
    (hread : Tree.read pattern = .ok tree) :
    ∀ name ∈ tree.groups.filterMap (·.2), GroupReading.IsPlainName name := by
  obtain ⟨other, hother, hsame⟩ := bind_eq_ok_iff.1 hread
  split at hsame
  case h_1 => simp at hsame
  case h_2 =>
    obtain rfl := Except.ok.inj hsame
    exact State.numbered_initial.plainNames_read (fun _ hentry => by cases hentry) hother

/-- The groups of an expression have plain names. -/
theorem Expr.isPlainName_of_read {modes : Modes} {pattern : Text} {expr : Expr}
    (hread : Expr.read modes pattern = .ok expr) {index : Nat} {name : Text}
    (hname : (index, some name) ∈ expr.captures) : GroupReading.IsPlainName name := by
  obtain ⟨tree, htree, _, hcaptures⟩ := Expr.captures_of_read hread
  rw [hcaptures] at hname
  refine Tree.isPlainName_of_read htree name (List.mem_filterMap.2 ?_)
  exact ⟨_, tree.keptGroups_sublist.subset hname, rfl⟩

end PatternWorkbench.Pattern
