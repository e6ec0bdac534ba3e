import PatternWorkbench.Proofs.Pattern.KeptGroups

/-!
# Numbers and names of groups

Groups are counted in the order in which they open, and no two of them have the
same name.  Both hold of every pattern that is read, in verbose mode too: each
step of the reading opens one group at most, and the expression of a pattern has
groups of its tree only.
-/

namespace PatternWorkbench.Pattern

open Reading (State Stepped)

/-! ## Parts without groups -/

def Tree.isAtom : Tree → Bool
  | .nothing _ | .flags .. | .literal _ | .dot _ | .assertion .. | .property ..
  | .shorthand .. | .bracketed .. => true
  | .repetition .. | .group .. | .alternation .. | .concat .. => false

theorem Tree.groups_of_isAtom {tree : Tree} (hatom : tree.isAtom = true) :
    tree.groups = [] := by
  cases tree with
  | nothing | flags | literal | dot | assertion | property | shorthand => rfl
  | bracketed span negated inside =>
      rw [groups, features]
      simp [Feature.group?]
  | repetition | group | alternation | concat => contradiction

section Atoms

variable {verbose negated : Bool} {start width brace pos stop : Nat} {cursor : Cursor}
  {c : Char} {rest : Text} {leaf tree : Tree}

theorem isAtom_of_ok (hleaf : leaf.isAtom = true)
    (hsame : (.ok (leaf, pos) : Except Diagnostic (Tree × Nat)) = .ok (tree, stop)) :
    tree.isAtom = true := by
  obtain ⟨rfl, _⟩ := Prod.mk.inj (Except.ok.inj hsame)
  exact hleaf

namespace Escape

theorem isAtom_of_bracedHex
    (hread : bracedHex verbose start brace cursor = .ok (tree, stop)) :
    tree.isAtom = true := by
  unfold bracedHex at hread
  simp only at hread
  split at hread
  case h_1 | h_3 => simp [fail] at hread
  case h_2 =>
    obtain ⟨_, hchar⟩ := of_guarded_eq_ok hread
    split at hchar
    case h_1 => simp [fail] at hchar
    case h_2 => exact isAtom_of_ok rfl hchar

theorem isAtom_of_hex (hread : hex verbose start width cursor = .ok (tree, stop)) :
    tree.isAtom = true := by
  unfold hex at hread
  split at hread
  case h_1 => simp [fail] at hread
  case h_2 => exact isAtom_of_bracedHex hread
  case h_3 =>
    obtain ⟨_, _, hchar⟩ := bind_eq_ok_iff.1 hread
    simp only at hchar
    split at hchar
    case h_1 => simp [fail] at hchar
    case h_2 => exact isAtom_of_ok rfl hchar

theorem isAtom_of_property
    (hread : property verbose start negated cursor = .ok (tree, stop)) :
    tree.isAtom = true := by
  unfold property at hread
  split at hread
  case h_1 => simp [fail] at hread
  case h_2 =>
    simp only at hread
    obtain ⟨_, hquery⟩ := of_guarded_eq_ok hread
    exact isAtom_of_ok rfl hquery
  case h_3 =>
    obtain ⟨_, hquery⟩ := of_guarded_eq_ok hread
    exact isAtom_of_ok rfl hquery

theorem isAtom_of_boundary (hread : boundary verbose start rest = .ok (tree, stop)) :
    tree.isAtom = true := by
  unfold boundary at hread
  split at hread
  case h_2 => exact isAtom_of_ok rfl hread
  case h_1 =>
    simp only at hread
    split at hread
    case h_1 => simp [fail] at hread
    case h_2 =>
      split at hread
      case isFalse => exact isAtom_of_ok rfl hread
      case isTrue =>
        split at hread
        case h_2 => simp [fail] at hread
        case h_1 =>
          split at hread
          case h_2 => simp [fail] at hread
          case h_1 => exact isAtom_of_ok rfl hread

theorem isAtom_of_read (hread : read verbose start rest = .ok (tree, stop)) :
    tree.isAtom = true := by
  unfold read at hread
  split at hread
  case h_1 => simp [fail] at hread
  case h_2 =>
    simp only at hread
    obtain ⟨_, hread⟩ := of_guarded_eq_ok hread
    split at hread
    · exact isAtom_of_hex hread
    split at hread
    · exact isAtom_of_hex hread
    split at hread
    · exact isAtom_of_hex hread
    split at hread
    · exact isAtom_of_property hread
    split at hread
    · exact isAtom_of_property hread
    split at hread
    · exact isAtom_of_boundary hread
    split at hread
    · exact isAtom_of_ok rfl hread
    split at hread
    · exact isAtom_of_ok rfl hread
    split at hread
    · exact isAtom_of_ok rfl hread
    split at hread
    · exact isAtom_of_ok rfl hread
    · simp [fail] at hread

end Escape

namespace ClassReading

theorem isAtom_of_step {opened : Opened} {outer : List Opened}
    (hstep : step verbose opened outer pos c rest = .ok (.closed tree stop)) :
    tree.isAtom = true := by
  unfold step at hstep
  split at hstep
  case isTrue =>
    split at hstep
    case h_1 => simp [pure, Except.pure] at hstep
    case h_2 =>
      obtain ⟨_, _, hmore⟩ := bind_eq_ok_iff.1 hstep
      simp [pure, Except.pure] at hmore
  case isFalse =>
    split at hstep
    case isTrue =>
      simp only at hstep
      split at hstep
      case h_1 =>
        obtain ⟨rfl, _⟩ := Step.closed.inj (Except.ok.inj hstep)
        rfl
      case h_2 => simp [pure, Except.pure] at hstep
    case isFalse =>
      split at hstep
      case h_1 => simp [pure, Except.pure] at hstep
      case h_2 =>
        obtain ⟨_, _, hmore⟩ := bind_eq_ok_iff.1 hstep
        simp [pure, Except.pure] at hmore

/-- What a class is read as holds no group. -/
theorem isAtom_of_inside {opened : Opened} {outer : List Opened}
    (hinside : inside verbose opened outer pos rest = .ok (tree, stop)) :
    tree.isAtom = true := by
  fun_induction inside verbose opened outer pos rest with
  | case1 => simp at hinside
  | case2 => simp at hinside
  | case3 opened outer start rest pos c cs hskip closed last hstep =>
      obtain ⟨rfl, _⟩ := Prod.mk.inj (Except.ok.inj hinside)
      exact isAtom_of_step hstep
  | case4 _ _ _ _ _ _ _ _ _ _ _ _ ih => exact ih hinside

theorem isAtom_of_read (hread : read verbose start rest = .ok (tree, stop)) :
    tree.isAtom = true := by
  obtain ⟨⟨opened, pos⟩, _, hinside⟩ := bind_eq_ok_iff.1 hread
  exact isAtom_of_inside hinside

end ClassReading

/-- An atom holds no group, so reading one leaves the numbers as they are. -/
theorem Reading.isAtom_of_atom (hatom : atom verbose pos c rest = .ok (tree, stop)) :
    tree.isAtom = true := by
  unfold atom at hatom
  simp only at hatom
  split at hatom
  · exact ClassReading.isAtom_of_read hatom
  split at hatom
  · exact Escape.isAtom_of_read hatom
  split at hatom
  · exact isAtom_of_ok rfl hatom
  split at hatom
  · exact isAtom_of_ok rfl hatom
  split at hatom
  · exact isAtom_of_ok rfl hatom
  · exact isAtom_of_ok rfl hatom

end Atoms

/-! ## The groups opened so far -/

namespace Reading

def State.opened (state : State) : List (Nat × Option Text) :=
  state.features.filterMap Feature.group?

/-- The groups opened so far are numbered from one, and no name is given twice. -/
structure State.Numbered (state : State) : Prop where
  indices : state.opened.map (·.1) = List.range' 1 state.captures
  names : state.opened.filterMap (·.2) = state.names.map (·.1)
  distinct : (state.names.map (·.1)).Nodup

variable {state next : State} {pos stop : Nat} {c : Char} {rest : Text}

theorem State.numbered_initial : State.initial.Numbered :=
  ⟨rfl, rfl, List.nodup_nil⟩

theorem State.Numbered.keep (hnumbered : state.Numbered) (hopened : next.opened = state.opened)
    (hcaptures : next.captures = state.captures) (hnames : next.names = state.names) :
    next.Numbered where
  indices := by rw [hopened, hcaptures, hnumbered.indices]
  names := by rw [hopened, hnames, hnumbered.names]
  distinct := hnames ▸ hnumbered.distinct

/-- A part that opens no group keeps the groups. -/
theorem State.opened_of_features {added : List Feature}
    (hfeatures : next.features = state.features ++ added)
    (hadded : added.filterMap Feature.group? = []) : next.opened = state.opened := by
  rw [opened, hfeatures, List.filterMap_append, hadded, List.append_nil, opened]

/-- The next group gets the next number. -/
theorem State.opened_of_group {name : Option Text} {index : Nat}
    (hfeatures : next.features = state.features ++ [.group index name]) :
    next.opened = state.opened ++ [(index, name)] := by
  rw [opened, hfeatures, List.filterMap_append]
  rfl

/-- A new group takes the next number, and its name is not among those taken. -/
theorem State.Numbered.grow {name : Option Text} (hnumbered : state.Numbered)
    (hopened : next.opened = state.opened ++ [(state.captures + 1, name)])
    (hcaptures : next.captures = state.captures + 1)
    (hnames : next.names.map (·.1) = state.names.map (·.1) ++ name.toList)
    (hfresh : ∀ taken ∈ name, taken ∉ state.names.map (·.1)) : next.Numbered where
  indices := by
    rw [hopened, hcaptures, List.map_append, hnumbered.indices, List.range'_1_concat,
      Nat.add_comm 1]
    rfl
  names := by
    rw [hopened, hnames, List.filterMap_append, hnumbered.names]
    cases name <;> rfl
  distinct := by
    rw [hnames, List.nodup_append]
    refine ⟨hnumbered.distinct, by cases name <;> simp, ?_⟩
    rintro taken htaken other hother rfl
    exact hfresh taken (Option.mem_toList.1 hother) htaken

/-- A step numbers the group that it opens and gives it a name of its own. -/
theorem Stepped.keeps_numbering (hstepped : Stepped state pos c rest next stop)
    (hnumbered : state.Numbered) : next.Numbered := by
  cases hstepped with
  | setFlags hc hopening =>
      refine hnumbered.keep ?_ rfl rfl
      exact State.opened_of_features (State.features_push state (.flags _ _)) rfl
  | grouping hc hopening =>
      refine hnumbered.keep ?_ rfl rfl
      exact State.opened_of_features
        (State.features_openGroup state pos stop (.plain _) _) rfl
  | numbered hc hopening =>
      have hopened := State.opened_of_group (State.features_openGroup state pos stop
        (.capture (state.captures + 1) none) state.verbose)
      exact hnumbered.grow hopened rfl (List.append_nil _).symm (by simp)
  | @named name span stop hc hopening hfresh =>
      have hopened := State.opened_of_group (State.features_openGroup state pos stop
        (.capture (state.captures + 1) (some name)) state.verbose)
      refine hnumbered.grow hopened rfl List.map_append ?_
      intro taken htaken hmem
      obtain rfl := Option.some.inj htaken
      obtain ⟨entry, hentry, rfl⟩ := List.mem_map.1 hmem
      exact List.find?_eq_none.1 hfresh entry hentry (beq_self_eq_true _)
  | close hc hclose =>
      have hopened : next.opened = state.opened := by
        rw [State.opened, State.features_close hclose, State.opened]
      unfold State.close at hclose
      split at hclose
      case h_1 => simp [fail] at hclose
      case h_2 =>
        obtain rfl := Except.ok.inj hclose
        exact hnumbered.keep hopened rfl rfl
  | bar hc =>
      refine hnumbered.keep ?_ rfl rfl
      change (_ ++ (state.sequence.bar pos).features).filterMap Feature.group? = _
      rw [Sequence.features_bar]
      rfl
  | again hoperator hrepeatable =>
      refine hnumbered.keep ?_ rfl rfl
      rw [State.opened, State.features_repeat hrepeatable, State.opened]
  | atom hc hoperator hatom =>
      have hgroups := Tree.groups_of_isAtom (isAtom_of_atom hatom)
      have hopened := State.opened_of_features (State.features_push state _) hgroups
      exact hnumbered.keep hopened rfl rfl

/-- The groups of a tree that was read are numbered and named as they were opened. -/
theorem State.Numbered.read {tree : Tree} (hnumbered : state.Numbered)
    (hread : state.read pos rest = .ok tree) :
    (∃ count, tree.groups.map (·.1) = List.range' 1 count) ∧
      (tree.groups.filterMap (·.2)).Nodup := by
  fun_induction State.read state pos rest with
  | case1 state start rest pos hskip =>
      have hgroups : tree.groups = state.opened := by
        rw [Tree.groups, (State.features_of_finish hread).2, opened]
      rw [hgroups, hnumbered.names]
      exact ⟨⟨state.captures, hnumbered.indices⟩, hnumbered.distinct⟩
  | case2 => simp at hread
  | case3 state start rest pos c cs hskip next stop hstep ih =>
      exact ih ((stepped_of_step hstep).keeps_numbering hnumbered) hread

end Reading

/-! ## The groups of a pattern -/

/-- Groups are counted from one in the order in which they open, and no two have the
same name. -/
structure Tree.IsNumbered (tree : Tree) : Prop where
  indices : ∃ count, tree.groups.map (·.1) = List.range' 1 count
  names : (tree.groups.filterMap (·.2)).Nodup

/-- The groups of a pattern are numbered in the order in which they open. -/
theorem Tree.isNumbered_of_read {pattern : Text} {tree : Tree}
    (hread : Tree.read pattern = .ok tree) : tree.IsNumbered := by
  obtain ⟨other, hother, hsame⟩ := bind_eq_ok_iff.1 hread
  split at hsame
  case h_1 => simp at hsame
  case h_2 =>
    obtain rfl := Except.ok.inj hsame
    obtain ⟨hindices, hnames⟩ := State.numbered_initial.read hother
    exact ⟨hindices, hnames⟩

/-- The kept groups have increasing numbers. -/
theorem Tree.IsNumbered.increasing {tree : Tree} (hnumbered : tree.IsNumbered) :
    (tree.keptGroups.map (·.1)).Pairwise (· < ·) := by
  obtain ⟨count, hindices⟩ := hnumbered.indices
  apply List.Pairwise.sublist (tree.keptGroups_sublist.map (·.1))
  rw [hindices]
  exact List.pairwise_lt_range'

/-- The expression of a pattern has the groups of its tree that are not in a part
repeated zero times. -/
theorem Expr.captures_of_read {modes : Modes} {pattern : Text} {expr : Expr}
    (hread : Expr.read modes pattern = .ok expr) :
    ∃ tree, Tree.read pattern = .ok tree ∧ tree.IsNumbered ∧
      expr.captures = tree.keptGroups := by
  obtain ⟨tree, htree, hmeaning⟩ := bind_eq_ok_iff.1 hread
  obtain ⟨⟨other, after⟩, hother, hsame⟩ := bind_eq_ok_iff.1 hmeaning
  obtain rfl : other = expr := Except.ok.inj hsame
  have hnumbered := Tree.isNumbered_of_read htree
  have hindices : (tree.keptGroups.map (·.1)).Nodup :=
    hnumbered.increasing.imp Nat.ne_of_lt
  exact ⟨tree, htree, hnumbered, Meaning.captures_of_tree hother (hindices.of_map _)⟩

end PatternWorkbench.Pattern
