import PatternWorkbench.Pattern.Meaning

/-!
# Features of a pattern

Some parts of a pattern matter beyond their own place: flags, groups, bracketed
classes and the properties asked for.  A reading collects them in the order in
which they are written, and the tree that it ends with has them all.
-/

namespace PatternWorkbench

theorem bind_eq_ok_iff {Fault First Second : Type} {first : Except Fault First}
    {second : First → Except Fault Second} {value : Second} :
    (first >>= second) = .ok value ↔
      ∃ between, first = .ok between ∧ second between = .ok value := by
  cases first with
  | error fault => simp [bind, Except.bind]
  | ok between => simp [bind, Except.bind]

namespace Pattern

open Reading (OpenGroup Sequence State)

def PropertyQuery.IsKnown (query : PropertyQuery) : Prop :=
  ∃ set, query.lookup = .found set

inductive Feature where
  | flags (items : FlagItems)
  | group (index : Nat) (name : Option Text)
  | bracketed (span : Span)
  | query (query : PropertyQuery)
  deriving DecidableEq, Repr

def Feature.group? : Feature → Option (Nat × Option Text)
  | .group index name => some (index, name)
  | .flags _ | .bracketed _ | .query _ => none

mutual

def ClassTree.queries : ClassTree → List PropertyQuery
  | .property _ query _ => [query]
  | .bracketed _ _ inside => inside.queries
  | .union _ items => queriesAmong items
  | .operation _ _ left right => left.queries ++ right.queries
  | .nothing _ | .literal _ | .range .. | .named .. | .shorthand .. => []

def ClassTree.queriesAmong : List ClassTree → List PropertyQuery
  | [] => []
  | item :: rest => item.queries ++ queriesAmong rest

end

theorem ClassTree.queriesAmong_eq (items : List ClassTree) :
    queriesAmong items = items.flatMap queries := by
  induction items with
  | nil => rfl
  | cons item rest ih => rw [queriesAmong, ih, List.flatMap_cons]

def GroupKind.feature : GroupKind → Feature
  | .plain items => .flags items
  | .capture index name => .group index name

mutual

def Tree.features : Tree → List Feature
  | .flags _ items => [.flags items]
  | .property _ query _ => [.query query]
  | .bracketed span _ inside => .bracketed span :: inside.queries.map .query
  | .repetition _ _ _ body => body.features
  | .group _ kind body => kind.feature :: body.features
  | .alternation _ items | .concat _ items => featuresAmong items
  | .nothing _ | .literal _ | .dot _ | .assertion .. | .shorthand .. => []

def Tree.featuresAmong : List Tree → List Feature
  | [] => []
  | item :: rest => item.features ++ featuresAmong rest

end

theorem Tree.featuresAmong_eq (items : List Tree) :
    featuresAmong items = items.flatMap features := by
  induction items with
  | nil => rfl
  | cons item rest ih => rw [featuresAmong, ih, List.flatMap_cons]

theorem Tree.features_ofItems (span : Span) (items : List Tree) :
    (Tree.ofItems span items).features = items.flatMap features := by
  unfold ofItems
  split
  case h_1 => rfl
  case h_2 item => simp
  case h_3 => rw [features, featuresAmong_eq]

/-! ## Features read so far -/

namespace Reading

def Sequence.features (sequence : Sequence) : List Feature :=
  sequence.branches.reverse.flatMap Tree.features ++
    sequence.items.reverse.flatMap Tree.features

/-- What was read before a group that is open, and its opening. -/
def OpenGroup.features (group : OpenGroup) : List Feature :=
  group.outer.features ++ [group.kind.feature]

def State.features (state : State) : List Feature :=
  state.groups.reverse.flatMap OpenGroup.features ++ state.sequence.features

theorem Sequence.features_tree (sequence : Sequence) (stop : Nat) :
    (sequence.tree stop).features = sequence.features := by
  have hbranch : (sequence.branch stop).features =
      sequence.items.reverse.flatMap Tree.features := Tree.features_ofItems _ _
  unfold tree
  split
  case h_1 hnil => rw [hbranch, features, hnil, List.reverse_nil, List.flatMap_nil,
    List.nil_append]
  case h_2 =>
    rw [Tree.features, Tree.featuresAmong_eq, List.flatMap_append,
      List.flatMap_singleton, hbranch, features]

@[simp]
theorem Sequence.features_empty (pos : Nat) : (empty pos).features = [] := rfl

@[simp]
theorem Sequence.features_push (sequence : Sequence) (tree : Tree) :
    (sequence.push tree).features = sequence.features ++ tree.features := by
  simp [features, push]

@[simp]
theorem Sequence.features_bar (sequence : Sequence) (pos : Nat) :
    (sequence.bar pos).features = sequence.features := by
  simp [features, bar, branch, Tree.features_ofItems]

variable {state next : State} {pos stop : Nat} {c : Char} {rest : Text}

@[simp]
theorem State.features_push (state : State) (tree : Tree) :
    (state.push tree).features = state.features ++ tree.features := by
  simp [features, push]

theorem State.features_openGroup (state : State) (pos stop : Nat) (kind : GroupKind)
    (verbose : Bool) :
    (state.openGroup pos stop kind verbose).features =
      state.features ++ [kind.feature] := by
  simp [features, openGroup, OpenGroup.features]

theorem State.features_close (hclose : state.close pos = .ok next) :
    next.features = state.features := by
  unfold close at hclose
  split at hclose
  case h_1 => simp [fail] at hclose
  case h_2 group outer hgroups =>
    rw [← Except.ok.inj hclose]
    simp [features, hgroups, Tree.features, OpenGroup.features,
      Sequence.features_tree]

theorem Sequence.features_of_repeatable? {sequence others : Sequence} {body : Tree}
    (hrepeatable : sequence.repeatable? = some (body, others)) :
    sequence.features = others.features ++ body.features := by
  unfold repeatable? at hrepeatable
  split at hrepeatable
  case h_1 | h_2 | h_3 => simp at hrepeatable
  case h_4 item items _ _ hitems =>
    obtain ⟨rfl, rfl⟩ := Prod.mk.inj (Option.some.inj hrepeatable)
    simp [features, hitems]

theorem State.features_repeat {body : Tree} {sequence : Sequence}
    (hrepeatable : state.sequence.repeatable? = some (body, sequence))
    (operator : RepetitionReading.Operator) :
    (state.repeat body sequence operator).1.features = state.features := by
  simp [features, State.repeat, Tree.features,
    Sequence.features_of_repeatable? hrepeatable]

end Reading

/-! ## Features of a pattern with a meaning -/

namespace Meaning

theorem isKnown_of_property {modes : Modes} {span : Span} {query : PropertyQuery}
    {negated : Bool} {set : Unicode.CharSet}
    (hproperty : property modes span query negated = .ok set) : query.IsKnown := by
  unfold property at hproperty
  split at hproperty
  case isTrue => simp [reject] at hproperty
  case isFalse =>
    split at hproperty
    case h_1 found hfound => exact ⟨found, hfound⟩
    case h_2 => simp [reject] at hproperty
    case h_3 => simp [reject] at hproperty

mutual

/-- A class only has a set if all properties it asks for are known. -/
theorem isKnown_of_classSet {modes : Modes} {bracketed : ClassTree} {set : Unicode.CharSet}
    (hset : classSet modes bracketed = .ok set) :
    ∀ query ∈ bracketed.queries, query.IsKnown := by
  cases bracketed with
  | nothing | literal | range | named | shorthand => simp [ClassTree.queries]
  | property span query negated =>
      rw [classSet] at hset
      simpa [ClassTree.queries] using isKnown_of_property hset
  | bracketed span negated inside =>
      rw [classSet] at hset
      obtain ⟨members, hmembers, _⟩ := bind_eq_ok_iff.1 hset
      rw [ClassTree.queries]
      exact isKnown_of_classSet hmembers
  | union span items =>
      rw [classSet] at hset
      rw [ClassTree.queries]
      exact isKnown_of_classUnion hset
  | operation span kind left right =>
      rw [classSet] at hset
      obtain ⟨first, hfirst, hset⟩ := bind_eq_ok_iff.1 hset
      obtain ⟨second, hsecond, _⟩ := bind_eq_ok_iff.1 hset
      rw [ClassTree.queries, List.forall_mem_append]
      exact ⟨isKnown_of_classSet hfirst, isKnown_of_classSet hsecond⟩

theorem isKnown_of_classUnion {modes : Modes} {items : List ClassTree}
    {set : Unicode.CharSet} (hset : classUnion modes items = .ok set) :
    ∀ query ∈ ClassTree.queriesAmong items, query.IsKnown := by
  match items with
  | [] => simp [ClassTree.queriesAmong]
  | [item] =>
      rw [classUnion] at hset
      simp only [ClassTree.queriesAmong, List.append_nil]
      exact isKnown_of_classSet hset
  | item :: next :: rest =>
      rw [classUnion] at hset
      · obtain ⟨first, hfirst, hset⟩ := bind_eq_ok_iff.1 hset
        obtain ⟨others, hothers, _⟩ := bind_eq_ok_iff.1 hset
        rw [ClassTree.queriesAmong, List.forall_mem_append]
        exact ⟨isKnown_of_classSet hfirst, isKnown_of_classUnion hothers⟩
      · simp

end

mutual

/-- A tree only has a meaning if all properties it asks for are known. -/
theorem isKnown_of_tree {modes : Modes} {part : Tree} {result : Expr × Modes}
    (hmeaning : tree modes part = .ok result) :
    ∀ query, .query query ∈ part.features → query.IsKnown := by
  cases part with
  | nothing | flags | literal | dot | assertion | shorthand => simp [Tree.features]
  | property span query negated =>
      rw [tree] at hmeaning
      obtain ⟨set, hset, _⟩ := bind_eq_ok_iff.1 hmeaning
      simpa [Tree.features] using isKnown_of_property hset
  | bracketed span negated inside =>
      rw [tree] at hmeaning
      obtain ⟨set, hset, _⟩ := bind_eq_ok_iff.1 hmeaning
      simpa [Tree.features] using isKnown_of_classSet hset
  | repetition span counts greedy body =>
      rw [tree] at hmeaning
      obtain ⟨inner, hinner, _⟩ := bind_eq_ok_iff.1 hmeaning
      rw [Tree.features]
      exact isKnown_of_tree hinner
  | group span kind body =>
      cases kind with
      | plain items =>
          rw [tree] at hmeaning
          obtain ⟨inner, hinner, _⟩ := bind_eq_ok_iff.1 hmeaning
          simpa [Tree.features, GroupKind.feature] using isKnown_of_tree hinner
      | capture index name =>
          rw [tree] at hmeaning
          obtain ⟨inner, hinner, _⟩ := bind_eq_ok_iff.1 hmeaning
          simpa [Tree.features, GroupKind.feature] using isKnown_of_tree hinner
  | alternation span items | concat span items =>
      rw [tree] at hmeaning
      obtain ⟨inner, hinner, _⟩ := bind_eq_ok_iff.1 hmeaning
      rw [Tree.features]
      exact isKnown_of_trees hinner

theorem isKnown_of_trees {modes : Modes} {items : List Tree}
    {result : List Expr × Modes} (hmeaning : trees modes items = .ok result) :
    ∀ query, .query query ∈ Tree.featuresAmong items → query.IsKnown := by
  cases items with
  | nil => simp [Tree.featuresAmong]
  | cons item rest =>
      rw [trees] at hmeaning
      obtain ⟨first, hfirst, hmeaning⟩ := bind_eq_ok_iff.1 hmeaning
      obtain ⟨others, hothers, _⟩ := bind_eq_ok_iff.1 hmeaning
      intro query hquery
      rw [Tree.featuresAmong, List.mem_append] at hquery
      exact hquery.elim (isKnown_of_tree hfirst query) (isKnown_of_trees hothers query)

end

end Meaning

end Pattern

end PatternWorkbench
