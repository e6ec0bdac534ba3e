import Mathlib.Data.List.Nodup
import PatternWorkbench.Proofs.Pattern.Accepted
import PatternWorkbench.Proofs.Pattern.Combination

/-!
# Groups that an expression keeps

A part that is repeated zero times means nothing, and with it go the groups in
it.  All other groups of a pattern are groups of its expression, in the order in
which they open: a common beginning of several branches is tried once, but it has
no groups, because no two groups have the same index.
-/

namespace PatternWorkbench.Pattern

/-! ## Groups of combined expressions -/

namespace Expr

theorem captures_ofBranches (branches : List Expr) :
    (ofBranches branches).captures = branches.flatMap captures := by
  fun_induction ofBranches branches with
  | case1 => rfl
  | case2 branch => simp
  | case3 branch rest hne ih => rw [captures, ih, List.flatMap_cons]

theorem flatMap_captures_branches (parts : List Expr) :
    (parts.flatMap branches).flatMap captures = parts.flatMap captures := by
  have hbranches (part : Expr) : part.branches.flatMap captures = part.captures := by
    induction part with
    | choice first second ihFirst ihSecond =>
        rw [branches, List.flatMap_append, ihFirst, ihSecond, captures]
    | empty | set | look | seq | repeated | capture => simp [branches]
  simp only [List.flatMap_assoc, hbranches]

theorem captures_choose (alternatives : List Expr) :
    (choose alternatives).captures = alternatives.flatMap captures := by
  unfold choose
  split
  case h_1 => rfl
  case h_2 alternative => simp
  case h_3 =>
    split
    case h_1 merged hmerged =>
      obtain ⟨sets, rfl, _⟩ := exists_sets_of_mergedSet? hmerged
      simp [captures]
    case h_2 => exact captures_ofBranches alternatives

/-- What two of several alternatives have in common has no groups, if all groups
are distinct. -/
theorem captures_eq_nil_of_shared {alternatives : List Expr} {shared : List Expr}
    (hdistinct : (alternatives.flatMap captures).Nodup)
    (hseveral : 2 ≤ alternatives.length)
    (hshared : ∀ alternative ∈ alternatives,
      shared.flatMap captures <+: alternative.captures) :
    shared.flatMap captures = [] := by
  match alternatives with
  | [] | [_] => simp at hseveral
  | first :: second :: rest =>
      rw [List.eq_nil_iff_forall_not_mem]
      intro group hgroup
      have hfirst := (hshared first (by simp)).subset hgroup
      have hsecond := (hshared second (by simp)).subset hgroup
      rw [List.flatMap_cons, List.nodup_append] at hdistinct
      exact hdistinct.2.2 group hfirst group
        (List.mem_flatMap.2 ⟨second, by simp, hsecond⟩) rfl

theorem two_le_length_of_sharedLength {alternatives : List (List (List Expr))}
    (hshared : sharedLength alternatives ≠ 0) : 2 ≤ alternatives.length := by
  match alternatives with
  | [] | [_] => exact absurd rfl hshared
  | _ :: _ :: _ => simp

/-- An alternation has the groups of its parts, in order. -/
theorem captures_alternation {parts : List Expr}
    (hdistinct : (parts.flatMap captures).Nodup) :
    (alternation parts).captures = parts.flatMap captures := by
  rw [← flatMap_captures_branches] at hdistinct ⊢
  unfold alternation
  generalize parts.flatMap branches = alternatives at hdistinct ⊢
  simp only
  split
  case h_1 => exact captures_choose alternatives
  case h_2 shared hshared =>
    generalize hsequences : alternatives.map
      (fun alternative => words alternative.items) = sequences at hshared
    generalize hbeginning : ((sequences.head?.getD []).take (shared + 1)).flatten =
      beginning
    have hsplit : ∀ alternative ∈ alternatives, alternative.captures =
        beginning.flatMap captures ++
          (ofItems ((words alternative.items).drop (shared + 1)).flatten).captures := by
      intro alternative hmem
      have hword : words alternative.items ∈ sequences :=
        hsequences ▸ List.mem_map_of_mem hmem
      have hhead := take_sharedLength hword
      rw [hshared] at hhead
      rw [captures_ofItems, ← hbeginning, ← hhead, ← List.flatMap_append,
        ← List.flatten_append, List.take_append_drop, flatten_words,
        flatMap_captures_items]
    have hlength : sequences.length = alternatives.length := by
      rw [← hsequences, List.length_map]
    have hseveral : 2 ≤ alternatives.length := by
      rw [← hlength]
      exact two_le_length_of_sharedLength (by omega)
    have hnone := captures_eq_nil_of_shared hdistinct hseveral
      fun alternative hmem => hsplit alternative hmem ▸ List.prefix_append _ _
    rw [captures_concat, List.flatMap_append, hnone, List.nil_append,
      List.flatMap_singleton, captures_choose, flatMap_captures_branches, ← hsequences,
      List.map_map, List.flatMap_map]
    refine List.flatMap_congr fun alternative hmem => ?_
    rw [hsplit alternative hmem, hnone]
    rfl

/-- A part that is repeated zero times leaves nothing. -/
theorem captures_repetition (least : Nat) (most : Option Nat) (greedy : Bool)
    (body : Expr) :
    (repetition least most greedy body).captures =
      if most = some 0 then [] else body.captures := by
  unfold repetition
  extract_lets fewest highest
  have hhighest : highest = some 0 ↔ most = some 0 := by
    cases most <;> simp only [highest] <;> split <;> simp
  by_cases hmost : most = some 0
  · rw [if_pos (hhighest.2 hmost), if_pos hmost]
    rfl
  · rw [if_neg (mt hhighest.1 hmost), if_neg hmost]
    split <;> rfl

end Expr

/-! ## Groups of a tree -/

def Tree.groups (tree : Tree) : List (Nat × Option Text) :=
  tree.features.filterMap Feature.group?

mutual

/-- The groups of a tree that are not in a part repeated zero times. -/
def Tree.keptGroups : Tree → List (Nat × Option Text)
  | .repetition _ counts _ body => if counts.max = some 0 then [] else body.keptGroups
  | .group _ kind body => kind.feature.group?.toList ++ body.keptGroups
  | .alternation _ items | .concat _ items => keptAmong items
  | .nothing _ | .flags .. | .literal _ | .dot _ | .assertion .. | .property ..
  | .shorthand .. | .bracketed .. => []

def Tree.keptAmong : List Tree → List (Nat × Option Text)
  | [] => []
  | item :: rest => item.keptGroups ++ keptAmong rest

end

mutual

def Tree.keepsAll : Tree → Bool
  | .repetition _ counts _ body => counts.max != some 0 && body.keepsAll
  | .group _ _ body => body.keepsAll
  | .alternation _ items | .concat _ items => keepsAllAmong items
  | .nothing _ | .flags .. | .literal _ | .dot _ | .assertion .. | .property ..
  | .shorthand .. | .bracketed .. => true

def Tree.keepsAllAmong : List Tree → Bool
  | [] => true
  | item :: rest => item.keepsAll && keepsAllAmong rest

end

namespace Tree

theorem groups_group (span : Span) (kind : GroupKind) (body : Tree) :
    (Tree.group span kind body).groups = kind.feature.group?.toList ++ body.groups := by
  rw [groups, features, List.filterMap_cons]
  cases kind <;> rfl

mutual

/-- The groups that are kept are some of those that are written, in their order. -/
theorem keptGroups_sublist (tree : Tree) : tree.keptGroups.Sublist tree.groups := by
  cases tree with
  | repetition span counts greedy body =>
      rw [keptGroups]
      split
      case isTrue => exact List.nil_sublist _
      case isFalse => exact keptGroups_sublist body
  | group span kind body =>
      rw [keptGroups, groups_group]
      exact (keptGroups_sublist body).append_left _
  | alternation span items | concat span items =>
      rw [keptGroups, groups, features]
      exact keptAmong_sublist items
  | nothing | flags | literal | dot | assertion | property | shorthand | bracketed =>
      rw [keptGroups]
      exact List.nil_sublist _

theorem keptAmong_sublist (items : List Tree) :
    (keptAmong items).Sublist ((featuresAmong items).filterMap Feature.group?) := by
  cases items with
  | nil => exact List.nil_sublist _
  | cons item rest =>
      rw [keptAmong, featuresAmong, List.filterMap_append]
      exact (keptGroups_sublist item).append (keptAmong_sublist rest)

end

mutual

/-- Where nothing is repeated zero times, every group is kept. -/
theorem keptGroups_eq {tree : Tree} (hkeeps : tree.keepsAll = true) :
    tree.keptGroups = tree.groups := by
  cases tree with
  | repetition span counts greedy body =>
      rw [keepsAll, Bool.and_eq_true, bne_iff_ne] at hkeeps
      rw [keptGroups, if_neg hkeeps.1]
      exact keptGroups_eq hkeeps.2
  | group span kind body =>
      have hbody : body.keepsAll = true := hkeeps
      rw [keptGroups, groups_group, keptGroups_eq hbody]
  | alternation span items | concat span items =>
      rw [keptGroups, groups, features]
      exact keptAmong_eq hkeeps
  | nothing | flags | literal | dot | assertion | property | shorthand => rfl
  | bracketed span negated inside =>
      rw [keptGroups, groups, features]
      simp [Feature.group?]

theorem keptAmong_eq {items : List Tree} (hkeeps : keepsAllAmong items = true) :
    keptAmong items = (featuresAmong items).filterMap Feature.group? := by
  cases items with
  | nil => rfl
  | cons item rest =>
      rw [keepsAllAmong, Bool.and_eq_true] at hkeeps
      rw [keptAmong, featuresAmong, List.filterMap_append, keptGroups_eq hkeeps.1,
        keptAmong_eq hkeeps.2]
      rfl

end

end Tree

/-! ## Groups of a meaning -/

namespace Meaning

theorem captures_of_literal {modes : Modes} {character : Literal} {expr : Expr}
    (hliteral : literal modes character = .ok expr) : expr.captures = [] := by
  unfold literal at hliteral
  split at hliteral
  · simp [reject] at hliteral
  split at hliteral
  · rw [← Except.ok.inj hliteral, Expr.captures]
  split at hliteral
  · rw [← Except.ok.inj hliteral, Expr.captures]
  split at hliteral
  · rw [← Except.ok.inj hliteral, Expr.captures]
  · rw [← Except.ok.inj hliteral, Expr.captures]

mutual

/-- The expression of a tree has the groups that the tree keeps. -/
theorem captures_of_tree {modes after : Modes} {part : Tree} {expr : Expr}
    (hmeaning : tree modes part = .ok (expr, after)) (hdistinct : part.keptGroups.Nodup) :
    expr.captures = part.keptGroups := by
  cases part with
  | nothing | flags | assertion =>
      rw [tree] at hmeaning
      obtain ⟨rfl, _⟩ := Prod.mk.inj (Except.ok.inj hmeaning)
      rfl
  | literal character =>
      rw [tree] at hmeaning
      obtain ⟨single, hsingle, hsame⟩ := bind_eq_ok_iff.1 hmeaning
      obtain ⟨rfl, _⟩ := Prod.mk.inj (Except.ok.inj hsame)
      exact captures_of_literal hsingle
  | dot | property | shorthand =>
      rw [tree] at hmeaning
      obtain ⟨set, _, hsame⟩ := bind_eq_ok_iff.1 hmeaning
      obtain ⟨rfl, _⟩ := Prod.mk.inj (Except.ok.inj hsame)
      rfl
  | bracketed =>
      rw [tree] at hmeaning
      obtain ⟨inside, _, hmeaning⟩ := bind_eq_ok_iff.1 hmeaning
      obtain ⟨set, _, hsame⟩ := bind_eq_ok_iff.1 hmeaning
      obtain ⟨rfl, _⟩ := Prod.mk.inj (Except.ok.inj hsame)
      rfl
  | repetition span counts greedy body =>
      rw [tree] at hmeaning
      obtain ⟨⟨inner, between⟩, hinner, hsame⟩ := bind_eq_ok_iff.1 hmeaning
      obtain ⟨rfl, _⟩ := Prod.mk.inj (Except.ok.inj hsame)
      rw [Expr.captures_repetition, Tree.keptGroups]
      split
      case isTrue => rfl
      case isFalse hmost =>
        rw [Tree.keptGroups, if_neg hmost] at hdistinct
        exact captures_of_tree hinner hdistinct
  | group span kind body =>
      cases kind with
      | plain items =>
          rw [tree] at hmeaning
          obtain ⟨⟨inner, between⟩, hinner, hsame⟩ := bind_eq_ok_iff.1 hmeaning
          obtain ⟨rfl, _⟩ := Prod.mk.inj (Except.ok.inj hsame)
          have hbody : body.keptGroups.Nodup := hdistinct
          have hcaptures := captures_of_tree hinner hbody
          exact hcaptures
      | capture index name =>
          rw [tree] at hmeaning
          obtain ⟨⟨inner, between⟩, hinner, hsame⟩ := bind_eq_ok_iff.1 hmeaning
          obtain ⟨rfl, _⟩ := Prod.mk.inj (Except.ok.inj hsame)
          have hbody : body.keptGroups.Nodup := (List.nodup_append.1 hdistinct).2.1
          rw [Expr.captures, captures_of_tree hinner hbody]
          rfl
  | alternation span items =>
      rw [tree] at hmeaning
      obtain ⟨⟨exprs, between⟩, hexprs, hsame⟩ := bind_eq_ok_iff.1 hmeaning
      obtain ⟨rfl, _⟩ := Prod.mk.inj (Except.ok.inj hsame)
      have hcaptures := captures_of_trees hexprs hdistinct
      rw [Expr.captures_alternation (hcaptures ▸ hdistinct), hcaptures]
      rfl
  | concat span items =>
      rw [tree] at hmeaning
      obtain ⟨⟨exprs, between⟩, hexprs, hsame⟩ := bind_eq_ok_iff.1 hmeaning
      obtain ⟨rfl, _⟩ := Prod.mk.inj (Except.ok.inj hsame)
      rw [Expr.captures_concat, captures_of_trees hexprs hdistinct]
      rfl

/-- The engine has exactly the groups that are kept. -/
theorem captures_of_trees {modes after : Modes} {items : List Tree} {exprs : List Expr}
    (hmeaning : trees modes items = .ok (exprs, after))
    (hdistinct : (Tree.keptAmong items).Nodup) :
    exprs.flatMap Expr.captures = Tree.keptAmong items := by
  cases items with
  | nil =>
      rw [trees] at hmeaning
      obtain ⟨rfl, _⟩ := Prod.mk.inj (Except.ok.inj hmeaning)
      rfl
  | cons item rest =>
      rw [trees] at hmeaning
      obtain ⟨⟨first, between⟩, hfirst, hmeaning⟩ := bind_eq_ok_iff.1 hmeaning
      obtain ⟨⟨others, last⟩, hothers, hsame⟩ := bind_eq_ok_iff.1 hmeaning
      obtain ⟨rfl, _⟩ := Prod.mk.inj (Except.ok.inj hsame)
      rw [Tree.keptAmong, List.nodup_append] at hdistinct
      rw [List.flatMap_cons, Tree.keptAmong, captures_of_tree hfirst hdistinct.1,
        captures_of_trees hothers hdistinct.2.1]

end

end Meaning

/-! ## Indices -/

/-- A piece opens at most one group, which gets the next index. -/
theorem Piece.exists_indices {pos : Nat} {level next : Level} {text after : Text}
    {features : List Feature} (hpiece : Piece pos level text after features next) :
    ∃ count, next.captures = level.captures + count ∧
      (features.filterMap Feature.group?).map (·.1) =
        List.range' (level.captures + 1) count := by
  have hqueries (queries : List PropertyQuery) :
      (queries.map Feature.query).filterMap Feature.group? = [] := by
    simp [Feature.group?]
  cases hpiece with
  | plain => exact ⟨0, rfl, rfl⟩
  | escape queries => exact ⟨0, rfl, by rw [hqueries]; rfl⟩
  | bracketed queries =>
      refine ⟨0, rfl, ?_⟩
      rw [List.filterMap_cons_none rfl, hqueries]
      rfl
  | numbered | named => exact ⟨1, rfl, rfl⟩
  | setFlags | grouping => exact ⟨0, rfl, rfl⟩
  | close hlevel =>
      subst hlevel
      exact ⟨0, rfl, rfl⟩

/-- Groups are counted in the order in which they open. -/
theorem Accepted.exists_indices {pos : Nat} {level : Level} {text : Text}
    {features : List Feature} (haccepted : Accepted pos level text features) :
    ∃ count, (features.filterMap Feature.group?).map (·.1) =
      List.range' (level.captures + 1) count := by
  induction haccepted with
  | done => exact ⟨0, rfl⟩
  | piece hpiece hafter ih =>
      obtain ⟨count, hnext, hindices⟩ := hpiece.exists_indices
      obtain ⟨others, hothers⟩ := ih
      refine ⟨count + others, ?_⟩
      rw [List.filterMap_append, List.map_append, hindices, hothers, hnext,
        ← List.range'_append_1, Nat.add_right_comm]

/-- No two groups of an accepted pattern share their number and name. -/
theorem Accepted.nodup_groups {pos : Nat} {level : Level} {text : Text}
    {features : List Feature} (haccepted : Accepted pos level text features) :
    (features.filterMap Feature.group?).Nodup := by
  obtain ⟨count, hindices⟩ := haccepted.exists_indices
  refine List.Nodup.of_map (·.1) ?_
  rw [hindices]
  exact List.nodup_range'

/-- The groups of an expression are those that its pattern keeps. -/
theorem captures_of_accepted {modes after : Modes} {pattern : Text} {tree : Tree}
    {expr : Expr} (haccepted : Accepted 0 ⟨0, 0⟩ pattern tree.features)
    (hmeaning : Meaning.tree modes tree = .ok (expr, after)) :
    expr.captures = tree.keptGroups :=
  Meaning.captures_of_tree hmeaning
    (tree.keptGroups_sublist.nodup haccepted.nodup_groups)

end PatternWorkbench.Pattern
