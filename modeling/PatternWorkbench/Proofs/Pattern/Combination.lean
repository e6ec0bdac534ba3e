import Mathlib.Data.List.SplitBy
import PatternWorkbench.Proofs.Machine.Course

/-!
# Combined expressions

Expressions are combined by functions that flatten sequences and choices, merge
choices among characters into sets, and try a common beginning of several
alternatives only once.  None of this changes the course: a concatenation runs
its parts one after the other, and an alternation runs one of them.
-/

namespace PatternWorkbench

namespace Machine.Course

def inOrder (courses : List Course) : Course :=
  courses.foldr andThen stay

def anyOf (courses : List Course) : Course :=
  fun start stop marks => ∃ course ∈ courses, course start stop marks

@[simp]
theorem inOrder_nil : inOrder [] = stay := rfl

@[simp]
theorem inOrder_cons (course : Course) (courses : List Course) :
    inOrder (course :: courses) = course.andThen (inOrder courses) := rfl

theorem inOrder_append (left right : List Course) :
    inOrder (left ++ right) = (inOrder left).andThen (inOrder right) := by
  induction left with
  | nil => simp
  | cons course left ih => simp [ih, andThen_assoc]

@[simp]
theorem anyOf_singleton (course : Course) : anyOf [course] = course := by
  funext start stop marks
  simp [anyOf]

theorem anyOf_cons (course : Course) (courses : List Course) :
    anyOf (course :: courses) = course.orElse (anyOf courses) := by
  funext start stop marks
  simp [anyOf, orElse]

theorem anyOf_append (left right : List Course) :
    anyOf (left ++ right) = (anyOf left).orElse (anyOf right) := by
  funext start stop marks
  simp [anyOf, orElse, or_and_right, exists_or]

/-- A beginning common to all alternatives may be run before the choice. -/
theorem anyOf_map_andThen {Item : Type} (first : Course) (rest : Item → Course)
    (items : List Item) :
    anyOf (items.map fun item => first.andThen (rest item)) =
      first.andThen (anyOf (items.map rest)) := by
  ext start stop marks
  constructor
  · rintro ⟨_, hmem, hcourse⟩
    obtain ⟨item, hitem, rfl⟩ := List.mem_map.1 hmem
    obtain ⟨middle, early, late, hfirst, hrest, rfl⟩ := hcourse
    exact ⟨middle, early, late, hfirst,
      ⟨rest item, List.mem_map_of_mem hitem, hrest⟩, rfl⟩
  · rintro ⟨middle, early, late, hfirst, ⟨_, hmem, hrest⟩, rfl⟩
    obtain ⟨item, hitem, rfl⟩ := List.mem_map.1 hmem
    exact ⟨_, List.mem_map_of_mem hitem,
      ⟨middle, early, late, hfirst, hrest, rfl⟩⟩

end Machine.Course

namespace Pattern.Expr

open Machine (Course)
open Unicode (CharSet RangeTable)

variable (sample : Array Char)

theorem course_ofItems (items : List Expr) :
    (ofItems items).course sample = .inOrder (items.map (course sample)) := by
  induction items with
  | nil => rfl
  | cons item items ih =>
      cases items with
      | nil => simp [ofItems]
      | cons next items =>
          change (item.course sample).andThen
            ((ofItems (next :: items)).course sample) = _
          rw [ih]
          rfl

theorem inOrder_items (expr : Expr) :
    .inOrder (expr.items.map (course sample)) = expr.course sample := by
  induction expr with
  | seq first second ihFirst ihSecond =>
      rw [items, List.map_append, Course.inOrder_append, ihFirst, ihSecond,
        course]
  | empty => rfl
  | set | look | choice | repeated | capture => simp [items]

/-- A concatenation runs its parts in order. -/
theorem course_concat (parts : List Expr) :
    (concat parts).course sample = .inOrder (parts.map (course sample)) := by
  rw [concat, course_ofItems]
  induction parts with
  | nil => rfl
  | cons part parts ih =>
      rw [List.flatMap_cons, List.map_append, Course.inOrder_append, ih,
        inOrder_items]
      rfl

theorem not_course_set_empty (start stop : Nat) (marks : Machine.Marks) :
    ¬ (Expr.set .empty).course sample start stop marks := by
  rintro ⟨⟨c, _, hmem⟩, _⟩
  simp at hmem

theorem course_set_empty :
    (Expr.set .empty).course sample = .anyOf [] := by
  funext start stop marks
  simp [not_course_set_empty, Course.anyOf]

theorem course_ofBranches (branches : List Expr) :
    (ofBranches branches).course sample =
      .anyOf (branches.map (course sample)) := by
  induction branches with
  | nil => exact course_set_empty sample
  | cons branch branches ih =>
      cases branches with
      | nil => simp [ofBranches]
      | cons next branches =>
          change (branch.course sample).orElse
            ((ofBranches (next :: branches)).course sample) = _
          rw [ih, ← Course.anyOf_cons]
          rfl

theorem anyOf_branches (expr : Expr) :
    .anyOf (expr.branches.map (course sample)) = expr.course sample := by
  induction expr with
  | choice first second ihFirst ihSecond =>
      rw [branches, List.map_append, Course.anyOf_append, ihFirst, ihSecond,
        course]
  | empty | set | look | seq | repeated | capture => simp [branches]

theorem anyOf_flatMap_branches (parts : List Expr) :
    .anyOf ((parts.flatMap branches).map (course sample)) =
      Course.anyOf (parts.map (course sample)) := by
  induction parts with
  | nil => rfl
  | cons part parts ih =>
      rw [List.flatMap_cons, List.map_append, Course.anyOf_append, ih,
        anyOf_branches, List.map_cons, Course.anyOf_cons]

/-- Alternatives that are merged into one set are sets themselves. -/
theorem exists_sets_of_mergedSet? {alternatives : List Expr} {merged : CharSet}
    (hmerged : mergedSet? alternatives = some merged) :
    ∃ sets : List CharSet, alternatives = sets.map Expr.set ∧
      merged = .ofTables (sets.map CharSet.ranges) := by
  have hsets : ∃ sets : List CharSet, alternatives = sets.map Expr.set := by
    have hall : ∀ alternative ∈ alternatives, ∃ set, Expr.set set = alternative := by
      intro alternative hmem
      unfold mergedSet? at hmerged
      split at hmerged
      case isTrue hkind =>
        simp only [Bool.or_eq_true, List.all_eq_true] at hkind
        have : alternative.char?.isSome = true ∨ alternative.isClass = true :=
          hkind.imp (· alternative hmem) (· alternative hmem)
        cases alternative with
        | set members => exact ⟨members, rfl⟩
        | empty | look | seq | choice | repeated | capture =>
            simp [char?, isClass] at this
      case isFalse => simp at hmerged
    clear hmerged
    induction alternatives with
    | nil => exact ⟨[], rfl⟩
    | cons alternative alternatives ih =>
        obtain ⟨set, rfl⟩ := hall alternative (by simp)
        obtain ⟨sets, rfl⟩ := ih fun other hmem => hall other (by simp [hmem])
        exact ⟨set :: sets, rfl⟩
  obtain ⟨sets, rfl⟩ := hsets
  refine ⟨sets, rfl, ?_⟩
  unfold mergedSet? at hmerged
  split at hmerged
  case isTrue =>
    simp only [Option.some.injEq, List.map_map] at hmerged
    rw [← hmerged]
    rfl
  case isFalse => simp at hmerged

theorem course_set_ofTables (sets : List CharSet) :
    (Expr.set (.ofTables (sets.map CharSet.ranges))).course sample =
      .anyOf ((sets.map Expr.set).map (course sample)) := by
  ext start stop marks
  simp only [course, Course.take, Course.anyOf, CharSet.mem_ofTables,
    RangeTable.anyHas, List.any_map, List.any_eq_true, List.map_map,
    List.mem_map, Function.comp_apply]
  constructor
  · rintro ⟨⟨c, hc, set, hset, hhas⟩, rfl, rfl⟩
    rw [← CharSet.mem_eq_has] at hhas
    exact ⟨_, ⟨set, hset, rfl⟩, ⟨c, hc, hhas⟩, rfl, rfl⟩
  · rintro ⟨_, ⟨set, hset, rfl⟩, ⟨c, hc, hmem⟩, rfl, rfl⟩
    rw [CharSet.mem_eq_has] at hmem
    exact ⟨⟨c, hc, set, hset, hmem⟩, rfl, rfl⟩

/-- A choice matches any of its alternatives, also where they are merged to one set. -/
theorem course_choose (alternatives : List Expr) :
    (choose alternatives).course sample =
      .anyOf (alternatives.map (course sample)) := by
  unfold choose
  split
  case h_1 => exact course_set_empty sample
  case h_2 alternative => simp
  case h_3 =>
    split
    case h_1 merged hmerged =>
      obtain ⟨sets, rfl, rfl⟩ := exists_sets_of_mergedSet? hmerged
      exact course_set_ofTables sample sets
    case h_2 => exact course_ofBranches sample alternatives

/-! ## A common beginning -/

/-- The common length is that of a beginning which both have. -/
theorem take_commonLength (left right : List (List Expr)) :
    left.take (commonLength left right) =
      right.take (commonLength left right) := by
  induction left generalizing right with
  | nil => simp [commonLength]
  | cons word left ih =>
      cases right with
      | nil => simp [commonLength]
      | cons other right =>
          rw [commonLength]
          split
          case isTrue heq => simp [heq, ih right]
          case isFalse => simp

theorem foldl_min_le {Item : Type} (bound : Item → Nat) (items : List Item)
    (least : Nat) :
    items.foldl (fun length item => min length (bound item)) least ≤ least ∧
      ∀ item ∈ items,
        items.foldl (fun length item => min length (bound item)) least ≤
          bound item := by
  induction items generalizing least with
  | nil => simp
  | cons item items ih =>
      obtain ⟨hleast, hbounds⟩ := ih (min least (bound item))
      rw [List.foldl_cons]
      refine ⟨by omega, fun other hother => ?_⟩
      rcases List.mem_cons.1 hother with rfl | hother
      · omega
      · exact hbounds other hother

/-- All alternatives begin with as many words of the first one as they share. -/
theorem take_sharedLength {alternatives : List (List (List Expr))}
    {alternative : List (List Expr)} (hmem : alternative ∈ alternatives) :
    alternative.take (sharedLength alternatives) =
      (alternatives.head?.getD []).take (sharedLength alternatives) := by
  unfold sharedLength
  split
  case h_1 => simp at hmem
  case h_2 only => simp [List.mem_singleton.1 hmem]
  case h_3 first rest _ =>
    split
    case isTrue =>
      rcases List.mem_cons.1 hmem with rfl | hrest
      · rfl
      · have hle := (foldl_min_le (commonLength first) rest first.length).2
          alternative hrest
        have hshared := congrArg
          (List.take (rest.foldl (fun length other =>
            min length (commonLength first other)) first.length))
          (take_commonLength first alternative)
        rw [List.take_take, List.take_take, Nat.min_eq_left hle] at hshared
        exact hshared.symm
    case isFalse => simp

theorem flatten_words (items : List Expr) : (words items).flatten = items :=
  List.flatten_splitBy _ _

/-- An alternation runs one of its parts, also where their common beginning is
tried only once. -/
theorem course_alternation (parts : List Expr) :
    (alternation parts).course sample = .anyOf (parts.map (course sample)) := by
  rw [← anyOf_flatMap_branches]
  unfold alternation
  generalize parts.flatMap branches = alternatives
  simp only
  split
  case h_1 => exact course_choose sample alternatives
  case h_2 shared hshared =>
    generalize hsequences : alternatives.map
      (fun alternative => words alternative.items) = sequences at hshared
    have hsplit : ∀ alternative ∈ alternatives,
        alternative.course sample =
          (Course.inOrder ((((sequences.head?.getD []).take
            (shared + 1)).flatten).map (course sample))).andThen
          ((ofItems ((words alternative.items).drop (shared + 1)).flatten).course
            sample) := by
      intro alternative hmem
      have hword : words alternative.items ∈ sequences :=
        hsequences ▸ List.mem_map_of_mem hmem
      have hhead := take_sharedLength hword
      rw [hshared] at hhead
      rw [← hhead, course_ofItems, ← Course.inOrder_append, ← List.map_append,
        ← List.flatten_append, List.take_append_drop, flatten_words,
        inOrder_items]
    rw [course_concat, List.map_append, Course.inOrder_append, List.map_singleton,
      Course.inOrder_cons, Course.inOrder_nil, Course.andThen_stay,
      course_choose, anyOf_flatMap_branches, ← hsequences, List.map_map,
      List.map_map, List.map_congr_left hsplit, Course.anyOf_map_andThen]
    subst hsequences
    rfl

/-- A set of characters is repeated as it is written, except that no repetition
at all is nothing and one repetition is the set. -/
theorem course_repetition_set (least : Nat) (most : Option Nat) (greedy : Bool)
    (members : CharSet) (hbounds : ∀ bound ∈ most, least ≤ bound) :
    (repetition least most greedy (.set members)).course sample =
      .between least most (Course.take sample members) := by
  have hbody : (Expr.set members).matchesOnlyEmpty = false := rfl
  unfold repetition
  simp only [hbody, Bool.false_eq_true, if_false]
  split
  case isTrue hnone =>
    obtain rfl := hnone
    have := hbounds 0 rfl
    rw [Course.between_eq_power _ (by omega), Nat.le_zero.1 this]
    rfl
  case isFalse =>
    split
    case isTrue hone =>
      obtain ⟨rfl, rfl⟩ := hone
      rw [Course.between_eq_power _ (Nat.le_refl 1), Course.power_one]
      rfl
    case isFalse => rfl

/-! ## Groups of a sequence -/

theorem captures_ofItems (items : List Expr) :
    (ofItems items).captures = items.flatMap captures := by
  fun_induction ofItems items with
  | case1 => rfl
  | case2 item => simp
  | case3 item rest hne ih => rw [captures, ih, List.flatMap_cons]

theorem flatMap_captures_items (expr : Expr) :
    expr.items.flatMap captures = expr.captures := by
  induction expr with
  | seq first second ihFirst ihSecond =>
      rw [items, List.flatMap_append, ihFirst, ihSecond, captures]
  | empty => rfl
  | set | look | choice | repeated | capture => simp [items]

/-- A sequence has the groups of its parts, in order. -/
theorem captures_concat (parts : List Expr) :
    (concat parts).captures = parts.flatMap captures := by
  rw [concat, captures_ofItems, List.flatMap_assoc]
  simp only [flatMap_captures_items]

end Pattern.Expr

end PatternWorkbench
