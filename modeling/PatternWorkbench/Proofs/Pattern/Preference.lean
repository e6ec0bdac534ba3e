import PatternWorkbench.Proofs.Machine.Greed
import PatternWorkbench.Proofs.Pattern.Spelling

/-!
# Preferred courses in order

A row of expressions prefers the courses of its parts in order, each part with
success in what comes behind it for its goal.  Joining the parts into one
expression flattens them and changes nothing about this.
-/

namespace PatternWorkbench

namespace Machine.Course

theorem reaches_stay (goal : Nat → Prop) : stay.Reaches goal = goal := by
  funext start
  apply propext
  constructor
  · rintro ⟨_, _, ⟨rfl, rfl⟩, hgoal⟩
    exact hgoal
  · intro hgoal
    exact ⟨start, [], ⟨rfl, rfl⟩, hgoal⟩

theorem reaches_andThen (first second : Course) (goal : Nat → Prop) :
    (first.andThen second).Reaches goal = first.Reaches (second.Reaches goal) := by
  funext start
  apply propext
  constructor
  · rintro ⟨stop, _, ⟨middle, early, late, hfirst, hsecond, rfl⟩, hgoal⟩
    exact ⟨middle, early, hfirst, stop, late, hsecond, hgoal⟩
  · rintro ⟨middle, early, hfirst, stop, late, hsecond, hgoal⟩
    exact ⟨stop, _, ⟨middle, early, late, hfirst, hsecond, rfl⟩, hgoal⟩

end Machine.Course

namespace Pattern

open Machine (Course Flow Marks)

def prefersInOrder (sample : Array Char) : List Expr → (Nat → Prop) → Course
  | [], _ => .stay
  | expr :: exprs, goal =>
      ((Flow.ofExpr expr).prefers sample
        ((Course.inOrder (exprs.map (Expr.course sample))).Reaches goal)).andThen
          (prefersInOrder sample exprs goal)

section InOrder

variable (sample : Array Char) (goal : Nat → Prop)

theorem prefersInOrder_singleton (expr : Expr) :
    prefersInOrder sample [expr] goal = (Flow.ofExpr expr).prefers sample goal := by
  rw [prefersInOrder, prefersInOrder, List.map_nil, Course.inOrder_nil,
    Course.reaches_stay, Course.andThen_stay]

/-- What is preferred of two rows is what the first prefers, given that the second can
follow. -/
theorem prefersInOrder_append (left right : List Expr) :
    prefersInOrder sample (left ++ right) goal =
      (prefersInOrder sample left
        ((Course.inOrder (right.map (Expr.course sample))).Reaches goal)).andThen
          (prefersInOrder sample right goal) := by
  induction left with
  | nil => rw [List.nil_append, prefersInOrder, Course.stay_andThen]
  | cons expr left ih =>
      rw [List.cons_append, prefersInOrder, prefersInOrder, ih, List.map_append,
        Course.inOrder_append, Course.reaches_andThen, Course.andThen_assoc]

theorem prefers_ofItems (items : List Expr) :
    (Flow.ofExpr (Expr.ofItems items)).prefers sample goal =
      prefersInOrder sample items goal := by
  induction items with
  | nil => rfl
  | cons item items ih =>
      cases items with
      | nil => rw [Expr.ofItems, prefersInOrder_singleton]
      | cons next items =>
          rw [Expr.ofItems, Flow.ofExpr, Flow.prefers, ih, Flow.course_ofExpr,
            Expr.course_ofItems]
          · rfl
          · simp

/-- An expression and the row of its items prefer the same. -/
theorem prefersInOrder_items (expr : Expr) :
    prefersInOrder sample expr.items goal = (Flow.ofExpr expr).prefers sample goal := by
  induction expr generalizing goal with
  | empty => rfl
  | seq first second ihFirst ihSecond =>
      rw [Expr.items, prefersInOrder_append, ihFirst, ihSecond, Expr.inOrder_items,
        Flow.ofExpr, Flow.prefers, Flow.course_ofExpr]
  | set | look | choice | repeated | capture => exact prefersInOrder_singleton sample goal _

theorem inOrder_flatMap_items (parts : List Expr) :
    Course.inOrder ((parts.flatMap Expr.items).map (Expr.course sample)) =
      .inOrder (parts.map (Expr.course sample)) := by
  rw [← Expr.course_ofItems, ← Expr.course_concat]
  rfl

/-- A concatenation prefers its parts in order. -/
theorem prefers_concat (parts : List Expr) :
    (Flow.ofExpr (Expr.concat parts)).prefers sample goal =
      prefersInOrder sample parts goal := by
  rw [Expr.concat, prefers_ofItems]
  induction parts with
  | nil => rfl
  | cons part parts ih =>
      rw [List.flatMap_cons, prefersInOrder_append, ih, inOrder_flatMap_items,
        prefersInOrder_items, prefersInOrder]

/-- Joining parts does not change what they prefer. -/
theorem prefers_joined (parts : List Expr) :
    (Flow.ofExpr (Expr.joined parts)).prefers sample goal =
      prefersInOrder sample parts goal := by
  unfold Expr.joined
  split
  case h_1 => rfl
  case h_2 part => exact (prefersInOrder_singleton sample goal part).symm
  case h_3 => exact prefers_concat sample goal parts

/-- What a row prefers is one of its courses. -/
theorem inOrder_of_prefersInOrder {exprs : List Expr} {start stop : Nat} {marks : Marks}
    (hprefers : prefersInOrder sample exprs goal start stop marks) :
    Course.inOrder (exprs.map (Expr.course sample)) start stop marks := by
  rw [← prefers_joined] at hprefers
  rw [← Expr.course_joined, ← Flow.course_ofExpr]
  exact Flow.course_of_prefers _ hprefers

end InOrder

end Pattern

end PatternWorkbench
