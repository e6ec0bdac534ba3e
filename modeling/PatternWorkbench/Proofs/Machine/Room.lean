import Mathlib.Data.Set.Finite.Lattice
import Mathlib.Order.Bounds.Basic
import PatternWorkbench.Machine.Footprint

/-!
# Room for every expression

Counting the memory of an automaton stops where the limit is passed, so what is
counted depends on the limit.  Over all limits there are only finitely many
outcomes, and a limit above all of them has room for the expression.
-/

namespace PatternWorkbench.Machine.Footprint

open Pattern (Expr)

/-- From each footprint a step has finitely many outcomes over all limits. -/
def Finitary (step : Nat → Footprint → Footprint) : Prop :=
  ∀ print, (Set.range fun limit => step limit print).Finite

namespace Finitary

variable {first second step : Nat → Footprint → Footprint}

theorem const (step : Footprint → Footprint) : Finitary fun _ => step := by
  intro print
  refine (Set.finite_singleton (step print)).subset ?_
  rintro _ ⟨_, rfl⟩
  rfl

theorem andThen (hfirst : Finitary first) (hsecond : Finitary second) :
    Finitary fun limit print => second limit (first limit print) := by
  intro print
  refine ((hfirst print).biUnion fun middle _ => hsecond middle).subset ?_
  rintro _ ⟨limit, rfl⟩
  exact Set.mem_biUnion ⟨limit, rfl⟩ ⟨limit, rfl⟩

theorem map (hstep : Finitary step) (after : Footprint → Footprint) :
    Finitary fun limit print => after (step limit print) :=
  hstep.andThen (const after)

theorem comap (hstep : Finitary step) (before : Footprint → Footprint) :
    Finitary fun limit print => step limit (before print) :=
  (const before).andThen hstep

theorem times (hstep : Finitary step) (count : Nat) :
    Finitary fun limit => Footprint.times limit (step limit) count := by
  induction count with
  | zero => exact const id
  | succ count ih =>
      intro print
      refine ((Set.finite_singleton print).union (hstep.andThen ih print)).subset ?_
      rintro _ ⟨limit, rfl⟩
      dsimp only [Footprint.times]
      split
      case isTrue => exact Or.inl rfl
      case isFalse => exact Or.inr ⟨limit, rfl⟩

/-- A repetition has finitely many sizes if its body has. -/
theorem addRepeated (hbody : Finitary step) (least : Nat) (most : Option Nat)
    (neverEmpty : Bool) :
    Finitary fun limit =>
      Footprint.addRepeated limit least most neverEmpty (step limit) := by
  have hfork := hbody.comap (addFork 2)
  unfold Footprint.addRepeated
  split
  case h_1 => exact hfork.map (addStates 1)
  case h_2 =>
    split
    case isTrue => exact hfork
    case isFalse => exact ((hbody.map (addFork 2)).map (addFork 2)).map (addStates 1)
  case h_3 => exact (hbody.times least).map (addFork 2)
  case h_4 most _ =>
    have hcopies : Finitary fun limit print =>
        if least = 0 then print.addStates 1
        else Footprint.times limit (step limit) least print := by
      split
      case isTrue => exact const (addStates 1)
      case isFalse => exact hbody.times least
    dsimp only
    split
    case isTrue => exact hcopies
    case isFalse =>
      exact (hcopies.map (addStates 1)).andThen (hfork.times (most - least))

end Finitary

/-- Whatever the limit is, the size of an expression is one of finitely many. -/
theorem finitary_addExpr (direction : Direction) (earlier : Nat) (expr : Expr) :
    Finitary fun limit => addExpr limit direction earlier expr := by
  induction expr generalizing earlier with
  | empty => exact (Finitary.const (addStates 1)).map (closeBranch earlier)
  | look => exact (Finitary.const (addStates 1)).map (closeBranch earlier)
  | set members =>
      exact (Finitary.const (addSet direction members)).map (closeBranch earlier)
  | seq first second ihFirst ihSecond =>
      cases direction with
      | forward => exact ((ihFirst 0).andThen (ihSecond 0)).map (closeBranch earlier)
      | backward => exact ((ihSecond 0).andThen (ihFirst 0)).map (closeBranch earlier)
  | choice first second ihFirst ihSecond =>
      have hboth := ((ihFirst 0).map (closeBranch earlier)).andThen
        (ihSecond (earlier + 1))
      intro print
      simp only [addExpr]
      split
      case h_1 words _ => exact Finitary.const (addTrie direction words) print
      case h_2 => exact hboth print
  | repeated least most greedy body ih =>
      exact ((ih 0).addRepeated least most body.isNeverEmpty).map (closeBranch earlier)
  | capture index name body ih =>
      cases direction with
      | forward =>
          exact (((ih 0).comap (addStates 1)).map (addStates 1)).map
            (closeBranch earlier)
      | backward => exact (ih 0).map (closeBranch earlier)

theorem finite_ofExpr (direction : Direction) (expr : Expr) :
    (Set.range fun limit => ofExpr limit direction expr).Finite := by
  cases direction with
  | forward =>
      exact ((finitary_addExpr .forward 0 expr).map (addStates 2))
        ((skipping (expr.opensAt .textStart)).addStates 1)
  | backward =>
      exact ((finitary_addExpr .backward 0 expr).map (addStates 1))
        (skipping (expr.closesAt .textEnd))

/-- Some limit has room for both automata of an expression. -/
theorem exists_limit (expr : Expr) :
    ∃ limit, ∀ direction, (ofExpr limit direction expr).bytes ≤ limit := by
  have hbounded (direction : Direction) :
      ∃ bound, ∀ limit, (ofExpr limit direction expr).bytes ≤ bound := by
    obtain ⟨bound, hbound⟩ := ((finite_ofExpr direction expr).image bytes).bddAbove
    exact ⟨bound, fun limit => hbound ⟨_, ⟨limit, rfl⟩, rfl⟩⟩
  obtain ⟨forward, hforward⟩ := hbounded .forward
  obtain ⟨backward, hbackward⟩ := hbounded .backward
  refine ⟨max forward backward, fun direction => ?_⟩
  cases direction with
  | forward => exact (hforward _).trans (Nat.le_max_left _ _)
  | backward => exact (hbackward _).trans (Nat.le_max_right _ _)

end PatternWorkbench.Machine.Footprint
