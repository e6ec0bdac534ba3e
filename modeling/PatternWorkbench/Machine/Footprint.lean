import PatternWorkbench.Machine.Footprint.Class
import PatternWorkbench.Machine.Footprint.Word
import PatternWorkbench.Machine.Needle.Choice
import PatternWorkbench.Pattern.Outline

/-!
# The memory of a compiled pattern

A pattern is compiled to two automata over bytes, one that reads a match forward
and one that reads it backward from its end. Counting them ends as soon as the
limit is passed. A pattern that is searched for by words alone takes nothing.
-/

namespace PatternWorkbench.Machine

open Pattern (Expr)

namespace Footprint

/-- A repeated part, given how one copy is laid out. -/
def addRepeated (limit least : Nat) (most : Option Nat) (neverEmpty : Bool)
    (body : Footprint → Footprint) (print : Footprint) : Footprint :=
  match least, most with
  | 0, some 1 => (body (print.addFork 2)).addStates 1
  | 0, none =>
    if neverEmpty then body (print.addFork 2)
    else (((body print).addFork 2).addFork 2).addStates 1
  | least, none => (times limit body least print).addFork 2
  | least, some most =>
    let copies :=
      if least = 0 then print.addStates 1 else times limit body least print
    if most ≤ least then copies
    else
      times limit (fun print => body (print.addFork 2)) (most - least)
        (copies.addStates 1)

/-- What the end of an alternative takes: the choice is laid out after the second
one. -/
def closeBranch (earlier : Nat) (print : Footprint) : Footprint :=
  match earlier with
  | 0 => print
  | 1 => (print.addFork 2).addStates 1
  | _ => print.addBranches 1

/-- The states of an expression that is an alternative after `earlier` others. -/
def addExpr (limit : Nat) (direction : Direction) (earlier : Nat) :
    Expr → Footprint → Footprint
  | .choice first second, print =>
    match earlier, words? (.choice first second) with
    | 0, some words => print.addTrie direction words
    | _, _ =>
      addExpr limit direction (earlier + 1) second
        (closeBranch earlier (addExpr limit direction 0 first print))
  | .seq first second, print =>
    closeBranch earlier <|
      match direction with
      | .forward =>
        addExpr limit direction 0 second (addExpr limit direction 0 first print)
      | .backward =>
        addExpr limit direction 0 first (addExpr limit direction 0 second print)
  | .empty, print | .look _, print => closeBranch earlier (print.addStates 1)
  | .set set, print => closeBranch earlier (print.addSet direction set)
  | .repeated least most _ body, print =>
    closeBranch earlier
      (print.addRepeated limit least most body.isNeverEmpty
        (addExpr limit direction 0 body))
  | .capture _ _ body, print =>
    closeBranch earlier <|
      match direction with
      | .forward => (addExpr limit direction 0 body (print.addStates 1)).addStates 1
      | .backward => addExpr limit direction 0 body print

/-- The states that skip the text before a match. -/
def skipping (anchored : Bool) : Footprint :=
  if anchored then ⟨1, 0, 0⟩ else ⟨3, 1, 2⟩

/-- The automaton of an expression. Only the one that reads forward marks where
the match begins and ends. -/
def ofExpr (limit : Nat) (direction : Direction) (expr : Expr) : Footprint :=
  match direction with
  | .forward =>
    (addExpr limit .forward 0 expr
      ((skipping (expr.opensAt .textStart)).addStates 1)).addStates 2
  | .backward =>
    (addExpr limit .backward 0 expr
      (skipping (expr.closesAt .textEnd))).addStates 1

end Footprint

/-- The number of words from which on they are looked for whatever they are. -/
def manyWords : Nat := 3000

/-- Whether an expression is searched for by words alone, without automata. -/
def isListed (expr : Expr) : Bool :=
  expr.captures.isEmpty && !expr.hasLook &&
    ((Needles.ofExpr expr).suffice ||
      (Footprint.words? expr).any (manyWords ≤ ·.length))

/-- Whether one of the automata of an expression takes more bytes than allowed. -/
def exceeds (limit : Nat) (expr : Expr) : Bool :=
  !isListed expr &&
    (limit < (Footprint.ofExpr limit .forward expr).bytes ||
      limit < (Footprint.ofExpr limit .backward expr).bytes)

end PatternWorkbench.Machine
