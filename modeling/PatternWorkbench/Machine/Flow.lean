import PatternWorkbench.Pattern.Expr

/-!
# Flows

A flow is an expression whose counted repetitions are written out. What is left
to repeat is a part that occurs once or more, and what is left to choose is to
take a part or to pass it by.
-/

namespace PatternWorkbench.Machine

open Pattern (Expr Look)
open Unicode (CharSet)

inductive Flow where
  | pass
  | take (set : CharSet)
  | check (look : Look)
  | seq (first second : Flow)
  | either (first second : Flow)
  | perhaps (greedy : Bool) (body : Flow)
  | again (greedy : Bool) (body : Flow)
  | capture (index : Nat) (body : Flow)
  deriving Repr

namespace Flow

def times : Nat → Flow → Flow
  | 0, _ => pass
  | 1, body => body
  | count + 2, body => seq body (times (count + 1) body)

/-- Up to `count` times, one within the other. -/
def upTo (greedy : Bool) : Nat → Flow → Flow
  | 0, _ => pass
  | 1, body => perhaps greedy body
  | count + 2, body => perhaps greedy (seq body (upTo greedy (count + 1) body))

/-- At least `min` times. Any number of times is once or more, or not at all:
that keeps the order of preference where the body can match the empty text. -/
def unbounded (greedy : Bool) (min : Nat) (body : Flow) : Flow :=
  match min with
  | 0 => perhaps greedy (again greedy body)
  | 1 => again greedy body
  | min + 2 => seq (times (min + 1) body) (again greedy body)

def bounded (greedy : Bool) (min max : Nat) (body : Flow) : Flow :=
  if max ≤ min then times min body
  else if min = 0 then upTo greedy max body
  else seq (times min body) (upTo greedy (max - min) body)

def repeated (greedy : Bool) (min : Nat) (max : Option Nat) (body : Flow) : Flow :=
  match max with
  | none => unbounded greedy min body
  | some max => bounded greedy min max body

def ofExpr : Expr → Flow
  | .empty => pass
  | .set set => take set
  | .look look => check look
  | .seq first second => seq (ofExpr first) (ofExpr second)
  | .choice first second => either (ofExpr first) (ofExpr second)
  | .repeated min max greedy body => repeated greedy min max (ofExpr body)
  | .capture index _ body => capture index (ofExpr body)

end Flow

end PatternWorkbench.Machine
