import PatternWorkbench.Pattern.Expr

/-!
# What an expression tells of its matches

How short a match can be, what is checked at its beginning and at its end, and
whether its surroundings matter, all read off the expression.
-/

namespace PatternWorkbench.Pattern

namespace Expr

/-- The length of the shortest text that an expression matches, where each of its
classes has a member. -/
def shortest? : Expr → Option Nat
  | .empty | .look _ => some 0
  | .set members => if members.ranges.isEmpty then none else some 1
  | .seq first second => do return (← shortest? first) + (← shortest? second)
  | .choice first second => do return min (← shortest? first) (← shortest? second)
  | .repeated least _ _ body => do return least * (← shortest? body)
  | .capture _ _ body => shortest? body

def isNeverEmpty (expr : Expr) : Bool :=
  (shortest? expr).any (0 < ·)

/-- Whether an expression checks the condition at the beginning of every match. -/
def opensAt (look : Look) : Expr → Bool
  | .look own => own = look
  | .capture _ _ body => opensAt look body
  | .repeated least _ _ body => 0 < least && opensAt look body
  | .seq first second =>
    opensAt look first || (first.matchesOnlyEmpty && opensAt look second)
  | .choice first second => opensAt look first && opensAt look second
  | .empty | .set _ => false

/-- Whether an expression checks the condition at the end of every match. -/
def closesAt (look : Look) : Expr → Bool
  | .look own => own = look
  | .capture _ _ body => closesAt look body
  | .repeated least _ _ body => 0 < least && closesAt look body
  | .seq first second =>
    closesAt look second || (second.matchesOnlyEmpty && closesAt look first)
  | .choice first second => closesAt look first && closesAt look second
  | .empty | .set _ => false

/-- Whether a match depends on more than its own text. -/
def hasLook : Expr → Bool
  | .look _ => true
  | .empty | .set _ => false
  | .seq first second | .choice first second => hasLook first || hasLook second
  | .repeated _ _ _ body | .capture _ _ body => hasLook body

end Expr

end PatternWorkbench.Pattern
