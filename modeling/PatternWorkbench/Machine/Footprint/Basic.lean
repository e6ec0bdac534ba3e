/-!
# The memory of an automaton over bytes

The memory of an automaton is counted while its states are laid out.
-/

namespace PatternWorkbench.Machine

inductive Direction where
  | forward
  | backward
  deriving DecidableEq, Repr

/-- What has been laid out of an automaton: states, the byte ranges listed by
those that list several, and the states listed by those that only branch. -/
structure Footprint where
  states : Nat := 0
  ranges : Nat := 0
  branches : Nat := 0
  deriving DecidableEq, Repr

namespace Footprint

def bytes (print : Footprint) : Nat :=
  32 * print.states + 8 * print.ranges + 4 * print.branches

def addStates (count : Nat) (print : Footprint) : Footprint :=
  { print with states := print.states + count }

/-- A state with a list of byte ranges. -/
def addClass (ranges : Nat) (print : Footprint) : Footprint :=
  { print with states := print.states + 1, ranges := print.ranges + ranges }

/-- A state that only branches. -/
def addFork (branches : Nat) (print : Footprint) : Footprint :=
  { print with states := print.states + 1, branches := print.branches + branches }

def addBranches (branches : Nat) (print : Footprint) : Footprint :=
  { print with branches := print.branches + branches }

@[simp]
theorem bytes_addStates (count : Nat) (print : Footprint) :
    (print.addStates count).bytes = print.bytes + 32 * count := by
  simp only [bytes, addStates]
  omega

@[simp]
theorem bytes_addClass (ranges : Nat) (print : Footprint) :
    (print.addClass ranges).bytes = print.bytes + 32 + 8 * ranges := by
  simp only [bytes, addClass]
  omega

@[simp]
theorem bytes_addFork (branches : Nat) (print : Footprint) :
    (print.addFork branches).bytes = print.bytes + 32 + 4 * branches := by
  simp only [bytes, addFork]
  omega

@[simp]
theorem bytes_addBranches (branches : Nat) (print : Footprint) :
    (print.addBranches branches).bytes = print.bytes + 4 * branches := by
  simp only [bytes, addBranches]
  omega

/-- A step taken a number of times, or until the limit is passed. -/
def times (limit : Nat) (step : Footprint → Footprint) :
    Nat → Footprint → Footprint
  | 0, print => print
  | count + 1, print =>
    if limit < print.bytes then print else times limit step count (step print)

end Footprint

end PatternWorkbench.Machine
