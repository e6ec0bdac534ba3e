import PatternWorkbench.Machine.Footprint
import PatternWorkbench.Matching.Budget
import PatternWorkbench.Matching.Fault
import PatternWorkbench.Matching.Flags
import PatternWorkbench.Matching.Record

/-!
# Scanning a sample

A global scan goes on at the end of each match, one character further after an
empty one; without the global flag it ends with the first match. A scan that
reaches a limit fails as a whole and keeps none of its records.

There is no clock here. A time limit of zero is passed by the first look at it, and
no other limit ever is.
-/

namespace PatternWorkbench.Matching

open Machine (Found Program)
open Pattern (Expr)

/-- The program of a pattern under the given flags. Its size is looked at only
once the pattern has a meaning. -/
def compile (pattern : Text) (flags : Flags) (sizeLimit : Nat) :
    Except Fault Program :=
  match Expr.read flags.modes pattern with
  | .error diagnostic => .error (.badPattern pattern diagnostic)
  | .ok expr =>
    if Machine.exceeds sizeLimit expr then
      .error (.overBudget (.size sizeLimit))
    else .ok (.ofExpr expr)

/-- Where a scan goes on after a match. -/
def resumeAt (found : Found) : Nat :=
  if found.start = found.stop then found.stop + 1 else found.stop

/-- A scan moves on with every match, even with an empty one. -/
theorem lt_resumeAt {program : Program} {chars : Array Char} {start : Nat}
    {found : Found} (hsearch : program.search? chars start = some found) :
    start < resumeAt found := by
  have hbounds := Program.bounds_of_search? hsearch
  unfold resumeAt
  split <;> omega

theorem le_size_of_search? {program : Program} {chars : Array Char}
    {start : Nat} {found : Found}
    (hsearch : program.search? chars start = some found) :
    start ≤ chars.size := by
  unfold Program.search? at hsearch
  split at hsearch
  · assumption
  · simp at hsearch

/-- Every match of a global scan from a position on, whatever the limits. -/
def allFrom (program : Program) (chars : Array Char) (start : Nat) :
    List Found :=
  match _ : program.search? chars start with
  | none => []
  | some found => found :: allFrom program chars (resumeAt found)
termination_by chars.size + 1 - start
decreasing_by
  have hlt := lt_resumeAt ‹program.search? chars start = _›
  have hle := le_size_of_search? ‹program.search? chars start = _›
  omega

/-- The matches of a scan from a position on, `count` of them being known
already. No time at all is allowed under a time limit of zero, and any other
limit is taken to be long enough. -/
def scanFrom (budget : Budget) (global : Bool) (program : Program)
    (chars : Array Char) (start count : Nat) : Except Limit (List Found) :=
  match _ : program.search? chars start with
  | none => .ok []
  | some found =>
    if count = budget.maxMatches then .error (.matchCount budget.maxMatches)
    else if !global then .ok [found]
    else if budget.timeLimitMs = 0 then .error (.time budget.timeLimitMs)
    else
      (scanFrom budget global program chars (resumeAt found) (count + 1)).map
        (found :: ·)
termination_by chars.size + 1 - start
decreasing_by
  have hlt := lt_resumeAt ‹program.search? chars start = _›
  have hle := le_size_of_search? ‹program.search? chars start = _›
  omega

def scan (budget : Budget) (global : Bool) (program : Program) (sample : Text) :
    Except Fault (List Record) :=
  match scanFrom budget global program sample.toArray 0 0 with
  | .error limit => .error (.overBudget limit)
  | .ok found => .ok (found.map (.ofFound program.groups sample))

/-- Runs a pattern against a sample. The empty pattern is not searched for. -/
def execute (pattern : Text) (flags : Flags) (sample : Text) (budget : Budget) :
    Except Fault (List Record) :=
  if pattern.isEmpty then .ok []
  else do
    let program ← compile pattern flags budget.sizeLimit
    scan budget flags.global program sample

end PatternWorkbench.Matching
