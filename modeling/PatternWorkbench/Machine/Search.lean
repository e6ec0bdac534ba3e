import PatternWorkbench.Machine.Program
import PatternWorkbench.Machine.Visited

/-!
# Searching a sample

A run explores the configurations of a program depth first and in order of
preference, so the first accepting one ends the preferred path. A configuration
explored in vain is never explored again, not even from a later start, because
what can follow it does not depend on how it was reached.
-/

namespace PatternWorkbench.Machine

structure Thread where
  address : Nat
  position : Nat
  /-- The slots saved on the way with their positions, the last one first. -/
  marks : List (Nat × Nat)

def before? (sample : Array Char) (position : Nat) : Option Char :=
  if position = 0 then none else sample[position - 1]?

/-- The threads an instruction continues with, in order of preference. -/
def Instr.follow (sample : Array Char) (thread : Thread) : Instr → List Thread
  | jump next => [{ thread with address := next }]
  | take set next =>
    match sample[thread.position]? with
    | some c =>
      if set.mem c then
        [{ thread with address := next, position := thread.position + 1 }]
      else []
    | none => []
  | check look next =>
    if look.holds (before? sample thread.position) sample[thread.position]? then
      [{ thread with address := next }]
    else []
  | split preferred other =>
    [{ thread with address := preferred }, { thread with address := other }]
  | save slot next =>
    [{ thread with
      address := next
      marks := (slot, thread.position) :: thread.marks }]
  | accept => []

/-- Explores the threads of a stack from its top. -/
def explore (program : Program) (sample : Array Char) (visited : Visited) :
    List Thread → Option Thread × Visited
  | [] => (none, visited)
  | thread :: stack =>
    if hopen : thread.address < program.code.size ∧
        thread.position < visited.rows.size ∧
        visited.has thread.address thread.position = false then
      let marked := visited.mark thread.address thread.position
      let instr := program.code[thread.address]
      if instr.accepts then (some thread, marked)
      else explore program sample marked (instr.follow sample thread ++ stack)
    else explore program sample visited stack
termination_by stack => (visited.remaining program.code.size, stack.length)
decreasing_by
  · exact Prod.Lex.left _ _
      (Visited.remaining_mark_lt hopen.1 hopen.2.1 hopen.2.2)
  · exact Prod.Lex.right _ (by simp)

/-- No thread goes back in the sample. -/
theorem Instr.position_le_of_mem_follow {sample : Array Char}
    {thread next : Thread} {instr : Instr}
    (hnext : next ∈ instr.follow sample thread) :
    thread.position ≤ next.position := by
  cases instr <;> simp only [follow] at hnext
  case jump => simp_all
  case take =>
    split at hnext
    · split at hnext <;> simp_all
    · simp at hnext
  case check => split at hnext <;> simp_all
  case split => rcases List.mem_cons.1 hnext with rfl | hnext <;> simp_all
  case save => simp_all
  case accept => simp at hnext

/-- No thread goes back in the sample. -/
theorem position_le_of_explore {program : Program} {sample : Array Char}
    {visited : Visited} {stack : List Thread} {thread : Thread} {least : Nat}
    (hstack : ∀ started ∈ stack, least ≤ started.position)
    (hfound : (explore program sample visited stack).1 = some thread) :
    least ≤ thread.position := by
  fun_induction explore program sample visited stack with
  | case1 => simp at hfound
  | case2 visited first stack hopen marked instr haccepts =>
      simp only [Option.some.injEq] at hfound
      exact hfound ▸ hstack first (by simp)
  | case3 visited first stack hopen marked instr hgoes ih =>
      refine ih (fun started hstarted => ?_) hfound
      rcases List.mem_append.1 hstarted with hfollow | hwaiting
      · exact Nat.le_trans (hstack first (by simp))
          (Instr.position_le_of_mem_follow hfollow)
      · exact hstack started (by simp [hwaiting])
  | case4 visited first stack hclosed ih =>
      exact ih (fun started hstarted => hstack started (by simp [hstarted])) hfound

/-- A match: where it starts and stops, and the slots saved on its path. -/
structure Found where
  start : Nat
  stop : Nat
  marks : List (Nat × Nat)

/-- The positions between which a group matched last. -/
def Found.group? (found : Found) (index : Nat) : Option (Nat × Nat) := do
  let start ← found.marks.lookup (2 * index)
  let stop ← found.marks.lookup (2 * index + 1)
  return (start, stop)

/-- Tries the starts from `start` on, one after the other. -/
def searchFrom (program : Program) (sample : Array Char) (visited : Visited)
    (start : Nat) : Option Found :=
  match explore program sample visited [⟨0, start, []⟩] with
  | (some thread, _) => some ⟨start, thread.position, thread.marks⟩
  | (none, visited) =>
    if start < sample.size then
      searchFrom program sample visited (start + 1)
    else none
termination_by sample.size - start

/-- The leftmost match that starts at `start` or later, and among those that
start there the preferred one. Conditions see the whole sample. -/
def Program.search? (program : Program) (sample : Array Char) (start : Nat) :
    Option Found :=
  if start ≤ sample.size then
    searchFrom program sample (.none (sample.size + 1)) start
  else none

/-- A match begins no earlier than the search, and ends no earlier than it begins. -/
theorem bounds_of_searchFrom {program : Program} {sample : Array Char}
    {visited : Visited} {start : Nat} {found : Found}
    (hsearch : searchFrom program sample visited start = some found) :
    start ≤ found.start ∧ found.start ≤ found.stop := by
  fun_induction searchFrom program sample visited start with
  | case1 visited start thread marked hexplored =>
      simp only [Option.some.injEq] at hsearch
      subst hsearch
      have hthread := congrArg Prod.fst hexplored
      exact ⟨Nat.le_refl _, position_le_of_explore (by simp) hthread⟩
  | case2 visited start marked hexplored hbelow ih =>
      have hlater := ih hsearch
      omega
  | case3 => simp at hsearch

/-- A match does not start before the search nor stop before its start. -/
theorem Program.bounds_of_search? {program : Program} {sample : Array Char}
    {start : Nat} {found : Found}
    (hsearch : program.search? sample start = some found) :
    start ≤ found.start ∧ found.start ≤ found.stop := by
  unfold search? at hsearch
  split at hsearch
  · exact bounds_of_searchFrom hsearch
  · simp at hsearch

end PatternWorkbench.Machine
