import PatternWorkbench.Pattern.Reading.Class
import PatternWorkbench.Pattern.Reading.Group
import PatternWorkbench.Pattern.Reading.Repetition

/-!
# Reading a whole pattern

A pattern is read part by part from left to right. The groups still open are
kept in a list, the innermost first, each with the sequence it interrupts.
-/

namespace PatternWorkbench.Pattern

namespace Reading

/-- Branches finished before this one, and the parts of this one, both with the
last first. -/
structure Sequence where
  branchesStart : Nat
  branches : List Tree
  start : Nat
  items : List Tree

def Sequence.empty (pos : Nat) : Sequence :=
  ⟨pos, [], pos, []⟩

def Sequence.push (sequence : Sequence) (tree : Tree) : Sequence :=
  { sequence with items := tree :: sequence.items }

def Sequence.branch (sequence : Sequence) (stop : Nat) : Tree :=
  .ofItems ⟨sequence.start, stop⟩ sequence.items.reverse

/-- The sequence after a bar at `pos`. -/
def Sequence.bar (sequence : Sequence) (pos : Nat) : Sequence where
  branchesStart := sequence.branchesStart
  branches := sequence.branch pos :: sequence.branches
  start := pos + 1
  items := []

def Sequence.tree (sequence : Sequence) (stop : Nat) : Tree :=
  match sequence.branches with
  | [] => sequence.branch stop
  | branches =>
    .alternation ⟨sequence.branchesStart, stop⟩
      (branches.reverse ++ [sequence.branch stop])

structure OpenGroup where
  pos : Nat
  kind : GroupKind
  outerVerbose : Bool
  outer : Sequence

structure State where
  sequence : Sequence
  groups : List OpenGroup
  verbose : Bool
  captures : Nat
  names : List (Text × Span)

def State.initial : State :=
  ⟨.empty 0, [], false, 0, []⟩

def State.push (state : State) (tree : Tree) : State :=
  { state with sequence := state.sequence.push tree }

/-- Opens a group behind whose opening the reading goes on at `stop`. -/
def State.openGroup (state : State) (pos stop : Nat) (kind : GroupKind)
    (verbose : Bool) : State :=
  { state with
    sequence := .empty stop
    groups := ⟨pos, kind, state.verbose, state.sequence⟩ :: state.groups
    verbose := verbose }

def State.begin (state : State) (pos : Nat) (rest : Text) :
    Except Diagnostic (State × Nat) := do
  let (opening, stop) ← GroupReading.opening state.verbose pos rest
  match opening with
  | .setFlags span items =>
    let verbose := (items.setting? .ignoreWhitespace).getD state.verbose
    return ({ state.push (.flags span items) with verbose }, stop)
  | .plain items =>
    let verbose := (items.setting? .ignoreWhitespace).getD state.verbose
    return (state.openGroup pos stop (.plain items) verbose, stop)
  | .numbered =>
    let index := state.captures + 1
    let opened :=
      state.openGroup pos stop (.capture index none) state.verbose
    return ({ opened with captures := index }, stop)
  | .named name span =>
    let index := state.captures + 1
    match state.names.find? (·.1 == name) with
    | some (_, earlier) =>
      .error { cause := .groupNameDuplicate, span, earlier := some earlier }
    | none =>
      let opened :=
        state.openGroup pos stop (.capture index (some name)) state.verbose
      return ({ opened with
        captures := index
        names := state.names ++ [(name, span)] }, stop)

/-- Closes the innermost group at the parenthesis at `pos`. -/
def State.close (state : State) (pos : Nat) : Except Diagnostic State :=
  match state.groups with
  | [] => fail .groupUnopened pos (pos + 1)
  | group :: outer =>
    let tree :=
      Tree.group ⟨group.pos, pos + 1⟩ group.kind (state.sequence.tree pos)
    .ok { state with
      sequence := group.outer.push tree
      groups := outer
      verbose := group.outerVerbose }

/-- The part that a repetition operator applies to, and the rest of the
sequence. -/
def Sequence.repeatable? (sequence : Sequence) : Option (Tree × Sequence) :=
  match sequence.items with
  | [] | .nothing _ :: _ | .flags .. :: _ => none
  | body :: items => some (body, { sequence with items })

def State.repeat (state : State) (body : Tree) (sequence : Sequence)
    (operator : RepetitionReading.Operator) : State × Nat :=
  let span : Span := ⟨body.span.start, operator.stop⟩
  let tree := Tree.repetition span operator.counts operator.greedy body
  ({ state with sequence := sequence.push tree }, operator.stop)

/-- The operator at `pos`, where the character `c` can begin one. -/
def operator? (verbose : Bool) (pos : Nat) (c : Char) (rest : Text) :
    Option (Except Diagnostic RepetitionReading.Operator) :=
  if c = '{' then some (RepetitionReading.counted verbose pos rest)
  else
    (RepetitionReading.marked? c).map fun counts =>
      .ok (RepetitionReading.ofMark counts pos rest)

/-- A part that stands for itself: a class, an escape, a dot, an anchor or a
plain character. -/
def atom (verbose : Bool) (pos : Nat) (c : Char) (rest : Text) :
    Except Diagnostic (Tree × Nat) :=
  let span : Span := ⟨pos, pos + 1⟩
  if c = '[' then ClassReading.read verbose pos rest
  else if c = '\\' then Escape.read verbose pos rest
  else if c = '.' then .ok (.dot span, pos + 1)
  else if c = '^' then .ok (.assertion span .lineStart, pos + 1)
  else if c = '$' then .ok (.assertion span .lineEnd, pos + 1)
  else .ok (Escape.literal pos (pos + 1) c false, pos + 1)

/-- Reads the part that begins with `c` at `pos`, and answers with the position
behind it. -/
def State.step (state : State) (pos : Nat) (c : Char) (rest : Text) :
    Except Diagnostic (State × Nat) := do
  if c = '(' then state.begin pos rest
  else if c = ')' then return (← state.close pos, pos + 1)
  else if c = '|' then
    return ({ state with sequence := state.sequence.bar pos }, pos + 1)
  else
    match operator? state.verbose pos c rest with
    | some operator =>
      match state.sequence.repeatable? with
      | none => fail .repetitionMissing pos pos
      | some (body, sequence) => return state.repeat body sequence (← operator)
    | none =>
      let (tree, stop) ← atom state.verbose pos c rest
      return (state.push tree, stop)

def State.finish (state : State) (pos : Nat) : Except Diagnostic Tree :=
  match state.groups with
  | [] => .ok (state.sequence.tree pos)
  | group :: _ => fail .groupUnclosed group.pos (group.pos + 1)

/-- Reads on from `pos` to the end of the pattern. -/
def State.read (state : State) (pos : Nat) (rest : Text) :
    Except Diagnostic Tree :=
  match _ : Cursor.skip state.verbose ⟨pos, rest⟩ with
  | ⟨pos, []⟩ => state.finish pos
  | ⟨pos, c :: cs⟩ =>
    match state.step pos c cs with
    | .error diagnostic => .error diagnostic
    | .ok (next, stop) => next.read stop (cs.drop (stop - (pos + 1)))
termination_by rest.length
decreasing_by
  have hlt := Cursor.length_lt_of_skip ‹Cursor.skip state.verbose _ = _›
  simp only [List.length_drop] at *
  omega

end Reading

/-- The tree of a pattern. Every fault of spelling goes before one of nesting. -/
def Tree.read (pattern : Text) : Except Diagnostic Tree := do
  let tree ← Reading.State.initial.read 0 pattern
  match Nesting.firstTooDeep 0 tree with
  | some span => .error { cause := .nestLimitExceeded Nesting.limit, span }
  | none => return tree

end PatternWorkbench.Pattern
