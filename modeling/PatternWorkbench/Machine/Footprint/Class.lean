import PatternWorkbench.Machine.Footprint.Basic
import PatternWorkbench.Machine.Sharing
import PatternWorkbench.Unicode.Encoding

/-!
# The states of classes

A class of ASCII characters is a state that lists their bytes. A class beyond
ASCII is laid out by the encodings of its members, among which equal states are
shared as far as they are remembered.
-/

namespace PatternWorkbench.Machine

open Unicode (ByteRange CharSet)

namespace Footprint

/-- A footprint together with the states that can be shared; a state is known by
how many were laid out before it. -/
structure Shared where
  print : Footprint
  sharing : Sharing

namespace Shared

/-- The state for a list of byte ranges with the states that they lead to. -/
def intern (edges : List (ByteRange × Nat)) (shared : Shared) : Nat × Shared :=
  let key := edges.flatMap fun ((low, high), next) =>
    [low.toNat, high.toNat, next]
  match shared.sharing.find? key with
  | some state => (state, shared)
  | none =>
    let state := shared.print.states
    (state, ⟨shared.print.addClass edges.length, shared.sharing.record key state⟩)

/-- The state that reads one of several sequences, none of them longer than
`depth`, and goes on at `exit`. Sequences that begin alike share a way. -/
def read (exit : Nat) : Nat → List (List ByteRange) → Shared → Nat × Shared
  | 0, _, shared => (exit, shared)
  | depth + 1, sequences, shared =>
    let groups := sequences.splitBy fun left right => left.head? == right.head?
    let (edges, shared) := groups.foldl
      (fun (edges, shared) group =>
        match group with
        | (range :: rest) :: others =>
          let tails := rest :: others.map List.tail
          let (next, shared) :=
            if tails.all List.isEmpty then (exit, shared)
            else read exit depth tails shared
          ((range, next) :: edges, shared)
        | _ => (edges, shared))
      ([], shared)
    intern edges.reverse shared

/-- The state that reads one byte range before the state given. -/
def readBefore (shared : Shared) (next : Nat) (range : ByteRange) : Nat × Shared :=
  let key := [next, range.1.toNat, range.2.toNat]
  match shared.sharing.find? key with
  | some state => (state, shared)
  | none =>
    let state := shared.print.states
    (state, ⟨shared.print.addStates 1, shared.sharing.record key state⟩)

end Shared

def forwardPlaces : Nat := 10000

def backwardPlaces : Nat := 1000

/-- A class read forward, all of its encodings at once. -/
def addForward (set : CharSet) (print : Footprint) : Footprint :=
  (Shared.read print.states 4 set.encodings
    ⟨print.addStates 1, .empty forwardPlaces⟩).2.print

/-- A class read backward: a branch for each encoding, which is read from its
last byte on. -/
def addBackward (set : CharSet) (print : Footprint) : Footprint :=
  let exit := print.states + 1
  let sequences := set.encodings
  let shared := sequences.foldl
    (fun shared sequence =>
      (sequence.foldl
        (fun (next, shared) range => shared.readBefore next range)
        (exit, shared)).2)
    (Shared.mk (print.addStates 2) (.empty backwardPlaces))
  shared.print.addBranches sequences.length

def addSet (direction : Direction) (set : CharSet) (print : Footprint) :
    Footprint :=
  match set.single? with
  | some c => print.addStates c.utf8Size
  | none =>
    if set.isAscii then (print.addStates 1).addClass set.ranges.length
    else
      match direction with
      | .forward => print.addForward set
      | .backward => print.addBackward set

end Footprint

end PatternWorkbench.Machine
