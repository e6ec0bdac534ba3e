import PatternWorkbench.Text
import PatternWorkbench.Unicode.Character

/-!
# Regular expressions

An expression is what a pattern means once flags are applied: sets of
characters, conditions on a position, and the ways to combine them. Sequences
and choices are built from lists, so that nesting that groups nothing leaves no
trace, and a choice among characters is the set of them.
-/

namespace PatternWorkbench.Pattern

open Unicode (CharSet)

/-- A condition on the characters before and after a position. -/
inductive WordEdge where
  | boundary
  | notBoundary
  | start
  | stop
  | startHalf
  | stopHalf
  deriving DecidableEq, Repr

inductive Look where
  | textStart
  | textEnd
  | lineStart
  | lineEnd
  | lineStartCrlf
  | lineEndCrlf
  | word (edge : WordEdge) (ascii : Bool)
  deriving DecidableEq, Repr

def isAsciiWord (c : Char) : Bool :=
  c.isAlphanum || c == '_'

def WordEdge.holds (edge : WordEdge) (before after : Bool) : Bool :=
  match edge with
  | boundary => before != after
  | notBoundary => before == after
  | start => !before && after
  | stop => before && !after
  | startHalf => !before
  | stopHalf => !after

/-- Whether a condition holds between two neighbours, `none` being the end of the
text on that side. -/
def Look.holds (look : Look) (before after : Option Char) : Bool :=
  match look with
  | textStart => before.isNone
  | textEnd => after.isNone
  | lineStart => before.isNone || before = some '\n'
  | lineEnd => after.isNone || after = some '\n'
  | lineStartCrlf =>
    before.isNone || before = some '\n' ||
      (before = some '\r' && after != some '\n')
  | lineEndCrlf =>
    after.isNone || after = some '\r' ||
      (after = some '\n' && before != some '\r')
  | word edge ascii =>
    let isWord := if ascii then isAsciiWord else Unicode.isWord
    edge.holds (before.any isWord) (after.any isWord)

inductive Expr where
  | empty
  | set (members : CharSet)
  | look (look : Look)
  | seq (first second : Expr)
  | choice (first second : Expr)
  | repeated (min : Nat) (max : Option Nat) (greedy : Bool) (body : Expr)
  | capture (index : Nat) (name : Option Text) (body : Expr)
  deriving DecidableEq, Repr

namespace Expr

/-- The members of a sequence in order; the empty expression has none. -/
def items : Expr → List Expr
  | empty => []
  | seq first second => first.items ++ second.items
  | other => [other]

def ofItems : List Expr → Expr
  | [] => empty
  | [item] => item
  | item :: rest => seq item (ofItems rest)

def concat (parts : List Expr) : Expr :=
  ofItems (parts.flatMap items)

/-- The alternatives of a choice in order of preference. -/
def branches : Expr → List Expr
  | choice first second => first.branches ++ second.branches
  | other => [other]

def ofBranches : List Expr → Expr
  | [] => set .empty
  | [branch] => branch
  | branch :: rest => choice branch (ofBranches rest)

/-- The character that an expression stands for, where it is only one. -/
def char? : Expr → Option Char
  | .set members => members.single?
  | _ => none

/-- Sets of no character or of several. -/
def isClass : Expr → Bool
  | .set members => members.single?.isNone
  | _ => false

/-- The set that a choice comes down to: one among single characters, or one
among classes. -/
def mergedSet? (alternatives : List Expr) : Option CharSet :=
  if alternatives.all (·.char?.isSome) || alternatives.all isClass then
    some (.ofTables (alternatives.map fun
      | .set members => members.ranges
      | _ => []))
  else none

def choose (alternatives : List Expr) : Expr :=
  match alternatives with
  | [] => set .empty
  | [alternative] => alternative
  | _ =>
    match mergedSet? alternatives with
    | some merged => set merged
    | none => ofBranches alternatives

/-- The items of a sequence with neighbouring characters taken together. -/
def words (items : List Expr) : List (List Expr) :=
  items.splitBy fun left right => left.char?.isSome && right.char?.isSome

def commonLength : List (List Expr) → List (List Expr) → Nat
  | left :: lefts, right :: rights =>
    if left = right then commonLength lefts rights + 1 else 0
  | _, _ => 0

/-- How many words all alternatives begin with in common, where each of them is
a sequence of two words or more. -/
def sharedLength (alternatives : List (List (List Expr))) : Nat :=
  match alternatives with
  | [] | [_] => 0
  | first :: rest =>
    if alternatives.all (1 < ·.length) then
      rest.foldl (fun length other => min length (commonLength first other))
        first.length
    else 0

/-- A choice among several alternatives. What they begin with in common is tried
once, before the choice. -/
def alternation (parts : List Expr) : Expr :=
  let alternatives := parts.flatMap branches
  let sequences := alternatives.map fun alternative => words alternative.items
  match sharedLength sequences with
  | 0 => choose alternatives
  | shared + 1 =>
    let beginning := (sequences.head?.getD []).take (shared + 1)
    let choices := sequences.map fun sequence =>
      ofItems (sequence.drop (shared + 1)).flatten
    concat (beginning.flatten ++ [choose (choices.flatMap branches)])

/-- Expressions that can match nothing but the empty text. -/
def matchesOnlyEmpty : Expr → Bool
  | empty | look _ => true
  | set _ => false
  | seq first second | choice first second =>
    first.matchesOnlyEmpty && second.matchesOnlyEmpty
  | repeated _ _ _ body | capture _ _ body => body.matchesOnlyEmpty

/-- Repetition of a part. What matches only the empty text is repeated at most
once, and a part that occurs exactly once stays as it is. -/
def repetition (least : Nat) (most : Option Nat) (greedy : Bool) (body : Expr) :
    Expr :=
  let least := if body.matchesOnlyEmpty then min least 1 else least
  let most :=
    if body.matchesOnlyEmpty then some ((most.map (min · 1)).getD 1) else most
  if most = some 0 then empty
  else if least = 1 ∧ most = some 1 then body
  else repeated least most greedy body

/-- The capture groups of an expression in the order in which they open. -/
def captures : Expr → List (Nat × Option Text)
  | empty | set _ | look _ => []
  | seq first second | choice first second => first.captures ++ second.captures
  | repeated _ _ _ body => body.captures
  | capture index name body => (index, name) :: body.captures

end Expr

end PatternWorkbench.Pattern
