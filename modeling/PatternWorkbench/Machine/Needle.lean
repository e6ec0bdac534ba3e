import PatternWorkbench.Pattern.Expr

/-!
# Words to look for

A match of an expression begins with one of a few words, where these can be
listed. A listed word is complete if it is all of the match. The lists stay
short: a class or a repetition that would make one long ends the words before it,
and a list for which no room is left is given up.
-/

namespace PatternWorkbench.Machine

open Pattern (Expr)
open Unicode (CharSet)

structure Needle where
  bytes : List UInt8
  /-- Whether the word is a whole match, not only the beginning of one. -/
  complete : Bool
  deriving DecidableEq, Repr

/-- The words that a match can begin with, preferred ones first; `none` where
they are not listed. -/
abbrev Needles := Option (List Needle)

namespace Needle

def empty : Needle := ⟨[], true⟩

def ofChar (c : Char) : Needle :=
  ⟨String.utf8EncodeChar c, true⟩

def cut (length : Nat) (needle : Needle) : Needle :=
  if needle.bytes.length ≤ length then needle
  else ⟨needle.bytes.take length, false⟩

def begun (needle : Needle) : Needle :=
  { needle with complete := false }

def append (needle rest : Needle) : Needle :=
  ⟨needle.bytes ++ rest.bytes, rest.complete⟩

end Needle

namespace Needles

/-- The most members of a class that are listed. -/
def classLimit : Nat := 10

/-- The most copies of a repeated part that are listed. -/
def copyLimit : Nat := 10

/-- The longest word. -/
def lengthLimit : Nat := 100

/-- The longest list. -/
def countLimit : Nat := 250

def blank : Needles := some [.empty]

def isOver : Needles → Bool
  | none => true
  | some needles => needles.all (!·.complete)

def begun (needles : Needles) : Needles :=
  needles.map (·.map .begun)

def cut (length : Nat) (needles : Needles) : Needles :=
  needles.map (·.map (.cut length))

/-- Equal neighbours are listed once, as complete if both are. -/
def merged (needles : List Needle) : List Needle :=
  needles.foldr
    (fun needle rest =>
      match rest with
      | next :: others =>
        if needle.bytes = next.bytes then
          ⟨needle.bytes, needle.complete && next.complete⟩ :: others
        else needle :: rest
      | [] => [needle])
    []

/-- The words of a sequence of two parts. -/
def product (first second : Needles) : Needles :=
  match first, second with
  | none, _ => none
  | some words, none =>
    if words.any (·.bytes.isEmpty) then none else some (words.map .begun)
  | some words, some others =>
    some (merged (words.flatMap fun word =>
      if word.complete then others.map word.append else [word]))

/-- Words that are not complete are not carried on. -/
def followedBy (first second : Needles) : Needles :=
  if first.isOver then first
  else
    let fits := (first.getD []).length * (second.getD []).length ≤ countLimit
    (first.product (if fits then second else none)).cut lengthLimit

/-- The longest words of a list that became too long for longer ones. -/
def shortLength : Nat := 4

/-- The words of a choice between two parts. -/
def orElse (first second : Needles) : Needles :=
  match first, second with
  | some words, some others =>
    if words.length + others.length ≤ countLimit then
      some (merged (words ++ others))
    else
      let shorten := fun needles => merged (needles.map (.cut shortLength))
      if (shorten words).length + (shorten others).length ≤ countLimit then
        some (merged (shorten words ++ shorten others))
      else none
  | _, _ => none

def ofSet (set : CharSet) : Needles :=
  if classLimit < set.size then none else some (set.toList.map .ofChar)

/-- The words of a number of copies of a part. -/
def times (count : Nat) (body : Needles) : Needles :=
  (List.replicate (min count copyLimit) body).foldl followedBy blank

def repeated (least : Nat) (most : Option Nat) (greedy : Bool) (body : Needles) :
    Needles :=
  match least with
  | 0 =>
    let taken := if most = some 1 then body else body.begun
    if greedy then taken.orElse blank else blank.orElse taken
  | _ =>
    match most with
    | none => body.begun
    | some most =>
      let copies := body.times least
      if least = most ∧ least ≤ copyLimit then copies else copies.begun

/-- Where a part of an expression stands: after what precedes it in a sequence,
or beside the alternatives preferred to it. -/
inductive Place where
  | after (preceding : Needles)
  | beside (preferred : Needles)

def Place.add : Place → Needles → Needles
  | after preceding, needles => preceding.followedBy needles
  | beside preferred, needles => preferred.orElse needles

/-- The words of an expression added at its place. -/
def collect (place : Place) : Expr → Needles
  | .empty | .look _ => place.add blank
  | .set set => place.add (ofSet set)
  | .seq first second =>
    match place with
    | .after preceding =>
      collect (.after (collect (.after preceding) first)) second
    | .beside preferred =>
      preferred.orElse (collect (.after (collect (.after blank) first)) second)
  | .choice first second =>
    match place with
    | .after preceding =>
      preceding.followedBy
        (collect (.beside (collect (.beside (some [])) first)) second)
    | .beside preferred =>
      collect (.beside (collect (.beside preferred) first)) second
  | .repeated least most greedy body =>
    place.add (repeated least most greedy (collect (.after blank) body))
  | .capture _ _ body => place.add (collect (.after blank) body)

def ofExpr (expr : Expr) : Needles :=
  collect (.after blank) expr

end Needles

end PatternWorkbench.Machine
