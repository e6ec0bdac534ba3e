import PatternWorkbench.Machine.Footprint.Basic
import PatternWorkbench.Pattern.Expr

/-!
# The states of words

A choice that has only words to choose from is laid out as a tree of their bytes.
-/

namespace PatternWorkbench.Machine

open Pattern (Expr)

namespace Footprint

/-- The states of words that are read byte by byte, what they begin with in
common being read once. Words before an empty one are kept apart from those
after it, as they are preferred to it. -/
def addWords : Nat → List (List UInt8) → Footprint → Footprint
  | 0, _, print => print
  | depth + 1, words, print =>
    let chunks := match words.dropWhile List.isEmpty with
      | [] => []
      | later =>
        let chunks := later.splitOnP List.isEmpty
        if later.length < words.length then [] :: chunks else chunks
    let print := chunks.foldl
      (fun print chunk =>
        let firsts := (chunk.filterMap List.head?).eraseDups
        let print := firsts.foldl
          (fun print first =>
            let tails := (chunk.filter (·.head? == some first)).map List.tail
            if tails.all List.isEmpty then print else addWords depth tails print)
          print
        match firsts.length with
        | 0 => print
        | 1 => print.addStates 1
        | count => print.addClass count)
      print
    print.addFork ((chunks.filter (!·.isEmpty)).length + (chunks.length - 1))

/-- The word that an expression stands for, unless it is empty. -/
def word? (expr : Expr) : Option (List UInt8) :=
  match expr.items with
  | [] => none
  | items => (items.mapM Expr.char?).map (·.flatMap String.utf8EncodeChar)

/-- The words of a choice that has nothing else to choose from. -/
def words? : Expr → Option (List (List UInt8))
  | .choice first second => (Expr.choice first second).branches.mapM word?
  | _ => none

def addTrie (direction : Direction) (words : List (List UInt8))
    (print : Footprint) : Footprint :=
  let words := if direction = .forward then words else words.map List.reverse
  let depth := words.foldl (fun depth word => max depth word.length) 0
  addWords depth words (print.addStates 1)

end Footprint

end PatternWorkbench.Machine
