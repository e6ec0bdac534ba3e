import PatternWorkbench.Pattern.Diagnostic
import PatternWorkbench.Pattern.Property

/-!
# The written form of a pattern

A tree keeps every part of a pattern with the span it was read from, because a
part that turns out to have no meaning is reported at its place.
-/

namespace PatternWorkbench.Pattern

/-- The one-letter classes `\d`, `\s` and `\w`. -/
inductive Shorthand where
  | digit
  | blank
  | word
  deriving DecidableEq, Repr

/-- The bracketed names such as `[:alpha:]`, all within ASCII. -/
inductive NamedClass where
  | alnum
  | alpha
  | ascii
  | blank
  | cntrl
  | digit
  | graph
  | lower
  | print
  | punct
  | space
  | upper
  | word
  | xdigit
  deriving DecidableEq, Repr

def NamedClass.ofName? (name : Text) : Option NamedClass :=
  match String.ofList name with
  | "alnum" => some alnum
  | "alpha" => some alpha
  | "ascii" => some ascii
  | "blank" => some blank
  | "cntrl" => some cntrl
  | "digit" => some digit
  | "graph" => some graph
  | "lower" => some lower
  | "print" => some print
  | "punct" => some punct
  | "space" => some space
  | "upper" => some upper
  | "word" => some word
  | "xdigit" => some xdigit
  | _ => none

inductive SetOperation where
  | intersection
  | difference
  | symmetricDifference
  deriving DecidableEq, Repr

/-- One character, and whether it was written as a two-digit byte escape. -/
structure Literal where
  span : Span
  char : Char
  asByte : Bool
  deriving DecidableEq, Repr

/-- The inside of a bracketed class. -/
inductive ClassTree where
  | nothing (span : Span)
  | literal (character : Literal)
  | range (span : Span) (low high : Literal)
  | named (span : Span) (name : NamedClass) (negated : Bool)
  | property (span : Span) (query : PropertyQuery) (negated : Bool)
  | shorthand (span : Span) (kind : Shorthand) (negated : Bool)
  | bracketed (span : Span) (negated : Bool) (inside : ClassTree)
  | union (span : Span) (items : List ClassTree)
  | operation (span : Span) (kind : SetOperation) (left right : ClassTree)
  deriving Repr

def ClassTree.span : ClassTree → Span
  | nothing span => span
  | literal character => character.span
  | range span .. => span
  | named span .. => span
  | property span .. => span
  | shorthand span .. => span
  | bracketed span .. => span
  | union span _ => span
  | operation span .. => span

inductive Assertion where
  | lineStart
  | lineEnd
  | textStart
  | textEnd
  | wordBoundary
  | notWordBoundary
  | wordStart
  | wordEnd
  | wordStartHalf
  | wordEndHalf
  deriving DecidableEq, Repr

inductive Flag where
  | caseInsensitive
  | multiLine
  | dotMatchesNewLine
  | swapGreed
  | unicode
  | crlf
  | ignoreWhitespace
  deriving DecidableEq, Repr

/-- The letters of a flag group: those before the hyphen switch on, those after
it switch off. -/
structure FlagItems where
  on : List Flag
  off : List Flag
  deriving DecidableEq, Repr

/-- What a flag group does to one flag, if anything. -/
def FlagItems.setting? (items : FlagItems) (flag : Flag) : Option Bool :=
  if items.on.contains flag then some true
  else if items.off.contains flag then some false
  else none

/-- How often a part repeats, from `min` to `max` times. -/
structure Counts where
  min : Nat
  max : Option Nat
  deriving DecidableEq, Repr

inductive GroupKind where
  | plain (flags : FlagItems)
  | capture (index : Nat) (name : Option Text)
  deriving DecidableEq, Repr

inductive Tree where
  | nothing (span : Span)
  | flags (span : Span) (items : FlagItems)
  | literal (character : Literal)
  | dot (span : Span)
  | assertion (span : Span) (kind : Assertion)
  | property (span : Span) (query : PropertyQuery) (negated : Bool)
  | shorthand (span : Span) (kind : Shorthand) (negated : Bool)
  | bracketed (span : Span) (negated : Bool) (inside : ClassTree)
  | repetition (span : Span) (counts : Counts) (greedy : Bool) (body : Tree)
  | group (span : Span) (kind : GroupKind) (body : Tree)
  | alternation (span : Span) (branches : List Tree)
  | concat (span : Span) (items : List Tree)
  deriving Repr

def Tree.span : Tree → Span
  | nothing span => span
  | flags span _ => span
  | literal character => character.span
  | dot span => span
  | assertion span _ => span
  | property span .. => span
  | shorthand span .. => span
  | bracketed span .. => span
  | repetition span .. => span
  | group span .. => span
  | alternation span _ => span
  | concat span _ => span

/-- A sequence of parts; one part alone is that part. -/
def Tree.ofItems (span : Span) : List Tree → Tree
  | [] => nothing span
  | [item] => item
  | items => concat span items

namespace Nesting

/-- How deep brackets and parentheses may nest. -/
def limit : Nat := 250

mutual

/-- The first part of a class that lies deeper than the limit. -/
def firstTooDeepInClass (depth : Nat) : ClassTree → Option Span
  | .bracketed span _ inside =>
    if depth = limit then some span
    else firstTooDeepInClass (depth + 1) inside
  | .union span items =>
    if depth = limit then some span
    else firstTooDeepInClasses (depth + 1) items
  | .operation span _ left right =>
    if depth = limit then some span
    else
      firstTooDeepInClass (depth + 1) left <|>
        firstTooDeepInClass (depth + 1) right
  | .nothing _ | .literal _ | .range .. | .named .. | .property ..
  | .shorthand .. => none

def firstTooDeepInClasses (depth : Nat) : List ClassTree → Option Span
  | [] => none
  | item :: rest =>
    firstTooDeepInClass depth item <|> firstTooDeepInClasses depth rest

end

mutual

/-- The first part of a pattern that lies deeper than the limit. -/
def firstTooDeep (depth : Nat) : Tree → Option Span
  | .bracketed span _ inside =>
    if depth = limit then some span
    else firstTooDeepInClass (depth + 1) inside
  | .repetition span _ _ body | .group span _ body =>
    if depth = limit then some span else firstTooDeep (depth + 1) body
  | .alternation span items | .concat span items =>
    if depth = limit then some span else firstTooDeepAmong (depth + 1) items
  | .nothing _ | .flags .. | .literal _ | .dot _ | .assertion .. | .property ..
  | .shorthand .. => none

def firstTooDeepAmong (depth : Nat) : List Tree → Option Span
  | [] => none
  | item :: rest => firstTooDeep depth item <|> firstTooDeepAmong depth rest

end

end Nesting

end PatternWorkbench.Pattern
