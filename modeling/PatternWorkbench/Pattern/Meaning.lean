import PatternWorkbench.Pattern.Expr
import PatternWorkbench.Pattern.Reading.Pattern

/-!
# The expression a pattern stands for

Flags decide what the parts of a tree mean. A flag group changes them from its
place to the end of the group around it, so the meaning of a tree comes with the
flags that hold behind it. Parts that could match half a character have no
meaning.
-/

namespace PatternWorkbench.Pattern

open Unicode (CharSet)

structure Modes where
  caseInsensitive : Bool := false
  multiLine : Bool := false
  dotMatchesNewLine : Bool := false
  swapGreed : Bool := false
  unicode : Bool := true
  crlf : Bool := false
  deriving DecidableEq, Repr

def Modes.update (modes : Modes) (items : FlagItems) : Modes where
  caseInsensitive :=
    (items.setting? .caseInsensitive).getD modes.caseInsensitive
  multiLine := (items.setting? .multiLine).getD modes.multiLine
  dotMatchesNewLine :=
    (items.setting? .dotMatchesNewLine).getD modes.dotMatchesNewLine
  swapGreed := (items.setting? .swapGreed).getD modes.swapGreed
  unicode := (items.setting? .unicode).getD modes.unicode
  crlf := (items.setting? .crlf).getD modes.crlf

namespace Meaning

def reject {Value : Type} (cause : Cause) (span : Span) :
    Except Diagnostic Value :=
  .error { cause, span }

/-- The ASCII characters of a class, written as ranges. -/
def namedSet : NamedClass → CharSet
  | .alnum => .ofTable [(0x30, 0x39), (0x41, 0x5A), (0x61, 0x7A)]
  | .alpha => .ofTable [(0x41, 0x5A), (0x61, 0x7A)]
  | .ascii => .ofTable [(0x00, 0x7F)]
  | .blank => .ofTable [(0x09, 0x09), (0x20, 0x20)]
  | .cntrl => .ofTable [(0x00, 0x1F), (0x7F, 0x7F)]
  | .digit => .ofTable [(0x30, 0x39)]
  | .graph => .ofTable [(0x21, 0x7E)]
  | .lower => .ofTable [(0x61, 0x7A)]
  | .print => .ofTable [(0x20, 0x7E)]
  | .punct => .ofTable [(0x21, 0x2F), (0x3A, 0x40), (0x5B, 0x60), (0x7B, 0x7E)]
  | .space => .ofTable [(0x09, 0x0D), (0x20, 0x20)]
  | .upper => .ofTable [(0x41, 0x5A)]
  | .word => .ofTable [(0x30, 0x39), (0x41, 0x5A), (0x5F, 0x5F), (0x61, 0x7A)]
  | .xdigit => .ofTable [(0x30, 0x39), (0x41, 0x46), (0x61, 0x66)]

def shorthandSet (unicode : Bool) : Shorthand → CharSet
  | .digit => if unicode then .decimal else namedSet .digit
  | .blank => if unicode then .blank else namedSet .space
  | .word => if unicode then .word else namedSet .word

/-- ASCII letters in both cases, for the folding that knows no others. -/
def asciiFold (set : CharSet) : CharSet :=
  set.folded.inter (namedSet .ascii)

def fold (modes : Modes) (set : CharSet) : CharSet :=
  if !modes.caseInsensitive then set
  else if modes.unicode then set.folded
  else asciiFold set

/-- Folds first and negates then, so that a negated class lacks every spelling
of its members. Without Unicode a negated set holds bytes beyond ASCII, which
are no characters. -/
def foldAndNegate (modes : Modes) (span : Span) (negated : Bool)
    (set : CharSet) : Except Diagnostic CharSet :=
  if negated && !modes.unicode then reject .invalidEncoding span
  else .ok (.negating negated (fold modes set))

def shorthand (modes : Modes) (span : Span) (kind : Shorthand)
    (negated : Bool) : Except Diagnostic CharSet :=
  if negated && !modes.unicode then reject .invalidEncoding span
  else .ok (.negating negated (shorthandSet modes.unicode kind))

def property (modes : Modes) (span : Span) (query : PropertyQuery)
    (negated : Bool) : Except Diagnostic CharSet :=
  if !modes.unicode then reject .propertyNotAllowed span
  else
    match query.lookup with
    | .found set => foldAndNegate modes span negated set
    | .unknownProperty => reject .propertyNotFound span
    | .unknownValue => reject .propertyValueNotFound span

/-- A character of a class. Without Unicode it has to lie within ASCII. -/
def member (modes : Modes) (literal : Literal) : Except Diagnostic Char :=
  if modes.unicode || literal.char.toNat < 128 then .ok literal.char
  else if literal.asByte then reject .invalidEncoding literal.span
  else reject .propertyNotAllowed literal.span

def operate : SetOperation → CharSet → CharSet → CharSet
  | .intersection => .inter
  | .difference => .diff
  | .symmetricDifference => .symmDiff

mutual

def classSet (modes : Modes) : ClassTree → Except Diagnostic CharSet
  | .nothing _ => .ok .empty
  | .literal literal => do return .single (← member modes literal)
  | .range _ low high => do
    let low ← member modes low
    let high ← member modes high
    return .range low high
  | .named span name negated => foldAndNegate modes span negated (namedSet name)
  | .property span query negated => property modes span query negated
  | .shorthand span kind negated => shorthand modes span kind negated
  | .bracketed span negated inside => do
    foldAndNegate modes span negated (← classSet modes inside)
  | .union _ items => classUnion modes items
  | .operation _ kind left right => do
    let left ← classSet modes left
    let right ← classSet modes right
    return operate kind (fold modes left) (fold modes right)

def classUnion (modes : Modes) : List ClassTree → Except Diagnostic CharSet
  | [] => .ok .empty
  | [item] => classSet modes item
  | item :: rest => do
    let first ← classSet modes item
    let others ← classUnion modes rest
    return first.union others

end

def literal (modes : Modes) (character : Literal) : Except Diagnostic Expr :=
  if !modes.unicode && character.asByte && 128 ≤ character.char.toNat then
    reject .invalidEncoding character.span
  else if !modes.caseInsensitive then .ok (.set (.single character.char))
  else if modes.unicode then .ok (.set (CharSet.single character.char).folded)
  else if character.char.isAlpha then
    .ok (.set ((CharSet.single character.char.toLower).union
      (.single character.char.toUpper)))
  else .ok (.set (.single character.char))

def dot (modes : Modes) (span : Span) : Except Diagnostic CharSet :=
  if !modes.unicode then reject .invalidEncoding span
  else if modes.dotMatchesNewLine then .ok .any
  else if modes.crlf then .ok (.ofOutside [(0x0A, 0x0A), (0x0D, 0x0D)])
  else .ok (.allBut '\n')

def look (modes : Modes) : Assertion → Look
  | .lineStart =>
    if !modes.multiLine then .textStart
    else if modes.crlf then .lineStartCrlf
    else .lineStart
  | .lineEnd =>
    if !modes.multiLine then .textEnd
    else if modes.crlf then .lineEndCrlf
    else .lineEnd
  | .textStart => .textStart
  | .textEnd => .textEnd
  | .wordBoundary => .word .boundary !modes.unicode
  | .notWordBoundary => .word .notBoundary !modes.unicode
  | .wordStart => .word .start !modes.unicode
  | .wordEnd => .word .stop !modes.unicode
  | .wordStartHalf => .word .startHalf !modes.unicode
  | .wordEndHalf => .word .stopHalf !modes.unicode

mutual

/-- The expression of a tree, and the modes that hold behind it. -/
def tree (modes : Modes) : Tree → Except Diagnostic (Expr × Modes)
  | .nothing _ => .ok (.empty, modes)
  | .flags _ items => .ok (.empty, modes.update items)
  | .literal character => do return (← literal modes character, modes)
  | .dot span => do return (.set (← dot modes span), modes)
  | .assertion _ kind => .ok (.look (look modes kind), modes)
  | .property span query negated => do
    return (.set (← property modes span query negated), modes)
  | .shorthand span kind negated => do
    return (.set (← shorthand modes span kind negated), modes)
  | .bracketed span negated inside => do
    let set ← classSet modes inside
    return (.set (← foldAndNegate modes span negated set), modes)
  | .repetition _ counts greedy body => do
    let (expr, after) ← tree modes body
    return (.repetition counts.min counts.max (greedy != after.swapGreed) expr,
      after)
  | .group _ (.plain items) body => do
    let (expr, _) ← tree (modes.update items) body
    return (expr, modes)
  | .group _ (.capture index name) body => do
    let (expr, _) ← tree modes body
    return (.capture index name expr, modes)
  | .alternation _ items => do
    let (exprs, after) ← trees modes items
    return (.alternation exprs, after)
  | .concat _ items => do
    let (exprs, after) ← trees modes items
    return (.concat exprs, after)

def trees (modes : Modes) : List Tree → Except Diagnostic (List Expr × Modes)
  | [] => .ok ([], modes)
  | item :: rest => do
    let (first, between) ← tree modes item
    let (others, after) ← trees between rest
    return (first :: others, after)

end

end Meaning

/-- The expression of a pattern. All of it is read before any part of it is
given a meaning. -/
def Expr.read (modes : Modes) (pattern : Text) : Except Diagnostic Expr := do
  let tree ← Tree.read pattern
  let (expr, _) ← Meaning.tree modes tree
  return expr

end PatternWorkbench.Pattern
