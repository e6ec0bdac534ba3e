import PatternWorkbench.Text

/-!
# What is wrong with a pattern, and where

A diagnostic names the cause and the stretch of the pattern that shows it. It is
rendered under the pattern with carets; a pattern of several lines is numbered
and framed.
-/

namespace PatternWorkbench.Pattern

/-- Character positions from `start` up to but excluding `stop`. -/
structure Span where
  start : Nat
  stop : Nat
  deriving DecidableEq, Repr

inductive Cause where
  | classEscapeInvalid
  | classRangeInvalid
  | classRangeLiteral
  | classUnclosed
  | decimalInvalid
  | escapeHexEmpty
  | escapeHexInvalid
  | escapeHexInvalidDigit
  | escapeUnexpectedEnd
  | escapeUnrecognized
  | flagDanglingNegation
  | flagDuplicate
  | flagRepeatedNegation
  | flagUnexpectedEnd
  | flagUnrecognized
  | groupNameDuplicate
  | groupNameEmpty
  | groupNameInvalid
  | groupNameUnexpectedEnd
  | groupUnclosed
  | groupUnopened
  | nestLimitExceeded (limit : Nat)
  | repetitionCountInvalid
  | repetitionCountDecimalEmpty
  | repetitionCountUnclosed
  | repetitionMissing
  | boundaryUnclosed
  | boundaryUnrecognized
  | boundaryOrRepetitionUnexpectedEnd
  | propertyInvalid
  | backreferenceUnsupported
  | lookAroundUnsupported
  | propertyNotAllowed
  | invalidEncoding
  | propertyNotFound
  | propertyValueNotFound
  deriving DecidableEq, Repr

def Cause.message : Cause → Text
  | classEscapeInvalid =>
    "invalid escape sequence found in character class".toList
  | classRangeInvalid =>
    "invalid character class range, the start must be <= the end".toList
  | classRangeLiteral => "invalid range boundary, must be a literal".toList
  | classUnclosed => "unclosed character class".toList
  | decimalInvalid => "decimal literal invalid".toList
  | escapeHexEmpty => "hexadecimal literal empty".toList
  | escapeHexInvalid =>
    "hexadecimal literal is not a Unicode scalar value".toList
  | escapeHexInvalidDigit => "invalid hexadecimal digit".toList
  | escapeUnexpectedEnd =>
    "incomplete escape sequence, reached end of pattern prematurely".toList
  | escapeUnrecognized => "unrecognized escape sequence".toList
  | flagDanglingNegation => "dangling flag negation operator".toList
  | flagDuplicate => "duplicate flag".toList
  | flagRepeatedNegation => "flag negation operator repeated".toList
  | flagUnexpectedEnd => "expected flag but got end of regex".toList
  | flagUnrecognized => "unrecognized flag".toList
  | groupNameDuplicate => "duplicate capture group name".toList
  | groupNameEmpty => "empty capture group name".toList
  | groupNameInvalid => "invalid capture group character".toList
  | groupNameUnexpectedEnd => "unclosed capture group name".toList
  | groupUnclosed => "unclosed group".toList
  | groupUnopened => "unopened group".toList
  | nestLimitExceeded limit =>
    "exceed the maximum number of nested parentheses/brackets (".toList ++
      decimal limit ++ [')']
  | repetitionCountInvalid =>
    "invalid repetition count range, the start must be <= the end".toList
  | repetitionCountDecimalEmpty =>
    "repetition quantifier expects a valid decimal".toList
  | repetitionCountUnclosed => "unclosed counted repetition".toList
  | repetitionMissing => "repetition operator missing expression".toList
  | boundaryUnclosed =>
    ("special word boundary assertion is either unclosed or contains an " ++
      "invalid character").toList
  | boundaryUnrecognized =>
    ("unrecognized special word boundary assertion, valid choices are: start, " ++
      "end, start-half or end-half").toList
  | boundaryOrRepetitionUnexpectedEnd =>
    ("found either the beginning of a special word boundary or a bounded " ++
      "repetition on a \\b with an opening brace, but no closing brace").toList
  | propertyInvalid => "invalid Unicode character class".toList
  | backreferenceUnsupported => "backreferences are not supported".toList
  | lookAroundUnsupported =>
    ("look-around, including look-ahead and look-behind, is not " ++
      "supported").toList
  | propertyNotAllowed => "Unicode not allowed here".toList
  | invalidEncoding => "pattern can match invalid UTF-8".toList
  | propertyNotFound => "Unicode property not found".toList
  | propertyValueNotFound => "Unicode property value not found".toList

/-- `earlier` is the first occurrence of something that may occur once. -/
structure Diagnostic where
  cause : Cause
  span : Span
  earlier : Option Span := none
  deriving DecidableEq, Repr

namespace Diagnostic

/-- Line and column of a position, both counted from one. -/
def place (pattern : Text) (position : Nat) : Nat × Nat :=
  (pattern.take position).foldl
    (fun (line, column) c =>
      if c = '\n' then (line + 1, 1) else (line, column + 1))
    (1, 1)

/-- The lines of a pattern without their terminators. A line feed at the very
end starts no line. -/
def displayLines (pattern : Text) : List Text :=
  let all := lines pattern
  let ended := all.dropLast.map fun line =>
    if line.getLast? = some '\r' then line.dropLast else line
  match all.getLast? with
  | none | some [] => ended
  | some last => ended ++ [last]

structure Placed where
  first : Nat × Nat
  last : Nat × Nat

def Placed.ofSpan (pattern : Text) (span : Span) : Placed :=
  ⟨place pattern span.start, place pattern span.stop⟩

def Placed.onOneLine (placed : Placed) : Bool :=
  placed.first.1 = placed.last.1

/-- One caret for each column of every span, and at least one caret a span. -/
def carets : Nat → List Placed → Text
  | _, [] => []
  | column, placed :: rest =>
    let start := placed.first.2 - 1
    let count := max 1 (placed.last.2 - placed.first.2)
    List.replicate (start - column) ' ' ++ List.replicate count '^' ++
      carets (max column start + count) rest

def spans (diagnostic : Diagnostic) : List Span :=
  match diagnostic.earlier with
  | none => [diagnostic.span]
  | some earlier =>
    if earlier.start ≤ diagnostic.span.start then [earlier, diagnostic.span]
    else [diagnostic.span, earlier]

/-- Each line of the pattern after its margin, with carets below where a span
lies on that line alone. -/
def notated (margin : Nat → Text) (padding : Nat) (placed : List Placed) :
    Nat → List Text → List Text
  | _, [] => []
  | number, line :: rest =>
    let here := placed.filter fun p => p.onOneLine && p.first.1 = number
    let below :=
      if here.isEmpty then []
      else [List.replicate padding ' ' ++ carets 0 here]
    (margin number ++ line) :: below ++
      notated margin padding placed (number + 1) rest

def spanningNote (placed : Placed) : Text :=
  "on line ".toList ++ decimal placed.first.1 ++ " (column ".toList ++
    decimal placed.first.2 ++ ") through line ".toList ++
    decimal placed.last.1 ++ " (column ".toList ++
    decimal (placed.last.2 - 1) ++ [')']

def render (diagnostic : Diagnostic) (pattern : Text) : Text :=
  let placed := diagnostic.spans.map (Placed.ofSpan pattern)
  let shown := displayLines pattern
  let title := "regex parse error:".toList
  let verdict := "error: ".toList ++ diagnostic.cause.message
  if pattern.contains '\n' then
    let count := shown.length + if pattern.getLast? = some '\n' then 1 else 0
    let width := if count ≤ 1 then 0 else (decimal count).length
    let margin := fun number =>
      if width = 0 then List.replicate 4 ' '
      else padLeft width (decimal number) ++ [':', ' ']
    let divider := List.replicate 79 '~'
    let padding := if width = 0 then 4 else 2 + width
    joinLines <|
      [title, divider] ++ notated margin padding placed 1 shown ++ [divider] ++
        (placed.filter (!·.onOneLine)).map spanningNote ++ [verdict]
  else
    joinLines <|
      [title] ++
        notated (fun _ => List.replicate 4 ' ') 4 placed 1 shown ++ [verdict]

end Diagnostic

end PatternWorkbench.Pattern
