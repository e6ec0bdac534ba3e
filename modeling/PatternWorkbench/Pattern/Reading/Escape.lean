import PatternWorkbench.Pattern.Reading.Cursor

/-!
# Escape sequences

What a backslash and the characters after it stand for: a literal, a class, a
property or an assertion. Each reader answers with the part read and the
position behind it.
-/

namespace PatternWorkbench.Pattern

namespace Escape

def isHex (c : Char) : Bool :=
  c.isDigit || ('a' ≤ c && c ≤ 'f') || ('A' ≤ c && c ≤ 'F')

def hexDigitValue (c : Char) : Nat :=
  if c.isDigit then c.toNat - '0'.toNat
  else if 'a' ≤ c then c.toNat - 'a'.toNat + 10
  else c.toNat - 'A'.toNat + 10

def hexValue (digits : Text) : Nat :=
  digits.foldl (fun value digit => 16 * value + hexDigitValue digit) 0

/-- The character of a code point, unless there is none. -/
def scalar? (code : Nat) : Option Char :=
  if code.isValidChar then some (Char.ofNat code) else none

/-- A fixed number of hexadecimal digits. -/
def hexDigits (verbose : Bool) : Nat → Cursor → Except Diagnostic (Text × Cursor)
  | 0, cursor => .ok ([], cursor)
  | _ + 1, ⟨pos, []⟩ => fail .escapeUnexpectedEnd pos pos
  | count + 1, ⟨pos, c :: cs⟩ =>
    if isHex c then do
      let (digits, after) ← hexDigits verbose count (Cursor.skip verbose ⟨pos + 1, cs⟩)
      return (c :: digits, after)
    else fail .escapeHexInvalidDigit pos (pos + 1)

def literal (start stop : Nat) (char : Char) (asByte : Bool) : Tree :=
  .literal { span := ⟨start, stop⟩, char, asByte }

/-- A code point between braces, the cursor being behind the opening one. -/
def bracedHex (verbose : Bool) (start brace : Nat) (cursor : Cursor) :
    Except Diagnostic (Tree × Nat) :=
  let (digits, after) := Cursor.collect verbose isHex cursor
  match after.rest with
  | [] => fail .escapeUnexpectedEnd brace after.pos
  | '}' :: rest =>
    let stop := (Cursor.skip verbose ⟨after.pos + 1, rest⟩).pos
    if digits.isEmpty then fail .escapeHexEmpty brace stop
    else
      match scalar? (hexValue digits) with
      | none => fail .escapeHexInvalid (brace + 1) after.pos
      | some char => .ok (literal start stop char false, stop)
  | _ :: _ => fail .escapeHexInvalidDigit after.pos (after.pos + 1)

/-- A code point in `width` digits or in braces. Two plain digits may also stand
for a byte. -/
def hex (verbose : Bool) (start width : Nat) (cursor : Cursor) :
    Except Diagnostic (Tree × Nat) :=
  match cursor.rest with
  | [] => fail .escapeUnexpectedEnd cursor.pos cursor.pos
  | '{' :: rest =>
    bracedHex verbose start cursor.pos (Cursor.skip verbose ⟨cursor.pos + 1, rest⟩)
  | _ :: _ => do
    let (digits, after) ← hexDigits verbose width cursor
    match scalar? (hexValue digits) with
    | none => fail .escapeHexInvalid cursor.pos after.pos
    | some char => .ok (literal start after.pos char (width == 2), after.pos)

/-- Cuts a text at the first place where `mark` stands. -/
def cutAt (mark : Text) : Text → Option (Text × Text)
  | [] => none
  | c :: cs =>
    if mark.isPrefixOf (c :: cs) then some ([], (c :: cs).drop mark.length)
    else (cutAt mark cs).map fun (before, after) => (c :: before, after)

/-- The query written between braces, and whether an unequal sign negates it. -/
def query (inside : Text) : PropertyQuery × Bool :=
  match cutAt ['!', '='] inside with
  | some (property, label) => (.valued property label, true)
  | none =>
    match (cutAt [':'] inside) <|> (cutAt ['='] inside) with
    | some (property, label) => (.valued property label, false)
    | none => (.plain inside, false)

/-- A property, the cursor being behind the letter `p`. -/
def property (verbose : Bool) (start : Nat) (negated : Bool) (cursor : Cursor) :
    Except Diagnostic (Tree × Nat) :=
  match cursor.rest with
  | [] => fail .escapeUnexpectedEnd cursor.pos cursor.pos
  | '{' :: rest =>
    let (inside, after) :=
      Cursor.collect verbose (· != '}')
        (Cursor.skip verbose ⟨cursor.pos + 1, rest⟩)
    if after.rest.isEmpty then fail .escapeUnexpectedEnd after.pos after.pos
    else
      let (asked, unequal) := query inside
      let stop := after.pos + 1
      .ok (.property ⟨start, stop⟩ asked (negated != unequal), stop)
  | c :: rest =>
    if c = '\\' then fail .propertyInvalid cursor.pos (cursor.pos + 1)
    else
      let stop := (Cursor.skip verbose ⟨cursor.pos + 1, rest⟩).pos
      .ok (.property ⟨start, stop⟩ (.plain [c]) negated, stop)

def isBoundaryLetter (c : Char) : Bool :=
  c.isAlpha || c == '-'

def boundaryKind? (name : Text) : Option Assertion :=
  match String.ofList name with
  | "start" => some .wordStart
  | "end" => some .wordEnd
  | "start-half" => some .wordStartHalf
  | "end-half" => some .wordEndHalf
  | _ => none

/-- A word boundary, `rest` being what follows the letter `b`. A brace that
cannot name a kind of boundary is left to the counted repetitions. -/
def boundary (verbose : Bool) (start : Nat) (rest : Text) :
    Except Diagnostic (Tree × Nat) :=
  let plain : Tree × Nat :=
    (.assertion ⟨start, start + 2⟩ .wordBoundary, start + 2)
  match rest with
  | '{' :: inside =>
    let cursor := Cursor.skip verbose ⟨start + 3, inside⟩
    match cursor.rest with
    | [] => fail .boundaryOrRepetitionUnexpectedEnd start cursor.pos
    | c :: _ =>
      if isBoundaryLetter c then
        let (name, after) := Cursor.collect verbose isBoundaryLetter cursor
        match after.rest with
        | '}' :: _ =>
          match boundaryKind? name with
          | some kind => .ok (.assertion ⟨start, after.pos + 1⟩ kind, after.pos + 1)
          | none => fail .boundaryUnrecognized cursor.pos after.pos
        | _ => fail .boundaryUnclosed (start + 2) after.pos
      else .ok plain
  | _ => .ok plain

/-- The characters that have a meaning of their own somewhere in a pattern. -/
def metaCharacters : Text :=
  ['\\', '.', '+', '*', '?', '(', ')', '|', '[', ']', '{', '}', '^', '$', '#', '&', '-', '~']

def isMeta (c : Char) : Bool :=
  metaCharacters.contains c

/-- Any ASCII character but letters, digits and angle brackets may be escaped. -/
def isEscapable (c : Char) : Bool :=
  isMeta c || (c.toNat < 128 && !c.isAlphanum && c != '<' && c != '>')

/-- The character that a letter stands for after a backslash. -/
def control? : Char → Option Char
  | 'a' => some '\x07'
  | 'f' => some '\x0c'
  | 't' => some '\t'
  | 'n' => some '\n'
  | 'r' => some '\r'
  | 'v' => some '\x0b'
  | _ => none

def shorthand? : Char → Option (Shorthand × Bool)
  | 'd' => some (.digit, false)
  | 'D' => some (.digit, true)
  | 's' => some (.blank, false)
  | 'S' => some (.blank, true)
  | 'w' => some (.word, false)
  | 'W' => some (.word, true)
  | _ => none

def assertion? : Char → Option Assertion
  | 'A' => some .textStart
  | 'z' => some .textEnd
  | 'B' => some .notWordBoundary
  | '<' => some .wordStart
  | '>' => some .wordEnd
  | _ => none

/-- An escape sequence whose backslash is at `start`. -/
def read (verbose : Bool) (start : Nat) :
    Text → Except Diagnostic (Tree × Nat)
  | [] => fail .escapeUnexpectedEnd start (start + 1)
  | c :: rest =>
    let span : Span := ⟨start, start + 2⟩
    let after := Cursor.skip verbose ⟨start + 2, rest⟩
    if c.isDigit then fail .backreferenceUnsupported start (start + 2)
    else if c = 'x' then hex verbose start 2 after
    else if c = 'u' then hex verbose start 4 after
    else if c = 'U' then hex verbose start 8 after
    else if c = 'p' then property verbose start false after
    else if c = 'P' then property verbose start true after
    else if c = 'b' then boundary verbose start rest
    else
      match shorthand? c with
      | some (kind, negated) => .ok (.shorthand span kind negated, start + 2)
      | none =>
        if isEscapable c then .ok (literal start (start + 2) c false, start + 2)
        else
          match control? c with
          | some char => .ok (literal start (start + 2) char false, start + 2)
          | none =>
            match assertion? c with
            | some kind => .ok (.assertion span kind, start + 2)
            | none => fail .escapeUnrecognized start (start + 2)

end Escape

end PatternWorkbench.Pattern
