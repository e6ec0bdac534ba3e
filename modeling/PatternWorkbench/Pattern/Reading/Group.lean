import PatternWorkbench.Pattern.Reading.Cursor

/-!
# What opens a group

A parenthesis opens a numbered group, a named one, one that only groups, or it
sets flags and closes at once.
-/

namespace PatternWorkbench.Pattern

namespace GroupReading

def isNameStart (c : Char) : Bool :=
  c == '_' || Unicode.isAlphabetic c

def isNameChar (c : Char) : Bool :=
  c == '_' || c == '.' || c == '[' || c == ']' || Unicode.isAlphanumeric c

/-- The length of a name before its closing bracket. -/
def nameLength (isFirst : Bool) (pos : Nat) : Text → Except Diagnostic Nat
  | [] => fail .groupNameUnexpectedEnd pos pos
  | c :: cs =>
    if c = '>' then .ok 0
    else if if isFirst then isNameStart c else isNameChar c then do
      return (← nameLength false (pos + 1) cs) + 1
    else fail .groupNameInvalid pos (pos + 1)

/-- A name and its span, read from behind the opening angle bracket. -/
def name (pos : Nat) (rest : Text) : Except Diagnostic (Text × Span) := do
  let length ← nameLength true pos rest
  if length = 0 then fail .groupNameEmpty pos pos
  else return (rest.take length, ⟨pos, pos + length⟩)

def flag? : Char → Option Flag
  | 'i' => some .caseInsensitive
  | 'm' => some .multiLine
  | 's' => some .dotMatchesNewLine
  | 'U' => some .swapGreed
  | 'u' => some .unicode
  | 'R' => some .crlf
  | 'x' => some .ignoreWhitespace
  | _ => none

/-- The items of a flag group with their positions, a hyphen being `none`. -/
abbrev Items := List (Option Flag × Nat)

def place? (items : Items) (item : Option Flag) : Option Nat :=
  (items.find? (·.1 == item)).map (·.2)

/-- The flags up to the character that ends them, and the position of that
character. -/
def flagItems (items : Items) (pos : Nat) :
    Text → Except Diagnostic (Items × Nat × Char)
  | [] => fail .flagUnexpectedEnd pos pos
  | c :: cs =>
    let span : Span := ⟨pos, pos + 1⟩
    if c = ':' || c = ')' then
      match items.getLast? with
      | some (none, hyphen) => fail .flagDanglingNegation hyphen (hyphen + 1)
      | _ => .ok (items, pos, c)
    else if c = '-' then
      match place? items none with
      | some hyphen =>
        .error {
          cause := .flagRepeatedNegation
          span
          earlier := some ⟨hyphen, hyphen + 1⟩ }
      | none => flagItems (items ++ [(none, pos)]) (pos + 1) cs
    else
      match flag? c with
      | none => .error { cause := .flagUnrecognized, span }
      | some flag =>
        match place? items (some flag) with
        | some first =>
          .error {
            cause := .flagDuplicate
            span
            earlier := some ⟨first, first + 1⟩ }
        | none => flagItems (items ++ [(some flag, pos)]) (pos + 1) cs

def settings (items : Items) : FlagItems where
  on := (items.takeWhile (·.1.isSome)).filterMap (·.1)
  off := (items.dropWhile (·.1.isSome)).filterMap (·.1)

inductive Opening where
  | setFlags (span : Span) (items : FlagItems)
  | plain (items : FlagItems)
  | numbered
  | named (name : Text) (span : Span)

/-- Where a look-around assertion begins behind a parenthesis, its length. -/
def lookAround? : Text → Option Nat
  | '?' :: '=' :: _ | '?' :: '!' :: _ => some 2
  | '?' :: '<' :: '=' :: _ | '?' :: '<' :: '!' :: _ => some 3
  | _ => none

/-- The opening at the parenthesis at `start`, and the position behind it. -/
def opening (verbose : Bool) (start : Nat) (rest : Text) :
    Except Diagnostic (Opening × Nat) :=
  let cursor := Cursor.skip verbose ⟨start + 1, rest⟩
  match lookAround? cursor.rest with
  | some length => fail .lookAroundUnsupported start (cursor.pos + length)
  | none =>
    match cursor.rest with
    | '?' :: 'P' :: '<' :: rest => do
      let (name, span) ← name (cursor.pos + 3) rest
      return (.named name span, span.stop + 1)
    | '?' :: '<' :: rest => do
      let (name, span) ← name (cursor.pos + 2) rest
      return (.named name span, span.stop + 1)
    | ['?'] => fail .groupUnclosed start (start + 1)
    | '?' :: rest => do
      let (items, pos, last) ← flagItems [] (cursor.pos + 1) rest
      if last = ':' then return (.plain (settings items), pos + 1)
      else if items.isEmpty then fail .repetitionMissing cursor.pos cursor.pos
      else return (.setFlags ⟨start, pos + 1⟩ (settings items), pos + 1)
    | _ => return (.numbered, cursor.pos)

end GroupReading

end PatternWorkbench.Pattern
