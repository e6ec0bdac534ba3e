import PatternWorkbench.Pattern.Reading.Cursor

/-!
# Repetition operators

The marks `?`, `*` and `+` and the counts in braces. A question mark behind an
operator makes it prefer few repetitions to many.
-/

namespace PatternWorkbench.Pattern

namespace RepetitionReading

structure Operator where
  counts : Counts
  greedy : Bool
  stop : Nat

def marked? : Char → Option Counts
  | '?' => some ⟨0, some 1⟩
  | '*' => some ⟨0, none⟩
  | '+' => some ⟨1, none⟩
  | _ => none

/-- The operator whose mark is at `pos`. -/
def ofMark (counts : Counts) (pos : Nat) (rest : Text) : Operator :=
  if rest.head? = some '?' then ⟨counts, false, pos + 2⟩
  else ⟨counts, true, pos + 1⟩

def decimalValue (digits : Text) : Nat :=
  digits.foldl (fun value digit => 10 * value + (digit.toNat - '0'.toNat)) 0

/-- Counts fit in 32 bits. -/
def countLimit : Nat := 4294967296

/-- A count, which fails where digits are missing or too many. The cursor moves
on in either case. -/
def count (verbose : Bool) (cursor : Cursor) : Except Diagnostic Nat × Cursor :=
  let spaces := (cursor.rest.takeWhile Unicode.isBlank).length
  let start := cursor.pos + spaces
  let (digits, after) :=
    Cursor.collect verbose Char.isDigit ⟨start, cursor.rest.drop spaces⟩
  let value :=
    if digits.isEmpty then fail .repetitionCountDecimalEmpty start after.pos
    else if decimalValue digits < countLimit then .ok (decimalValue digits)
    else fail .decimalInvalid start after.pos
  (value, after.skipSpaces verbose)

/-- The operator behind the brace at `start`. -/
def counted (verbose : Bool) (start : Nat) (rest : Text) :
    Except Diagnostic Operator := do
  let unclosed (cursor : Cursor) : Except Diagnostic Operator :=
    fail .repetitionCountUnclosed start cursor.pos
  let cursor := Cursor.skip verbose ⟨start + 1, rest⟩
  if cursor.rest.isEmpty then unclosed cursor
  else
    let (low, cursor) := count verbose cursor
    match cursor.rest with
    | [] => unclosed cursor
    | ',' :: after =>
      let cursor := Cursor.skip verbose ⟨cursor.pos + 1, after⟩
      match cursor.rest with
      | [] => unclosed cursor
      | '}' :: after => do
        let low ← low
        finish ⟨low, none⟩ (Cursor.skip verbose ⟨cursor.pos + 1, after⟩)
      | _ => do
        let low ← low
        let (high, cursor) := count verbose cursor
        let high ← high
        close ⟨low, some high⟩ cursor
    | _ => do
      let low ← low
      close ⟨low, some low⟩ cursor
where
  close (counts : Counts) (cursor : Cursor) : Except Diagnostic Operator :=
    match cursor.rest with
    | '}' :: after =>
      finish counts (Cursor.skip verbose ⟨cursor.pos + 1, after⟩)
    | _ => fail .repetitionCountUnclosed start cursor.pos
  finish (counts : Counts) (cursor : Cursor) : Except Diagnostic Operator :=
    let greedy := cursor.rest.head? != some '?'
    let stop := if greedy then cursor.pos else cursor.pos + 1
    if counts.max.any (· < counts.min) then
      fail .repetitionCountInvalid start stop
    else .ok ⟨counts, greedy, stop⟩

end RepetitionReading

end PatternWorkbench.Pattern
