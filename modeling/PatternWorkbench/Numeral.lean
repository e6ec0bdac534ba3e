import PatternWorkbench.Text

/-!
# Numbers in writing

Digits of a base, and decimal numbers with a point and an exponent. A decimal
number is kept as it is written: its digits and a power of ten.
-/

namespace PatternWorkbench

def digitValue? (c : Char) : Option Nat :=
  if c.isDigit then some (c.toNat - '0'.toNat)
  else if 'a' ≤ c ∧ c ≤ 'f' then some (c.toNat - 'a'.toNat + 10)
  else if 'A' ≤ c ∧ c ≤ 'F' then some (c.toNat - 'A'.toNat + 10)
  else none

/-- The number that digits of a base spell. There is at least one digit. -/
def numeral? (base : Nat) (digits : Text) : Option Nat :=
  if digits.isEmpty then none
  else
    digits.foldlM (fun value c => do
      let digit ← digitValue? c
      if digit < base then some (value * base + digit) else none) 0

def withoutPlus : Text → Text
  | '+' :: rest => rest
  | text => text

/-- A decimal number: its digits times a power of ten, below zero or not. -/
structure Decimal where
  negative : Bool
  digits : Nat
  exponent : Int
  deriving DecidableEq, Repr

namespace Decimal

/-- The exponent that a text spells, with an optional sign. -/
def exponent? : Text → Option Int
  | '-' :: digits => (numeral? 10 digits).map fun value => -Int.ofNat value
  | text => (numeral? 10 (withoutPlus text)).map Int.ofNat

/-- The unsigned number that a text spells, with an optional point and an
optional exponent. -/
def magnitude? (text : Text) : Option Decimal := do
  let whole := text.takeWhile Char.isDigit
  let behindWhole := text.dropWhile Char.isDigit
  let (fraction, behindFraction) :=
    match behindWhole with
    | '.' :: rest => (rest.takeWhile Char.isDigit, rest.dropWhile Char.isDigit)
    | _ => ([], behindWhole)
  let digits ← numeral? 10 (whole ++ fraction)
  let shift ←
    match behindFraction with
    | [] => some 0
    | c :: rest => if c = 'e' ∨ c = 'E' then exponent? rest else none
  return ⟨false, digits, shift - fraction.length⟩

/-- The number that a text spells, with an optional sign. -/
def read? : Text → Option Decimal
  | '-' :: rest => (magnitude? rest).map ({ · with negative := true })
  | text => magnitude? (withoutPlus text)

/-- Where the first digit stands: one more than its power of ten. -/
def height (number : Decimal) : Int :=
  (decimal number.digits).length + number.exponent

/-- A number written without an exponent, with at least one digit on each side of
the point. -/
def plain (number : Decimal) : Text :=
  let digits := decimal number.digits
  let sign := if number.negative then ['-'] else []
  if 0 ≤ number.exponent then
    let zeros :=
      if number.digits = 0 then [] else List.replicate number.exponent.toNat '0'
    sign ++ digits ++ zeros ++ ['.', '0']
  else
    let places := (-number.exponent).toNat
    let padded := List.replicate (places + 1 - digits.length) '0' ++ digits
    let fraction :=
      ((padded.drop (padded.length - places)).reverse.dropWhile (· == '0')).reverse
    sign ++ padded.take (padded.length - places) ++ ['.'] ++
      if fraction.isEmpty then ['0'] else fraction

end Decimal

end PatternWorkbench
