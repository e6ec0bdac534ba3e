import PatternWorkbench.Numeral

/-!
# Floating-point numbers

Numbers with a significand of 53 bits and a bounded power of two. A decimal
number stands for the nearest of them, and each is written with the fewest digits
that stand for it again.
-/

namespace PatternWorkbench

/-- A finite number: its significand times a power of two, below zero or not. -/
structure Double where
  negative : Bool
  significand : Nat
  exponent : Int
  deriving DecidableEq, Repr

namespace Double

def leastExponent : Int := -1074

def greatestExponent : Int := 971

/-- The first significand that needs one bit too many. -/
def precision : Nat := 0x20000000000000

/-- The power of a base with an exponent that is not below zero, and one
otherwise. -/
def power (base : Nat) (exponent : Int) : Nat :=
  Nat.pow base exponent.toNat

/-- A quotient rounded to the nearest whole number, a half to the even one. -/
def nearestQuotient (dividend divisor : Nat) : Nat :=
  let quotient := dividend / divisor
  let twice := 2 * (dividend % divisor)
  if divisor < twice ∨ (twice = divisor ∧ quotient % 2 = 1) then quotient + 1
  else quotient

/-- A quotient brought to a power of two, without the part that gets lost. -/
def scaled (dividend divisor : Nat) (exponent : Int) : Nat × Nat :=
  (dividend * power 2 (-exponent), divisor * power 2 exponent)

/-- The power of two to which a quotient is brought, so that its significand has
all the bits it can have. -/
def exponentFor (dividend divisor : Nat) : Int :=
  let guess := (dividend.log2 : Int) - divisor.log2 - 53
  let (shifted, unit) := scaled dividend divisor guess
  max leastExponent (if precision * unit ≤ shifted then guess + 1 else guess)

/-- The number nearest to a quotient, unless that is beyond all of them. -/
def ofQuotient? (negative : Bool) (dividend divisor : Nat) : Option Double :=
  let exponent := exponentFor dividend divisor
  let (shifted, unit) := scaled dividend divisor exponent
  let significand := nearestQuotient shifted unit
  let number : Double :=
    if significand = precision then ⟨negative, precision / 2, exponent + 1⟩
    else ⟨negative, significand, exponent⟩
  if greatestExponent < number.exponent then none else some number

def zero (negative : Bool) : Double :=
  ⟨negative, 0, leastExponent⟩

/-- Decimal numbers below this power of ten stand for zero. -/
def leastHeight : Int := -330

/-- Decimal numbers from this power of ten on are beyond all others. -/
def greatestHeight : Int := 330

/-- The number that a decimal number stands for, unless it is too large. -/
def ofDecimal? (decimal : Decimal) : Option Double :=
  if decimal.digits = 0 ∨ decimal.height < leastHeight then
    some (zero decimal.negative)
  else if greatestHeight < decimal.height then none
  else
    ofQuotient? decimal.negative (decimal.digits * power 10 decimal.exponent)
      (power 10 (-decimal.exponent))

def isZero (number : Double) : Bool :=
  number.significand = 0

/-- The magnitude rounded to a whole number, a half away from zero. -/
def rounded (number : Double) : Nat :=
  let unit := power 2 (-number.exponent)
  (2 * number.significand * power 2 number.exponent + unit) / (2 * unit)

/-- Half the step to the next number below, counted in quarters of the step to the
next one above. -/
def reachBelow (number : Double) : Nat :=
  if number.significand = precision / 2 ∧ leastExponent < number.exponent then 1
  else 2

/-- Whether a decimal number stands for the number: it lies between the halves of
the steps to the next ones, which belong to an even significand. Both are counted
in the same unit, of which a quarter step takes `quarter`. -/
def isStoodForBy (number : Double) (quarter value : Nat) : Bool :=
  let low := (4 * number.significand - number.reachBelow) * quarter
  let high := (4 * number.significand + 2) * quarter
  if number.significand % 2 = 0 then low ≤ value && value ≤ high
  else low < value && value < high

/-- The multiple of a power of ten that stands for the number, the nearer one if
two do, and the greater one if they are equally near. -/
def multiple? (number : Double) (place : Int) : Option Nat :=
  let quarterExponent := number.exponent - 2
  let quarter := power 2 quarterExponent * power 10 (-place)
  let unit := power 10 place * power 2 (-quarterExponent)
  let value := 4 * number.significand * quarter
  let below := value / unit
  let stands := fun multiple => number.isStoodForBy quarter (multiple * unit)
  match stands below, stands (below + 1) with
  | true, true =>
    if 2 * value < (2 * below + 1) * unit then some below else some (below + 1)
  | true, false => some below
  | false, true => some (below + 1)
  | false, false => none

/-- The powers of ten that a number can be written in, the largest first. -/
def places : List Int :=
  (List.range 650).map fun (count : Nat) => 309 - (count : Int)

/-- The decimal number with the fewest digits that stands for the number. -/
def toDecimal (number : Double) : Decimal :=
  let written :=
    if number.isZero then none
    else
      places.findSome? fun place =>
        (number.multiple? place).map fun multiple => (multiple, place)
  match written with
  | some (multiple, place) => ⟨number.negative, multiple, place⟩
  | none => ⟨number.negative, 0, 0⟩

end Double

end PatternWorkbench
