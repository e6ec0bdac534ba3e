import PatternWorkbench.Settings.Setting
import PatternWorkbench.Settings.Toml.Line

/-!
# Bare values in TOML

Truth values, numbers and points in time are written without quotes and reach as
far as their characters do.
-/

namespace PatternWorkbench.Settings.Toml

/-- Digits of a base with single underscores between them, without these. -/
def groupedDigits? (base : Nat) (text : Text) : Option Text :=
  let isDigit := fun c => (digitValue? c).any (· < base)
  let groups := text.splitOn '_'
  if groups.all fun group => !group.isEmpty && group.all isDigit then
    some groups.flatten
  else none

/-- Decimal digits that do not begin with a superfluous zero. -/
def wholeDigits? (text : Text) : Option Text := do
  let digits ← groupedDigits? 10 text
  match digits with
  | '0' :: _ :: _ => none
  | _ => some digits

def readSign : Text → Bool × Text
  | '-' :: rest => (true, rest)
  | text => (false, withoutPlus text)

/-- The unsigned number that a text spells in the base of its mark. -/
def markedInteger? : Text → Option Nat
  | '0' :: 'x' :: digits => groupedDigits? 16 digits >>= numeral? 16
  | '0' :: 'o' :: digits => groupedDigits? 8 digits >>= numeral? 8
  | '0' :: 'b' :: digits => groupedDigits? 2 digits >>= numeral? 2
  | _ => none

def decimalInteger? (text : Text) : Option Int := do
  let (negative, unsigned) := readSign text
  let magnitude ← wholeDigits? unsigned >>= numeral? 10
  return if negative then -magnitude else magnitude

/-- A whole number of 64 bits. -/
def integer? (text : Text) : Option Int := do
  let value ← ((markedInteger? text).map Int.ofNat).or (decimalInteger? text)
  if -0x8000000000000000 ≤ value ∧ value < 0x8000000000000000 then some value else none

/-- The exponent of a number, with its letter, or nothing at all. -/
def exponent? : Text → Option Text
  | [] => some []
  | c :: rest => do
    if c ≠ 'e' ∧ c ≠ 'E' then none
    let (negative, unsigned) := readSign rest
    let digits ← groupedDigits? 10 unsigned
    return ['e'] ++ (if negative then ['-'] else []) ++ digits

def isExponentMark (c : Char) : Bool :=
  c == 'e' || c == 'E'

/-- A number with a fraction, an exponent or both. One above all that can be held
is refused, and one below all of that is endless. -/
def measured? (text : Text) : Option Fractional := do
  let (negative, unsigned) := readSign text
  let mantissa := unsigned.takeWhile (!isExponentMark ·)
  let exponent ← exponent? (unsigned.dropWhile (!isExponentMark ·))
  let whole ← wholeDigits? (mantissa.takeWhile (· != '.'))
  let fraction ←
    match mantissa.dropWhile (· != '.') with
    | [] => some []
    | _ :: digits => (groupedDigits? 10 digits).map ('.' :: ·)
  if fraction.isEmpty ∧ exponent.isEmpty then none
  let value ← Decimal.read? (whole ++ fraction ++ exponent)
  match Double.ofDecimal? { value with negative } with
  | some value => some (.finite value)
  | none => if negative then some (.infinite true) else none

def fractional? (text : Text) : Option Fractional :=
  let (negative, unsigned) := readSign text
  if unsigned = "inf".toList then some (.infinite negative)
  else if unsigned = "nan".toList then some .undefined
  else measured? text

/-- The number that two digits spell. -/
def twoDigits? (a b : Char) : Option Nat :=
  if a.isDigit ∧ b.isDigit then numeral? 10 [a, b] else none

def isLeapYear (year : Nat) : Bool :=
  year % 4 == 0 && (year % 100 != 0 || year % 400 == 0)

def daysOf (year month : Nat) : Nat :=
  if month = 2 then if isLeapYear year then 29 else 28
  else if month = 4 ∨ month = 6 ∨ month = 9 ∨ month = 11 then 30
  else 31

/-- Whether a text begins with a date, and what follows it. -/
def date? : Text → Option (Text × Text)
  | y₁ :: y₂ :: y₃ :: y₄ :: '-' :: m₁ :: m₂ :: '-' :: d₁ :: d₂ :: rest => do
    let century ← twoDigits? y₁ y₂
    let year ← twoDigits? y₃ y₄
    let month ← twoDigits? m₁ m₂
    let day ← twoDigits? d₁ d₂
    if 1 ≤ month ∧ month ≤ 12 ∧ 1 ≤ day ∧ day ≤ daysOf (100 * century + year) month
    then
      some ([y₁, y₂, y₃, y₄, '-', m₁, m₂, '-', d₁, d₂], rest)
    else none
  | _ => none

/-- Whether a text begins with hours and minutes, and what follows them. -/
def clock? : Text → Option (Text × Text)
  | h₁ :: h₂ :: ':' :: m₁ :: m₂ :: rest => do
    let hour ← twoDigits? h₁ h₂
    let minute ← twoDigits? m₁ m₂
    if hour < 24 ∧ minute < 60 then some ([h₁, h₂, ':', m₁, m₂], rest) else none
  | _ => none

/-- The most digits of a fraction of a second. -/
def fractionDigits : Nat := 9

/-- A fraction of a second with its point, unless there is nothing to it. -/
def secondFraction (digits : Text) : Text :=
  let kept := (digits.take fractionDigits).reverse.dropWhile (· == '0')
  if kept.isEmpty then [] else '.' :: kept.reverse

/-- Whether a text begins with a time of day, and what follows it. -/
def time? (text : Text) : Option (Text × Text) := do
  let (minutes, behind) ← clock? text
  match behind with
  | ':' :: s₁ :: s₂ :: rest =>
    let second ← twoDigits? s₁ s₂
    if 60 < second then none
    let whole := minutes ++ [':', s₁, s₂]
    match rest with
    | '.' :: rest =>
      let digits := rest.takeWhile Char.isDigit
      if digits.isEmpty then none
      return (whole ++ secondFraction digits, rest.dropWhile Char.isDigit)
    | _ => return (whole, rest)
  | _ => none

/-- An offset from universal time, or nothing at all. -/
def offset? : Text → Option Text
  | [] => some []
  | ['Z'] | ['z'] => some ['Z']
  | c :: rest =>
    if c = '+' ∨ c = '-' then do
      let (minutes, behind) ← clock? rest
      if !behind.isEmpty then none
      else if minutes = "00:00".toList then some ('+' :: minutes)
      else some (c :: minutes)
    else none

/-- A time of day with an optional offset, as a whole. -/
def timeWithOffset? (text : Text) : Option Text := do
  let (time, behind) ← time? text
  let offset ← offset? behind
  return time ++ offset

/-- A point in time, as a whole: a date, a time of day, or both with an optional
offset. -/
def moment? (text : Text) : Option Text :=
  match date? text with
  | some (date, []) => some date
  | some (date, c :: rest) =>
    if c = 'T' ∨ c = 't' ∨ c = ' ' then
      (timeWithOffset? rest).map fun time => date ++ ['T'] ++ time
    else none
  | none =>
    match time? text with
    | some (time, []) => some time
    | _ => none

/-- The value that a bare text stands for. -/
def atom? (text : Text) : Option Scalar :=
  if text = "true".toList then some (.flag true)
  else if text = "false".toList then some (.flag false)
  else
    ((moment? text).map .text).or
      (((integer? text).map .integer).or ((fractional? text).map .fraction))

def isAtomChar (c : Char) : Bool :=
  c.isAlphanum || c == '_' || c == '+' || c == '-' || c == '.' || c == ':'

/-- The value at the beginning of a text. A date takes the time behind a blank
along. -/
def readAtom? (text : Text) : Option (Scalar × Text) :=
  let token := text.takeWhile isAtomChar
  let behind := text.dropWhile isAtomChar
  let joined :=
    match date? token, behind with
    | some (_, []), ' ' :: rest => moment? (token ++ ' ' :: rest.takeWhile isAtomChar)
    | _, _ => none
  match joined with
  | some moment => some (.text moment, (behind.drop 1).dropWhile isAtomChar)
  | none => (atom? token).map (·, behind)

theorem date?_nil : date? [] = none := rfl

theorem atom?_nil : atom? [] = none := rfl

theorem shortens_readAtom? : Shortens readAtom? := by
  intro text atom rest hread
  have htoken : ¬ (text.takeWhile isAtomChar).isEmpty = true := by
    intro hempty
    simp only [readAtom?, List.isEmpty_iff.1 hempty, date?_nil, atom?_nil] at hread
    contradiction
  have hlt := length_dropWhile_lt htoken
  unfold readAtom? at hread
  dsimp only at hread
  split at hread
  case h_1 =>
    obtain ⟨_, rfl⟩ := Prod.mk.inj (Option.some.inj hread)
    have hle := length_dropWhile_le isAtomChar ((text.dropWhile isAtomChar).drop 1)
    rw [List.length_drop] at hle
    omega
  case h_2 =>
    obtain ⟨_, _, heq⟩ := Option.map_eq_some_iff.1 hread
    obtain ⟨_, rfl⟩ := Prod.mk.inj heq
    exact hlt

end PatternWorkbench.Settings.Toml
