import PatternWorkbench.Double

/-!
# Texts that would be read as something else

A bare scalar can be read as a truth value, as nothing, or as a number. A text
that spells one of these has to be quoted.
-/

namespace PatternWorkbench.Report.Yaml

/-- The spellings of truth values and of nothing. -/
def reserved : List Text :=
  ["true", "True", "TRUE", "false", "False", "FALSE", "null", "Null", "NULL",
    "~"].map String.toList

def withoutSign : Text → Text
  | '-' :: rest => rest
  | text => withoutPlus text

/-- Digits that begin with a superfluous zero. -/
def isZeroPadded (text : Text) : Bool :=
  match withoutSign text with
  | '0' :: c :: rest => (c :: rest).all Char.isDigit
  | _ => false

/-- The base that a mark behind a leading zero stands for. -/
def markedBase? : Char → Option Nat
  | 'x' => some 16
  | 'o' => some 8
  | 'b' => some 2
  | _ => none

/-- Whether a text is a whole number of at most 128 bits in a marked base. -/
def isMarkedInteger (text : Text) : Bool :=
  let (limit, unsigned) :=
    match text with
    | '-' :: rest => (Nat.pow 2 127 + 1, rest)
    | _ => (Nat.pow 2 128, withoutPlus text)
  match unsigned with
  | '0' :: mark :: digits =>
    match markedBase? mark with
    | some base => (numeral? base digits).any (· < limit)
    | none => false
  | _ => false

/-- Whether a text is a decimal number or one of the special numbers. -/
def isNumber (text : Text) : Bool :=
  [".inf", ".Inf", ".INF"].any (·.toList == withoutSign text) ||
    [".nan", ".NaN", ".NAN"].any (·.toList == text) ||
    (Decimal.read? text).any fun number => (Double.ofDecimal? number).isSome

/-- Whether a bare text would be read as a value that is not a text. -/
def isTyped (text : Text) : Bool :=
  text.isEmpty || reserved.contains text || isZeroPadded text ||
    isMarkedInteger text || isNumber text

end PatternWorkbench.Report.Yaml
