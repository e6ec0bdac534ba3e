import PatternWorkbench.Settings.Setting

/-!
# Keys

A key names a setting by the way to it from the root: a name, then names of
fields and positions in lists. Names differ by more than case.
-/

namespace PatternWorkbench.Settings

inductive KeyStep where
  | field (name : Text)
  | item (index : Int)
  deriving DecidableEq, Repr

structure Key where
  root : Text
  steps : List KeyStep
  deriving DecidableEq, Repr

/-- What stands in a key in the wrong place or not at all. -/
inductive KeyFault where
  | name
  | mark
  | digit
  | position
  deriving DecidableEq, Repr

def KeyFault.message : KeyFault → Text
  | name => "IsA".toList
  | mark => "Char".toList
  | digit => "Digit".toList
  | position => "Map on Result".toList

namespace Key

def isNameChar (c : Char) : Bool :=
  c.isAlphanum || c == ' ' || c == '_' || c == '-'

def lowerName (name : Text) : Text :=
  Unicode.lowercaseText name

/-- A name at the beginning of a text, and the text behind it. -/
def readName? (text : Text) : Option (Text × Text) :=
  let name := text.takeWhile isNameChar
  if name.isEmpty then none else some (name, text.dropWhile isNameChar)

def dropSpaces (text : Text) : Text :=
  text.dropWhile fun c => c == ' ' || c == '\t'

/-- A position in brackets, given what follows the opening one. -/
def readPosition (text : Text) : Except KeyFault (Int × Text) :=
  let (negative, unsigned) :=
    match dropSpaces text with
    | '-' :: rest => (true, rest)
    | rest => (false, rest)
  match numeral? 10 (unsigned.takeWhile Char.isDigit) with
  | none => .error .digit
  | some magnitude =>
    if (if negative then 0x8000000000000000 else 0x7fffffffffffffff) < magnitude then
      .error .position
    else
      match dropSpaces (unsigned.dropWhile Char.isDigit) with
      | ']' :: rest => .ok (if negative then -magnitude else magnitude, rest)
      | _ => .error .mark

/-- The step at the beginning of a text. A point without a name behind it is no
step. -/
def readStep (text : Text) : Except KeyFault (KeyStep × Text) :=
  match text with
  | '.' :: rest =>
    match readName? rest with
    | some (name, rest) => .ok (.field name, rest)
    | none => .error .mark
  | '[' :: rest =>
    (readPosition rest).map fun (index, rest) => (.item index, rest)
  | _ => .error .mark

/-- The steps of a text, each of which has to bring its end nearer. -/
def readSteps (text : Text) : Except KeyFault (List KeyStep) :=
  if text.isEmpty then .ok []
  else
    match readStep text with
    | .error fault => .error fault
    | .ok (step, rest) =>
      if _ : rest.length < text.length then (readSteps rest).map (step :: ·)
      else .error .mark
termination_by text.length

def read (text : Text) : Except KeyFault Key :=
  match readName? text with
  | none => .error .name
  | some (root, rest) => (readSteps rest).map ({ root, steps := · })

end Key

end PatternWorkbench.Settings
