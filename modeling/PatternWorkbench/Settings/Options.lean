import PatternWorkbench.Matching.Budget
import PatternWorkbench.Matching.Flags
import PatternWorkbench.Settings.Fault

/-!
# Options

The options that a configuration fixes, and how they are read from settings. A
value of another kind is taken for what it plainly stands for.
-/

namespace PatternWorkbench.Settings

open Matching (Budget Flags)

inductive Format where
  | text
  | json
  | yaml
  deriving DecidableEq, Repr

namespace Format

def name : Format → Text
  | text => "text".toList
  | json => "json".toList
  | yaml => "yaml".toList

/-- The format of a name, in letters of any case. -/
def named? (name : Text) : Option Format :=
  [text, json, yaml].find? (·.name == Key.lowerName name)

end Format

structure Options where
  budget : Budget := {}
  flags : Flags := { global := true }
  format : Format := .text
  deriving DecidableEq, Repr

namespace Options

def integer (value : Nat) : Setting :=
  .scalar .given (.integer value)

def flag (value : Bool) : Setting :=
  .scalar .given (.flag value)

/-- A section with values for its fields. -/
def sectionOf (part : Section) (values : List Setting) : Text × Setting :=
  (part.name, .table .given (part.fieldNames.zip values))

/-- The settings that options are read from. -/
def toSetting (options : Options) : Setting :=
  .table .given
    [sectionOf .matcher
        [integer options.budget.timeLimitMs, integer options.budget.maxMatches,
          integer options.budget.sizeLimit],
      sectionOf .flags
        [flag options.flags.global, flag options.flags.caseInsensitive,
          flag options.flags.multiline, flag options.flags.dotAll],
      sectionOf .output [.scalar .given (.text options.format.name)]]

/-- The truth value that a word stands for. -/
def word? (text : Text) : Option Bool :=
  if ["true", "on", "yes"].any (·.toList == text) then some true
  else if ["false", "off", "no"].any (·.toList == text) then some false
  else none

/-- The unsigned number of 64 bits that a text spells. -/
def unsigned? (text : Text) : Option Nat :=
  match numeral? 10 (withoutPlus text) with
  | some value => if value < 0x10000000000000000 then some value else none
  | none => none

def Fractional.toCount : Fractional → Nat
  | .finite value =>
    if value.negative then 0 else min value.rounded 0xffffffffffffffff
  | .infinite negative => if negative then 0 else 0xffffffffffffffff
  | .undefined => 0

/-- The number that a scalar stands for, or what should have been there. -/
def count : Scalar → Except Expected Nat
  | .integer value => if value < 0 then .error .unsigned else .ok value.toNat
  | .flag flag => .ok flag.toNat
  | .fraction value => .ok (Fractional.toCount value)
  | .text text =>
    match word? (Key.lowerName text), unsigned? text with
    | some flag, _ => .ok flag.toNat
    | none, some value => .ok value
    | none, none => .error .integer
  | .nothing => .error .integer

/-- The truth value that a scalar stands for. -/
def truth? : Scalar → Option Bool
  | .flag flag => some flag
  | .integer value => some (value != 0)
  | .fraction (.finite value) => some !value.isZero
  | .fraction _ => some true
  | .text text =>
    if text = ['1'] then some true
    else if text = ['0'] then some false
    else word? (Key.lowerName text)
  | .nothing => none

/-- A text that stands for no truth value is shown in lower case. -/
def lowered : Scalar → Scalar
  | .text text => .text (Key.lowerName text)
  | scalar => scalar

def readCount (part : Section) (place : Place) (setting : Setting) :
    Except Fault Nat :=
  let fail := fun expected =>
    .error (.badValue setting.source (.ofSetting setting) expected part place)
  match setting with
  | .scalar _ scalar =>
    match count scalar with
    | .ok value => .ok value
    | .error expected => fail expected
  | _ => fail .integer

def readFlag (part : Section) (place : Place) (setting : Setting) :
    Except Fault Bool :=
  let fail := fun found =>
    .error (.badValue setting.source found .boolean part place)
  match setting with
  | .scalar _ scalar =>
    match truth? scalar with
    | some flag => .ok flag
    | none => fail (.scalar (lowered scalar))
  | _ => fail (.ofSetting setting)

def readFormatName (name : Text) : Except Fault Format :=
  match Format.named? name with
  | some format => .ok format
  | none => .error (.unknownFormat name)

/-- A format is named by a text or by the only field of a table. -/
def readFormat (_ : Section) (_ : Place) (setting : Setting) :
    Except Fault Format :=
  match setting with
  | .scalar _ (.text name) => readFormatName name
  | .table _ [(name, _)] => readFormatName name
  | _ => .error .noFormat

/-- The settings of a section. -/
def sectionIn (part : Section) (settings : Setting) : Setting :=
  (settings.fields.lookup part.name).getD .nothing

/-- What stands for a section's field of a given number, and where. A list gives
the fields by position. -/
def find (part : Section) (settings : Setting) (index : Nat) :
    Except Fault (Option (Place × Setting)) :=
  match sectionIn part settings with
  | .scalar _ scalar => .error (.noSection scalar part)
  | .list _ items => .ok (items[index]?.map (.item index, ·))
  | .table _ fields =>
    let name := part.fieldNames[index]?.getD []
    .ok ((fields.lookup name).map (.field name, ·))

/-- The value of a field, if anything stands for it. -/
def optional {Value : Type} (part : Section) (settings : Setting) (index : Nat)
    (read : Section → Place → Setting → Except Fault Value) :
    Except Fault (Option Value) := do
  match ← find part settings index with
  | some (place, setting) => (read part place setting).map some
  | none => .ok none

/-- The value of a field that has to be there. -/
def require {Value : Type} (part : Section) (settings : Setting) (index : Nat) :
    Option Value → Except Fault Value
  | some value => .ok value
  | none =>
    match sectionIn part settings with
    | .list _ items => .error (.shortSection items.length part)
    | _ => .error (.missingField (part.fieldNames[index]?.getD []))

/-- The limits that settings fix. All that is there is read before it is asked
whether anything is missing. -/
def readBudget (settings : Setting) : Except Fault Budget := do
  let time ← optional .matcher settings 0 readCount
  let count ← optional .matcher settings 1 readCount
  let size ← optional .matcher settings 2 readCount
  return {
    timeLimitMs := ← require .matcher settings 0 time
    maxMatches := ← require .matcher settings 1 count
    sizeLimit := ← require .matcher settings 2 size }

def readFlags (settings : Setting) : Except Fault Flags := do
  let global ← optional .flags settings 0 readFlag
  let caseInsensitive ← optional .flags settings 1 readFlag
  let multiline ← optional .flags settings 2 readFlag
  let dotAll ← optional .flags settings 3 readFlag
  return {
    global := ← require .flags settings 0 global
    caseInsensitive := ← require .flags settings 1 caseInsensitive
    multiline := ← require .flags settings 2 multiline
    dotAll := ← require .flags settings 3 dotAll }

def readOutput (settings : Setting) : Except Fault Format := do
  let format ← optional .output settings 0 readFormat
  require .output settings 0 format

/-- The options that settings fix. -/
def ofSetting (settings : Setting) : Except Fault Options := do
  return {
    budget := ← readBudget settings
    flags := ← readFlags settings
    format := ← readOutput settings }

end Options

end PatternWorkbench.Settings
