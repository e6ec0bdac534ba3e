import PatternWorkbench.Double
import PatternWorkbench.Unicode.Character
import PatternWorkbench.Unicode.Lowercase

/-!
# Settings

Configuration before it is given its meaning: a tree of named values. Names are
kept in lower case, and each value remembers the file it was read from.
-/

namespace PatternWorkbench.Settings

/-- A number with a fraction. -/
inductive Fractional where
  | finite (value : Double)
  | infinite (negative : Bool)
  | undefined
  deriving DecidableEq, Repr

inductive Scalar where
  | nothing
  | flag (flag : Bool)
  | integer (value : Int)
  | fraction (value : Fractional)
  | text (text : Text)
  deriving DecidableEq, Repr

inductive Source where
  | file (path : Text)
  | given
  deriving DecidableEq, Repr

inductive Setting where
  | scalar (source : Source) (scalar : Scalar)
  | list (source : Source) (items : List Setting)
  | table (source : Source) (fields : List (Text × Setting))

/-- A scalar that stands in no file. -/
instance : Coe Scalar Setting :=
  ⟨.scalar .given⟩

abbrev Fields := List (Text × Setting)

namespace Setting

def nothing : Setting :=
  scalar .given .nothing

def source : Setting → Source
  | scalar source _ => source
  | list source _ => source
  | table source _ => source

/-- The fields of a table. Everything else has none. -/
def fields : Setting → Fields
  | table _ fields => fields
  | _ => []

/-- The items of a list. Everything else has none. -/
def items : Setting → List Setting
  | list _ items => items
  | _ => []

end Setting

namespace Fields

/-- Puts a value under a name, in place of the one that is there. -/
def put (name : Text) (value : Setting) : Fields → Fields
  | [] => [(name, value)]
  | (other, kept) :: fields =>
    if other = name then (name, value) :: fields
    else (other, kept) :: put name value fields

end Fields

namespace Setting

/-- A table with a value under a name. What is not a table becomes an empty one
first. -/
def withField (setting : Setting) (name : Text) (value : Setting) : Setting :=
  match setting with
  | table source fields => table source (Fields.put name value fields)
  | _ => table .given [(name, value)]

/-- A list with a value at a position, filled up with nothing as far as it is too
short. What is not a list becomes an empty one first. -/
def withItem (setting : Setting) (place : Nat) (value : Setting) : Setting :=
  match setting with
  | list source items =>
    let filled := items ++ List.replicate (place + 1 - items.length) nothing
    list source (filled.set place value)
  | _ => list .given (List.replicate place nothing ++ [value])

end Setting

end PatternWorkbench.Settings
