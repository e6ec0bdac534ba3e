import PatternWorkbench.Report.Quotation
import PatternWorkbench.Settings.Key

/-!
# What can be wrong with a configuration

A file can be missing or malformed, a key can be unreadable, and a setting can be
of a kind that its place has no use for.

Of a malformed file only its path is told. The line and the column at which the
reading broke off, and what was expected there, are not kept.
-/

namespace PatternWorkbench.Settings

open Report (quote)

inductive Section where
  | matcher
  | flags
  | output
  deriving DecidableEq, Repr

namespace Section

def name : Section → Text
  | matcher => "matcher".toList
  | flags => "flags".toList
  | output => "output".toList

def fieldNames : Section → List Text
  | matcher => ["time_limit_ms", "max_matches", "size_limit"].map String.toList
  | flags =>
    ["global", "case_insensitive", "multiline", "dot_all"].map String.toList
  | output => ["format".toList]

/-- The name of a section as a kind of record. -/
def title : Section → Text
  | matcher => "MatcherConfig".toList
  | flags => "FlagsConfig".toList
  | output => "OutputConfig".toList

end Section

/-- Where in a section a setting stands. -/
inductive Place where
  | field (name : Text)
  | item (index : Nat)
  deriving DecidableEq, Repr

def Place.path (place : Place) (part : Section) : Text :=
  match place with
  | field name => part.name ++ ['.'] ++ name
  | item index => part.name ++ ['['] ++ decimal index ++ [']']

/-- What was found in the place of something else. -/
inductive Found where
  | scalar (scalar : Scalar)
  | list
  | table
  deriving DecidableEq, Repr

def Found.ofSetting : Setting → Found
  | .scalar _ value => scalar value
  | .list .. => list
  | .table .. => table

inductive Expected where
  | boolean
  | integer
  | unsigned
  deriving DecidableEq, Repr

def Expected.message : Expected → Text
  | boolean => "a boolean".toList
  | integer => "an integer".toList
  | unsigned => "an unsigned 64 bit or less integer".toList

def integerText (value : Int) : Text :=
  (if value < 0 then ['-'] else []) ++ decimal value.natAbs

def Fractional.message : Fractional → Text
  | finite value => value.toDecimal.plain
  | infinite negative => (if negative then ['-'] else []) ++ "inf".toList
  | undefined => "NaN".toList

/-- A kind of value with the value itself between accents. -/
def shown (kind : String) (value : Text) : Text :=
  kind.toList ++ [' ', '\x60'] ++ value ++ ['\x60']

/-- A scalar with its kind. How whole numbers are called depends on where they
stand. -/
def Scalar.message (integers : String) : Scalar → Text
  | nothing => "unit value".toList
  | flag value => shown "boolean" (if value then "true".toList else "false".toList)
  | integer value => shown integers (integerText value)
  | fraction value => shown "floating point" value.message
  | text value => "string ".toList ++ quote value

def Found.message : Found → Text
  | scalar value => value.message "64-bit integer"
  | list => "sequence".toList
  | table => "map".toList

inductive Fault where
  | missingFile (path : Text)
  | malformedFile (path : Text)
  | badKey (fault : KeyFault)
  | badValue (source : Source) (found : Found) (expected : Expected)
    (part : Section) (place : Place)
  | noSection (found : Scalar) (part : Section)
  | shortSection (length : Nat) (part : Section)
  | missingField (name : Text)
  | unknownFormat (name : Text)
  | noFormat
  deriving DecidableEq, Repr

def structTitle (part : Section) : Text :=
  "struct ".toList ++ part.title

def Fault.message : Fault → Text
  | missingFile path =>
    "configuration file \"".toList ++ path ++ "\" not found".toList
  | malformedFile path => "TOML parse error in ".toList ++ path
  | badKey fault => fault.message
  | badValue source found expected part place =>
    let origin :=
      match source with
      | .file path => " in ".toList ++ path
      | .given => []
    "invalid type: ".toList ++ found.message ++ ", expected ".toList ++
      expected.message ++ " for key \x60".toList ++ place.path part ++ ['\x60'] ++
      origin
  | noSection found part =>
    "invalid type: ".toList ++ found.message "integer" ++ ", expected ".toList ++
      structTitle part
  | shortSection length part =>
    let count := part.fieldNames.length
    "invalid length ".toList ++ decimal length ++ ", expected ".toList ++
      structTitle part ++ " with ".toList ++ decimal count ++
      (if count = 1 then " element" else " elements").toList
  | missingField name => "missing field \x60".toList ++ name ++ ['\x60']
  | unknownFormat name =>
    "enum OutputFormat does not have variant constructor ".toList ++ name
  | noFormat =>
    "value of enum OutputFormat should be represented by either string or ".toList ++
      "table with exactly one key".toList

end PatternWorkbench.Settings
