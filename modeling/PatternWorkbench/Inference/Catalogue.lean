import PatternWorkbench.Inference.Quoting
import PatternWorkbench.Inference.Shape

/-!
# The catalogue of abstractions

An isolated piece of a sample is looked up as a whole. The entries are asked in
order and the first that accepts the piece gives its fragment. The exact text is
only used when it is asked for by name.
-/

namespace PatternWorkbench.Inference

/-- The shapes of dates, the first to be tried first. -/
def dateShapes : List Shape :=
  [.dayMonthNameYear, .isoDate, .dayMonthYear]

/-- The fragment for a text that is a date as a whole. -/
def dateFragment? (text : Text) : Option Text :=
  (dateShapes.find? (·.accepts text)).map Shape.fragment

inductive Entry where
  | ipv4
  | status
  | method
  | path
  | date
  | time
  | digits
  | word
  | nonSpace
  | wildcard
  | literal
  deriving DecidableEq, Repr

namespace Entry

def id : Entry → String
  | ipv4 => "ipv4"
  | status => "status"
  | method => "method"
  | path => "path"
  | date => "date"
  | time => "time"
  | digits => "digits"
  | word => "word"
  | nonSpace => "non-space"
  | wildcard => "wildcard"
  | literal => "literal"

def label : Entry → String
  | ipv4 => "IP address"
  | status => "HTTP status code"
  | method => "HTTP method"
  | path => "Path"
  | date => "Date"
  | time => "Time"
  | digits => "Number"
  | word => "Word"
  | nonSpace => "Non-space run"
  | wildcard => "Anything"
  | literal => "Exact text"

/-- Whether an entry may be picked without being asked for. -/
def autoSelect : Entry → Bool
  | literal => false
  | _ => true

/-- Whether a text is one of an entry's texts. A word has a letter in it. -/
def accepts (entry : Entry) (text : Text) : Bool :=
  match entry with
  | ipv4 => Shape.ipv4.accepts text
  | status => Shape.statusCode.accepts text
  | method => Shape.httpMethod.accepts text
  | path => Shape.path.accepts text
  | date => (dateFragment? text).isSome
  | time => Shape.time.accepts text
  | digits => (Shape.manyOf .decimal).accepts text
  | word =>
    (Shape.manyOf .word).accepts text && text.any Unicode.isAlphabetic
  | nonSpace => (Shape.manyOf .nonBlank).accepts text
  | wildcard => (Shape.manyOf .any).accepts text
  | literal => !text.isEmpty

/-- The fragment an entry gives for a text, accepted or not. -/
def fragment (entry : Entry) (text : Text) : Text :=
  match entry with
  | ipv4 => Shape.ipv4.fragment
  | status => Shape.statusCode.fragment
  | method => Shape.httpMethod.fragment
  | path => Shape.path.fragment
  | date => (dateFragment? text).getD (quoted text)
  | time => Shape.time.fragment
  | digits => (Shape.manyOf .decimal).fragment
  | word => (Shape.manyOf .word).fragment
  | nonSpace => (Shape.manyOf .nonBlank).fragment
  | wildcard => Shape.anything.fragment
  | literal => quoted text

end Entry

/-- All entries, the first to be asked first. -/
def catalogue : List Entry :=
  [.ipv4, .status, .method, .path, .date, .time, .digits, .word, .nonSpace,
    .wildcard, .literal]

def named? (id : Text) : Option Entry :=
  catalogue.find? (·.id.toList == id)

/-- The fragment of the first entry that accepts a text unasked. -/
def classify? (text : Text) : Option Text :=
  (catalogue.find? fun entry => entry.autoSelect && entry.accepts text).map
    (·.fragment text)

/-- The fragment of the entry of a given name. -/
def classifyWith? (id text : Text) : Option Text :=
  (named? id).map (·.fragment text)

end PatternWorkbench.Inference
