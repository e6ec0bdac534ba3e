import PatternWorkbench.Inference.Shape

/-!
# Recognition rules

A rule covers the beginning of a text that has its shape, if what follows agrees
with it. The order of the rules is the order in which they are tried.
-/

namespace PatternWorkbench.Inference

/-- What a rule asks of the text behind what it covers. -/
inductive Follow where
  | anything
  | blankOrEnd
  | wordEnd
  deriving DecidableEq, Repr

def Follow.agrees : Follow → Text → Bool
  | anything, _ => true
  | _, [] => true
  | blankOrEnd, c :: _ => Unicode.isBlank c
  | wordEnd, c :: _ => !Unicode.isWord c

inductive Rule where
  | ipv4
  | method
  | httpVersion
  | status
  | date
  | isoDate
  | time
  | timezone
  | path
  | digits
  | lowercase
  | uppercase
  | word
  | whitespace
  deriving DecidableEq, Repr

namespace Rule

/-- All rules, the first to be tried first. -/
def all : List Rule :=
  [ipv4, method, httpVersion, status, date, isoDate, time, timezone, path,
    digits, lowercase, uppercase, word, whitespace]

def name : Rule → String
  | ipv4 => "ipv4"
  | method => "method"
  | httpVersion => "http-version"
  | status => "status"
  | date => "date"
  | isoDate => "iso-date"
  | time => "time"
  | timezone => "timezone"
  | path => "path"
  | digits => "digits"
  | lowercase => "lowercase"
  | uppercase => "uppercase"
  | word => "word"
  | whitespace => "whitespace"

def shape : Rule → Shape
  | ipv4 => .ipv4
  | method => .httpMethod
  | httpVersion => .httpVersion
  | status => .statusCode
  | date => .dayMonthNameYear
  | isoDate => .isoDate
  | time => .time
  | timezone => .timezone
  | path => .path
  | digits => .manyOf .decimal
  | lowercase => .manyOf .lower
  | uppercase => .manyOf .upper
  | word => .manyOf .word
  | whitespace => .manyOf .blank

def follow : Rule → Follow
  | status => .blankOrEnd
  | method => .wordEnd
  | _ => .anything

/-- How many characters of the beginning of a text a rule covers. No rule covers
nothing. -/
def cover? (rule : Rule) (text : Text) : Option Nat := do
  let length ← rule.shape.cover? text
  if 0 < length && rule.follow.agrees (text.drop length) then
    return length
  else none

/-- The fragment for a covered text. A single space stands for itself. -/
def fragment (rule : Rule) (covered : Text) : Text :=
  if rule = whitespace ∧ covered = [' '] then [' '] else rule.shape.fragment

/-- What a rule covers is not empty and lies within the text. -/
theorem cover?_bounds {rule : Rule} {text : Text} {length : Nat}
    (hcover : rule.cover? text = some length) :
    0 < length ∧ length ≤ text.length := by
  simp only [cover?, Option.bind_eq_bind, Option.bind_eq_some_iff] at hcover
  obtain ⟨width, hshape, hfollow⟩ := hcover
  split at hfollow
  · rename_i hagrees
    simp only [Option.pure_def, Option.some.injEq] at hfollow
    simp only [Bool.and_eq_true, decide_eq_true_eq] at hagrees
    exact hfollow ▸ ⟨hagrees.1, Shape.cover?_le hshape⟩
  · simp at hfollow

end Rule

end PatternWorkbench.Inference
