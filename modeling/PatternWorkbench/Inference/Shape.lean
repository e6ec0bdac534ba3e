import PatternWorkbench.Text
import PatternWorkbench.Unicode.Character

/-!
# Shapes of text

A shape is a row of runs of one kind of character each, or a choice of words. It
can cover the beginning of a text, and it is written as a pattern fragment.
Neighbouring runs have no character in common or a fixed length, so taking as
many characters as allowed is never wrong.
-/

namespace PatternWorkbench.Inference

/-- The kinds of characters that runs are made of. -/
inductive Kind where
  | exact (c : Char)
  | decimal
  | word
  | blank
  | nonBlank
  | lower
  | upper
  | letter
  | oneToFive
  | sign
  | path
  | any
  deriving DecidableEq, Repr

namespace Kind

def holds : Kind → Char → Bool
  | exact expected, c => c == expected
  | decimal, c => Unicode.isDecimal c
  | word, c => Unicode.isWord c
  | blank, c => Unicode.isBlank c
  | nonBlank, c => !Unicode.isBlank c
  | lower, c => 'a' ≤ c && c ≤ 'z'
  | upper, c => 'A' ≤ c && c ≤ 'Z'
  | letter, c => ('A' ≤ c && c ≤ 'Z') || ('a' ≤ c && c ≤ 'z')
  | oneToFive, c => '1' ≤ c && c ≤ '5'
  | sign, c => c == '+' || c == '-'
  | path, c => !Unicode.isBlank c && c != '"'
  | any, c => c != '\n'

def fragment : Kind → Text
  | exact c => if c = '.' then ['\\', '.'] else [c]
  | decimal => "\\d".toList
  | word => "\\w".toList
  | blank => "\\s".toList
  | nonBlank => "\\S".toList
  | lower => "[a-z]".toList
  | upper => "[A-Z]".toList
  | letter => "[A-Za-z]".toList
  | oneToFive => "[1-5]".toList
  | sign => "[+-]".toList
  | path => "[^\\s\"]".toList
  | any => ['.']

end Kind

/-- How many characters a run may have. -/
inductive Count where
  | exactly (count : Nat)
  | between (low high : Nat)
  | oneOrMore
  | anyNumber
  deriving DecidableEq, Repr

namespace Count

def least : Count → Nat
  | exactly count => count
  | between low _ => low
  | oneOrMore => 1
  | anyNumber => 0

/-- How many of the available characters a run takes. -/
def most (available : Nat) : Count → Nat
  | exactly count => min available count
  | between _ high => min available high
  | oneOrMore | anyNumber => available

def suffix : Count → Text
  | exactly count => if count = 1 then [] else ['{'] ++ decimal count ++ ['}']
  | between low high =>
    ['{'] ++ decimal low ++ [','] ++ decimal high ++ ['}']
  | oneOrMore => ['+']
  | anyNumber => ['*']

theorem most_le (available : Nat) (count : Count) :
    count.most available ≤ available := by
  cases count <;> simp only [most] <;> omega

end Count

structure Run where
  kind : Kind
  count : Count
  deriving DecidableEq, Repr

namespace Run

/-- How many characters of the beginning of a text a run takes. -/
def cover? (run : Run) (text : Text) : Option Nat :=
  let taken := run.count.most (text.takeWhile run.kind.holds).length
  if taken < run.count.least then none else some taken

def fragment (run : Run) : Text :=
  run.kind.fragment ++ run.count.suffix

def one (kind : Kind) : Run := ⟨kind, .exactly 1⟩

end Run

inductive Shape where
  | row (runs : List Run)
  | oneOf (words : List Text)
  deriving DecidableEq, Repr

namespace Shape

def coverRow? : List Run → Text → Option Nat
  | [], _ => some 0
  | run :: runs, text => do
    let taken ← run.cover? text
    let later ← coverRow? runs (text.drop taken)
    return taken + later

/-- How many characters of the beginning of a text have the shape. -/
def cover? (shape : Shape) (text : Text) : Option Nat :=
  match shape with
  | row runs => coverRow? runs text
  | oneOf words => (words.find? (·.isPrefixOf text)).map List.length

/-- Whether a text has the shape as a whole. -/
def accepts (shape : Shape) (text : Text) : Bool :=
  shape.cover? text == some text.length

def fragment : Shape → Text
  | row runs => runs.flatMap Run.fragment
  | oneOf words => "(?:".toList ++ List.intercalate ['|'] words ++ [')']

theorem length_takeWhile_le (p : Char → Bool) (text : Text) :
    (text.takeWhile p).length ≤ text.length :=
  (List.takeWhile_prefix p).length_le

/-- A row covers no more than the text has. -/
theorem coverRow?_le {runs : List Run} {text : Text} {length : Nat}
    (hcover : coverRow? runs text = some length) : length ≤ text.length := by
  induction runs generalizing text length with
  | nil =>
      simp only [coverRow?, Option.some.injEq] at hcover
      omega
  | cons run runs ih =>
      simp only [coverRow?, Option.bind_eq_bind, Option.bind_eq_some_iff,
        Option.pure_def, Option.some.injEq] at hcover
      obtain ⟨taken, hfirst, later, hlater, rfl⟩ := hcover
      have hrest := ih hlater
      simp only [List.length_drop] at hrest
      simp only [Run.cover?] at hfirst
      split at hfirst
      · simp at hfirst
      · simp only [Option.some.injEq] at hfirst
        have hmost := Count.most_le (text.takeWhile run.kind.holds).length run.count
        have hwhile := length_takeWhile_le run.kind.holds text
        omega

/-- What has a shape lies within the text. -/
theorem cover?_le {shape : Shape} {text : Text} {length : Nat}
    (hcover : shape.cover? text = some length) : length ≤ text.length := by
  cases shape with
  | row runs => exact coverRow?_le hcover
  | oneOf words =>
      obtain ⟨word, hfound, rfl⟩ := Option.map_eq_some_iff.1 hcover
      have hprefix := List.find?_some hfound
      exact (List.isPrefixOf_iff_prefix.1 hprefix).length_le

/-! ## The shapes of server logs -/

/-- Four groups of one to three digits, with points between them. -/
def ipv4 : Shape :=
  let group : Run := ⟨.decimal, .between 1 3⟩
  let point := Run.one (.exact '.')
  row [group, point, group, point, group, point, group]

def statusCode : Shape :=
  row [.one .oneToFive, ⟨.decimal, .exactly 2⟩]

def httpMethod : Shape :=
  oneOf (["GET", "POST", "PUT", "DELETE", "PATCH", "HEAD", "OPTIONS", "CONNECT",
    "TRACE"].map String.toList)

def httpVersion : Shape :=
  row ("HTTP/".toList.map (fun c => Run.one (.exact c)) ++
    [.one .decimal, .one (.exact '.'), .one .decimal])

/-- A slash and everything up to the next blank or quote. -/
def path : Shape :=
  row [.one (.exact '/'), ⟨.path, .anyNumber⟩]

def time : Shape :=
  let two : Run := ⟨.decimal, .exactly 2⟩
  let colon := Run.one (.exact ':')
  row [two, colon, two, colon, two]

def timezone : Shape :=
  row [.one .sign, ⟨.decimal, .exactly 4⟩]

def dayMonthNameYear : Shape :=
  let slash := Run.one (.exact '/')
  row [⟨.decimal, .between 1 2⟩, slash, ⟨.letter, .exactly 3⟩, slash,
    ⟨.decimal, .exactly 4⟩]

def isoDate : Shape :=
  let dash := Run.one (.exact '-')
  row [⟨.decimal, .exactly 4⟩, dash, ⟨.decimal, .exactly 2⟩, dash,
    ⟨.decimal, .exactly 2⟩]

def dayMonthYear : Shape :=
  let slash := Run.one (.exact '/')
  let short : Run := ⟨.decimal, .between 1 2⟩
  row [short, slash, short, slash, ⟨.decimal, .exactly 4⟩]

/-- One or more characters of a kind. -/
def manyOf (kind : Kind) : Shape :=
  row [⟨kind, .oneOrMore⟩]

def anything : Shape :=
  row [⟨.any, .anyNumber⟩]

end Shape

end PatternWorkbench.Inference
