import PatternWorkbench.Breakdown.Lexeme
import PatternWorkbench.Unicode.Character

/-!
# Notes on lexemes

A short phrase says what a lexeme stands for. A literal speaks for itself.
-/

namespace PatternWorkbench.Breakdown

namespace Note

def groupOpen : Text := "start of capturing group".toList

def unclosedClass : Text := "unterminated character class".toList

def loneBackslash : Text := "trailing backslash".toList

/-- The name in the text of a group opener: what stands between its first
opening angle and its closing one. -/
def groupName (opener : Text) : Text :=
  ((opener.dropWhile (· != '<')).drop 1).dropLast

/-- What stands between the first and the last character of a text. -/
def inner (text : Text) : Text :=
  (text.drop 1).dropLast

/-- The phrase for an escaped letter that has a meaning of its own. -/
def knownEscape? : Char → Option String
  | 'd' => some "digit"
  | 'D' => some "non-digit"
  | 'w' => some "word character (letter, digit, underscore)"
  | 'W' => some "non-word character"
  | 's' => some "whitespace"
  | 'S' => some "non-whitespace"
  | 'b' => some "word boundary"
  | 'B' => some "non-word boundary"
  | 'n' => some "newline"
  | 't' => some "tab"
  | 'r' => some "carriage return"
  | 'A' => some "start of text"
  | 'z' => some "end of text"
  | _ => none

def escape (escaped : Char) : Text :=
  match knownEscape? escaped with
  | some phrase => phrase.toList
  | none =>
    let kind :=
      if Unicode.isAsciiPunctuation escaped then "literal" else "escaped character"
    kind.toList ++ [' ', '\'', escaped, '\'']

def characterClass (items : Text) : Text :=
  match items with
  | '^' :: excluded => "any character except ".toList ++ excluded
  | _ => "one of ".toList ++ items

/-- The phrase for the bounds of a repetition. -/
def bounds (text : Text) : Text :=
  let low := text.takeWhile (· != ',')
  match text.dropWhile (· != ',') with
  | [] => "exactly ".toList ++ low ++ " times".toList
  | [_] => low ++ " or more times".toList
  | _ :: high =>
    "between ".toList ++ low ++ " and ".toList ++ high ++ " times".toList

def quantifier (text : Text) : Text :=
  match text with
  | ['*'] => "zero or more".toList
  | ['+'] => "one or more".toList
  | ['?'] => "optional (zero or one)".toList
  | _ => bounds (inner text)

end Note

def Lexeme.note? (lexeme : Lexeme) (text : Text) : Option Text :=
  match lexeme with
  | namedGroupOpen =>
    some ("start of named group '".toList ++ Note.groupName text ++ ['\''])
  | nonCapturingOpen => some "start of non-capturing group".toList
  | groupOpen => some Note.groupOpen
  | groupClose => some "end of group".toList
  | escape => some (Note.escape (text[1]?.getD '\\'))
  | characterClass => some (Note.characterClass (Note.inner text))
  | quantifier => some (Note.quantifier text)
  | anchor =>
    let edge := if text = ['^'] then "start" else "end"
    some (edge.toList ++ " of text (or line in multiline mode)".toList)
  | alternation => some "or".toList
  | wildcard => some "any character".toList
  | literal => none

end PatternWorkbench.Breakdown
