import PatternWorkbench.Report.Quotation
import PatternWorkbench.Report.Yaml.Typed

/-!
# Texts as YAML scalars

A text is written bare if it reads back as itself, in single quotes if nothing in
it has to be escaped, in double quotes otherwise. A text with line feeds is
written as a block of lines if it can be.
-/

namespace PatternWorkbench.Report.Yaml

def isBreak (c : Char) : Bool :=
  c == '\n' || c == '\r' || c == '\u0085' || c == '\u2028' || c == '\u2029'

/-- Whether a character ends a word: a blank, a break or nothing at all. -/
def endsWord (c : Char) : Bool :=
  c == ' ' || c == '\t' || isBreak c || c == '\x00'

def isPrintable (c : Char) : Bool :=
  c == '\n' || (' ' ≤ c && c ≤ '~') || ('\u00a0' ≤ c && c != '\ufeff' &&
    c != '\ufffe' && c != '\uffff')

/-- The characters that mean something at the beginning of a scalar. -/
def isIndicator (c : Char) : Bool :=
  "#,[]\x7b\x7d&*!|>'\"%@\x60".toList.contains c

/-- Whether the first character of a text means something there, given what
follows it. -/
def beginsWithIndicator : Text → Bool
  | [] => false
  | c :: rest =>
    isIndicator c ||
      ((c == '?' || c == ':' || c == '-') && rest.head?.all endsWord)

/-- Whether a text that continues a scalar has a colon before a blank or a
number sign behind one. -/
def hasInnerIndicator (previous : Char) : Text → Bool
  | [] => false
  | c :: rest =>
    (c == ':' && rest.head?.all endsWord) || (c == '#' && endsWord previous) ||
      hasInnerIndicator c rest

def hasIndicator (text : Text) : Bool :=
  "---".toList.isPrefixOf text || "...".toList.isPrefixOf text ||
    beginsWithIndicator text ||
    match text with
    | [] => false
    | c :: rest => hasInnerIndicator c rest

/-- Whether a text has a character of the first kind before one of the second. -/
def hasPair (first second : Char → Bool) : Text → Bool
  | c :: d :: rest => (first c && second d) || hasPair first second (d :: rest)
  | _ => false

def isSpace (c : Char) : Bool := c == ' '

def isSpaceOrBreak (c : Char) : Bool := isSpace c || isBreak c

/-- Whether some character cannot stand outside double quotes. -/
def needsEscapes (text : Text) : Bool :=
  text.any (!isPrintable ·) || hasPair isSpace isBreak text

def singleQuotable (text : Text) : Bool :=
  !needsEscapes text && !hasPair isBreak isSpace text

def isBare (text : Text) : Bool :=
  singleQuotable text && !text.any isBreak && !hasIndicator text &&
    !text.head?.any isSpaceOrBreak && !text.getLast?.any isSpaceOrBreak &&
    !isTyped text

def isBlock (text : Text) : Bool :=
  text.contains '\n' && !needsEscapes text && !text.getLast?.any isSpace

/-- Lines after which the next begins with an indentation, blank ones apart. -/
def indented (indentation : Text) (afterBreak : Bool) : Text → Text
  | [] => []
  | c :: rest =>
    if isBreak c then c :: indented indentation true rest
    else if afterBreak then
      indentation ++ c :: indented indentation false rest
    else c :: indented indentation false rest

def singleQuoted (indentation text : Text) : Text :=
  let doubled := text.flatMap fun c => if c == '\'' then [c, c] else [c]
  let closing := if text.getLast?.any isBreak then indentation else []
  ['\''] ++ indented indentation false doubled ++ closing ++ ['\'']

def upperHexadecimal (width n : Nat) : Text :=
  let digits := (hexadecimal n).map Char.toUpper
  List.replicate (width - digits.length) '0' ++ digits

/-- The letter that stands behind a backslash for a character. -/
def escapeLetter? : Char → Option Char
  | '\x00' => some '0'
  | '\x07' => some 'a'
  | '\x08' => some 'b'
  | '\t' => some 't'
  | '\n' => some 'n'
  | '\x0b' => some 'v'
  | '\x0c' => some 'f'
  | '\r' => some 'r'
  | '\x1b' => some 'e'
  | '"' => some '"'
  | '\\' => some '\\'
  | '\u0085' => some 'N'
  | '\u2028' => some 'L'
  | '\u2029' => some 'P'
  | _ => none

def escapeChar (c : Char) : Text :=
  match escapeLetter? c with
  | some letter => ['\\', letter]
  | none =>
    if isPrintable c then [c]
    else if c.toNat ≤ 0xff then ['\\', 'x'] ++ upperHexadecimal 2 c.toNat
    else ['\\', 'u'] ++ upperHexadecimal 4 c.toNat

def doubleQuoted (text : Text) : Text :=
  ['"'] ++ text.flatMap escapeChar ++ ['"']

/-- What follows the bar of a block: the depth of its indentation where its first
line does not show it, and what becomes of the breaks at its end. -/
def blockHints (text : Text) : Text :=
  let depth := if text.head?.any isSpaceOrBreak then ['2'] else []
  let ending :=
    match text.reverse with
    | [] => ['-']
    | last :: others =>
      if !isBreak last then ['-'] else if others.head?.all isBreak then ['+'] else []
  depth ++ ending

def block (indentation text : Text) : Text :=
  ['|'] ++ blockHints text ++ ['\n'] ++ indented indentation true text

def scalar (indentation text : Text) : Text :=
  if isBlock text then block indentation text
  else if text.contains '\n' then doubleQuoted text
  else if isBare text then text
  else if singleQuotable text then singleQuoted indentation text
  else doubleQuoted text

end PatternWorkbench.Report.Yaml
