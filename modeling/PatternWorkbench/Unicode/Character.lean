import PatternWorkbench.Unicode.BinaryProperty
import PatternWorkbench.Unicode.CharSet
import PatternWorkbench.Unicode.Letters
import PatternWorkbench.Unicode.MarksAndNumbers
import PatternWorkbench.Unicode.Newcomer
import PatternWorkbench.Unicode.Separators
import PatternWorkbench.Unicode.Symbols

/-!
# Classes of characters

The classes of characters that the rest of the library asks about, each read off
the tables of the standard. Patterns know decimals, blanks and words as sets;
questions about single characters of a text know the newcomers too.
-/

namespace PatternWorkbench.Unicode

/-- The tables whose members are alphabetic. -/
def alphabeticTables : List RangeTable :=
  [uppercaseLetter, lowercaseLetter, titlecaseLetter, modifierLetter,
    otherLetter, letterNumber, extraLowercase, extraUppercase, extraAlphabetic]

/-- The tables whose members make up words: letters, marks, digits, joining
punctuation and joining controls. -/
def wordTables : List RangeTable :=
  alphabeticTables ++
    [nonspacingMark, spacingMark, enclosingMark, decimalNumber,
      connectorPunctuation, joinControl]

namespace CharSet

/-- The decimal digits of every script. -/
def decimal : CharSet := ofTable decimalNumber

/-- The white space of every script. -/
def blank : CharSet := ofTable whiteSpace

/-- The characters that make up words. -/
def word : CharSet := ofTables wordTables

end CharSet

def isBlank (c : Char) : Bool :=
  CharSet.blank.mem c

def isDecimal (c : Char) : Bool :=
  CharSet.decimal.mem c

def isWord (c : Char) : Bool :=
  CharSet.word.mem c

theorem isWord_of_isDecimal {c : Char} (hdecimal : isDecimal c = true) :
    isWord c = true := by
  simp only [isDecimal, CharSet.decimal, CharSet.mem_ofTable] at hdecimal
  simp [isWord, CharSet.word, wordTables, RangeTable.anyHas, hdecimal]

def isAlphabetic (c : Char) : Bool :=
  RangeTable.anyHas (alphabeticTables ++ [newcomerAlphabetic]) c.toNat

def isAlphanumeric (c : Char) : Bool :=
  isAlphabetic c ||
    RangeTable.anyHas [decimalNumber, letterNumber, otherNumber, newcomerNumber]
      c.toNat

/-- The tables of the general categories whose members are written, blanks
among them. -/
def graphicTables : List RangeTable :=
  [uppercaseLetter, lowercaseLetter, titlecaseLetter, modifierLetter,
    otherLetter, nonspacingMark, spacingMark, enclosingMark, decimalNumber,
    letterNumber, otherNumber, connectorPunctuation, dashPunctuation,
    openPunctuation, closePunctuation, initialPunctuation, finalPunctuation,
    otherPunctuation, mathSymbol, currencySymbol, modifierSymbol, otherSymbol,
    spaceSeparator, lineSeparator, paragraphSeparator]

/-- The tables of every general category of assigned code points. -/
def assignedTables : List RangeTable :=
  graphicTables ++ [control, format, privateUse]

/-- The tables of assigned characters that have no visible form. -/
def invisibleTables : List RangeTable :=
  [spaceSeparator, lineSeparator, paragraphSeparator, control, format,
    privateUse]

/-- Letters that fill the place of one and show nothing. -/
def isFiller (c : Char) : Bool :=
  otherLetter.has c.toNat && extraIgnorable.has c.toNat

/-- A printable character shows as itself when a text is quoted. The space is
the only separator among them. -/
def isPrintable (c : Char) : Bool :=
  c = ' ' ||
    (RangeTable.anyHas (assignedTables ++ [newcomer]) c.toNat &&
      !RangeTable.anyHas invisibleTables c.toNat && !isFiller c)

/-- Characters that join the one before them. Halfwidth letters, which count as
extenders too, stand on their own. -/
def isGraphemeExtender (c : Char) : Bool :=
  RangeTable.anyHas [nonspacingMark, enclosingMark, extraGraphemeExtend,
      newcomerGraphemeExtend] c.toNat &&
    !modifierLetter.has c.toNat

def isAsciiPunctuation (c : Char) : Bool :=
  ('!' ≤ c && c ≤ '/') || (':' ≤ c && c ≤ '@') || ('[' ≤ c && c ≤ '\x60') ||
    ('{' ≤ c && c ≤ '~')

end PatternWorkbench.Unicode
