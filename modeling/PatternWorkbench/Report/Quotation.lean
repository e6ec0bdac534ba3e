import PatternWorkbench.Text
import PatternWorkbench.Unicode.Character

/-!
# Quoted texts

A quoted text stands on one line and can be told apart from every other. What
would not show as itself is written with a backslash.
-/

namespace PatternWorkbench.Report

def hexadecimal (n : Nat) : Text :=
  Nat.toDigits 16 n

/-- Whether a character is written as it is inside quotes. A mark that would
join the character before it is not. -/
def showsAsItself (c : Char) : Bool :=
  Unicode.isPrintable c && !Unicode.isGraphemeExtender c

def quoteChar (c : Char) : Text :=
  match c with
  | '"' => ['\\', '"']
  | '\\' => ['\\', '\\']
  | '\n' => ['\\', 'n']
  | '\r' => ['\\', 'r']
  | '\t' => ['\\', 't']
  | '\x00' => ['\\', '0']
  | c =>
    if showsAsItself c then [c]
    else ['\\', 'u', '{'] ++ hexadecimal c.toNat ++ ['}']

def quote (text : Text) : Text :=
  ['"'] ++ text.flatMap quoteChar ++ ['"']

/-- A text without the blanks at its end. -/
def trimEnd (text : Text) : Text :=
  (text.reverse.dropWhile Unicode.isBlank).reverse

end PatternWorkbench.Report
