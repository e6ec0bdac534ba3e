import PatternWorkbench.Report.Document
import PatternWorkbench.Report.Quotation

/-!
# Documents as JSON

Every item and field stands on a line of its own, indented by two spaces for each
level. Only quotes, backslashes and control characters are escaped.
-/

namespace PatternWorkbench.Report.Json

def escapeChar (c : Char) : Text :=
  match c with
  | '"' => ['\\', '"']
  | '\\' => ['\\', '\\']
  | '\x08' => ['\\', 'b']
  | '\t' => ['\\', 't']
  | '\n' => ['\\', 'n']
  | '\x0c' => ['\\', 'f']
  | '\r' => ['\\', 'r']
  | c =>
    if c.toNat < 32 then
      let digits := hexadecimal c.toNat
      ['\\', 'u'] ++ List.replicate (4 - digits.length) '0' ++ digits
    else [c]

def string (text : Text) : Text :=
  ['"'] ++ text.flatMap escapeChar ++ ['"']

def indentation (level : Nat) : Text :=
  List.replicate (2 * level) ' '

/-- Members between brackets, each on a line one level further in. -/
def enclosed (opening closing : Char) (level : Nat) (members : List Text) : Text :=
  if members.isEmpty then [opening, closing]
  else
    let lines := members.map fun member => indentation (level + 1) ++ member
    [opening, '\n'] ++ List.intercalate [',', '\n'] lines ++ ['\n'] ++
      indentation level ++ [closing]

mutual

def renderAt (level : Nat) : Document → Text
  | .text text => string text
  | .number number => decimal number
  | .flag flag => if flag then "true".toList else "false".toList
  | .list items => enclosed '[' ']' level (renderItems (level + 1) items)
  | .record fields => enclosed '{' '}' level (renderFields (level + 1) fields)

def renderItems (level : Nat) : List Document → List Text
  | [] => []
  | item :: items => renderAt level item :: renderItems level items

def renderFields (level : Nat) : List (String × Document) → List Text
  | [] => []
  | (name, value) :: fields =>
    (string name.toList ++ ": ".toList ++ renderAt level value) ::
      renderFields level fields

end

def render (document : Document) : Text :=
  renderAt 0 document

end PatternWorkbench.Report.Json
