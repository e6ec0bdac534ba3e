import PatternWorkbench.Report.Document
import PatternWorkbench.Report.Yaml.Scalar

/-!
# Documents as YAML

Fields and items stand on lines of their own, two spaces further in at each
level. The items of a list are not further in than the name it belongs to.
-/

namespace PatternWorkbench.Report.Yaml

def indentation (depth : Nat) : Text :=
  List.replicate depth ' '

/-- A member with the break that ends its last line. Some blocks have one of
their own. -/
def closed (member : Text) : Text :=
  if member.getLast?.any isBreak then member else member ++ ['\n']

/-- Members below each other. The last one is left open. -/
def stacked (depth : Nat) : List Text → Text
  | [] => []
  | [member] => member
  | member :: members =>
    closed member ++ indentation depth ++ stacked depth members

mutual

/-- A document whose first line begins at a depth. -/
def renderAt (depth : Nat) : Document → Text
  | .text text => scalar (indentation depth) text
  | .number number => decimal number
  | .flag flag => if flag then "true".toList else "false".toList
  | .list items =>
    if items.isEmpty then "[]".toList else stacked depth (renderItems depth items)
  | .record fields =>
    if fields.isEmpty then "\x7b\x7d".toList
    else stacked depth (renderFields depth fields)

def renderItems (depth : Nat) : List Document → List Text
  | [] => []
  | item :: items =>
    ("- ".toList ++ renderAt (depth + 2) item) :: renderItems depth items

/-- A document behind the name of a field. -/
def renderValue (depth : Nat) : Document → Text
  | .list (item :: items) =>
    ['\n'] ++ indentation depth ++
      stacked depth (renderItems depth (item :: items))
  | .record (field :: fields) =>
    ['\n'] ++ indentation (depth + 2) ++
      stacked (depth + 2) (renderFields (depth + 2) (field :: fields))
  | document => [' '] ++ renderAt (depth + 2) document

def renderFields (depth : Nat) : List (String × Document) → List Text
  | [] => []
  | (name, value) :: fields =>
    (name.toList ++ [':'] ++ renderValue depth value) :: renderFields depth fields

end

def render (document : Document) : Text :=
  renderAt 0 document

end PatternWorkbench.Report.Yaml
