import PatternWorkbench.Settings.Key

/-!
# Laying settings over one another

A table laid over a setting is merged into it field by field, and anything else
replaces it. On the way to a key whatever stands in the way is replaced.
-/

namespace PatternWorkbench.Settings

namespace Setting

mutual

/-- A setting laid over one that may be there already. -/
def laidOver (below : Option Setting) : Setting → Setting
  | .scalar source value => .scalar source value
  | .list source items => .list source items
  | .table _ fields => fieldsOver (below.getD (.table .given [])) fields

/-- Fields laid over a setting, which is made a table by the first of them. -/
def fieldsOver (below : Setting) : List (Text × Setting) → Setting
  | [] => below
  | (name, value) :: fields =>
    let name := Key.lowerName name
    let merged := value.laidOver (below.fields.lookup name)
    fieldsOver (below.withField name merged) fields

end

/-- The position that an index means in a list. A negative one counts from the
end. -/
def position (index : Int) (length : Nat) : Nat :=
  (if index < 0 then index + length else index).toNat

/-- Lays a value over what steps lead to. -/
def layAt (value : Setting) : List KeyStep → Option Setting → Setting
  | [], below => value.laidOver below
  | .field name :: steps, below =>
    let below := below.getD nothing
    let name := Key.lowerName name
    below.withField name (layAt value steps (below.fields.lookup name))
  | .item index :: steps, below =>
    let below := below.getD nothing
    let place := position index below.items.length
    below.withItem place (layAt value steps below.items[place]?)

def lay (key : Key) (value : Setting) (below : Setting) : Setting :=
  layAt value (.field key.root :: key.steps) (some below)

end Setting

end PatternWorkbench.Settings
