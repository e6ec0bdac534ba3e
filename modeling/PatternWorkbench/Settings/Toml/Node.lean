import PatternWorkbench.Settings.Setting

/-!
# Tables under construction in TOML

A document builds its tables up statement by statement. Each table remembers how
it came to be, which decides what may still be added to it.
-/

namespace PatternWorkbench.Settings.Toml

inductive Origin where
  /-- By a heading of its own. -/
  | heading
  /-- On the way to the table of another heading. -/
  | passage
  /-- On the way to a value whose name has points. -/
  | points
  deriving DecidableEq, Repr

inductive Node where
  | value (setting : Setting)
  | table (origin : Origin) (nodes : List (Text × Node))
  | rows (rows : List (List (Text × Node)))

abbrev Nodes := List (Text × Node)

namespace Nodes

def put (name : Text) (node : Node) : Nodes → Nodes
  | [] => [(name, node)]
  | (other, kept) :: nodes =>
    if other = name then (name, node) :: nodes
    else (other, kept) :: put name node nodes

/-- Does `change` in the table that names lead to, and makes the tables that are
missing on the way. A name with points does not lead into a table that has a
heading, and of several rows the last is meant. -/
def within (pointed : Bool) (change : Origin → Nodes → Option Nodes) :
    List Text → Origin → Nodes → Option Nodes
  | [], origin, nodes => change origin nodes
  | name :: names, _, nodes =>
    match nodes.lookup name with
    | none =>
      let origin := if pointed then .points else .passage
      (within pointed change names origin []).map fun inner =>
        put name (.table origin inner) nodes
    | some (.table origin inner) =>
      if pointed ∧ origin = .heading then none
      else
        (within pointed change names origin inner).map fun inner =>
          put name (.table origin inner) nodes
    | some (.rows rows) =>
      match rows.getLast? with
      | none => none
      | some last =>
        (within pointed change names .heading last).map fun last =>
          put name (.rows (rows.dropLast ++ [last])) nodes
    | some (.value _) => none

/-- Begins the table of a heading. A table may get its heading after others have
led through it. -/
def openTable (name : Text) (nodes : Nodes) : Option Nodes :=
  match nodes.lookup name with
  | none => some (put name (.table .heading []) nodes)
  | some (.table .passage inner) => some (put name (.table .heading inner) nodes)
  | some _ => none

/-- Begins a further row of a table of rows. -/
def openRow (name : Text) (nodes : Nodes) : Option Nodes :=
  match nodes.lookup name with
  | none => some (put name (.rows [[]]) nodes)
  | some (.rows rows) => some (put name (.rows (rows ++ [[]])) nodes)
  | some _ => none

/-- Gives a name its value, once. -/
def define (name : Text) (value : Setting) (nodes : Nodes) : Option Nodes :=
  match nodes.lookup name with
  | none => some (put name (.value value) nodes)
  | some _ => none

/-- Gives a name with points its value. Only tables that came to be by points can
be added to in this way. -/
def assign (path : List Text) (value : Setting) (nodes : Nodes) : Option Nodes :=
  match path.getLast? with
  | none => none
  | some name =>
    within true
      (fun origin inner =>
        if path.length = 1 ∨ origin = .points then define name value inner
        else none)
      path.dropLast .heading nodes

end Nodes

mutual

def Node.toSetting (source : Source) : Node → Setting
  | .value setting => setting
  | .table _ nodes => .table source (Nodes.toFields source nodes)
  | .rows rows => .list source (Nodes.toRows source rows)

def Nodes.toFields (source : Source) : List (Text × Node) → List (Text × Setting)
  | [] => []
  | (name, node) :: nodes =>
    (name, Node.toSetting source node) :: Nodes.toFields source nodes

def Nodes.toRows (source : Source) : List (List (Text × Node)) → List Setting
  | [] => []
  | row :: rows => .table source (Nodes.toFields source row) :: Nodes.toRows source rows

end

end PatternWorkbench.Settings.Toml
