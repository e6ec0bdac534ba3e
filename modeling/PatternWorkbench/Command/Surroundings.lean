import PatternWorkbench.Text

/-!
# Surroundings

What the program can read besides its arguments: files and the standard input.
-/

namespace PatternWorkbench.Command

inductive ReadFault where
  | notFound
  | notDirectory
  | isDirectory
  | nameTooLong
  | other (message : Text)
  deriving DecidableEq, Repr

def ReadFault.message : ReadFault → Text
  | notFound => "No such file or directory (os error 2)".toList
  | notDirectory => "Not a directory (os error 20)".toList
  | isDirectory => "Is a directory (os error 21)".toList
  | nameTooLong => "File name too long (os error 36)".toList
  | other message => message

structure Surroundings where
  input : Except ReadFault Text
  read : Text → Except ReadFault Text

namespace Surroundings

/-- Where a path leads: to the directory that the program runs in, to one outside
of it, of which nothing is known, or to a file. -/
inductive Place where
  | here
  | outside
  | file (text : Text)
  deriving DecidableEq, Repr

/-- The most bytes that a name takes. -/
def nameLimit : Nat := 255

/-- The most bytes that a path takes. -/
def pathLimit : Nat := 4095

/-- The next step on a path, among files of given names. Only directories can be
entered, be it by a step that stays where it is. -/
def Place.enter (files : List (Text × Text)) (place : Place) (name : Text) :
    Except ReadFault Place :=
  match place with
  | file _ => .error .notDirectory
  | directory =>
    if name.isEmpty || name == ['.'] then .ok directory
    else if name == ['.', '.'] then .ok outside
    else if nameLimit < byteLength name then .error .nameTooLong
    else
      match directory, files.lookup name with
      | here, some text => .ok (file text)
      | _, _ => .error .notFound

/-- A single directory with files of given names. -/
def ofFiles (input : Text) (files : List (Text × Text)) : Surroundings where
  input := .ok input
  read := fun path => do
    if path.isEmpty then throw .notFound
    if pathLimit < byteLength path then throw .nameTooLong
    let start := if path.head? = some '/' then Place.outside else .here
    match ← (path.splitOn '/').foldlM (Place.enter files) start with
    | .file text => return text
    | _ => throw .isDirectory

end Surroundings

end PatternWorkbench.Command
