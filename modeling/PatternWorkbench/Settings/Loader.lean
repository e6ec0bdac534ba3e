import PatternWorkbench.Settings.Layer
import PatternWorkbench.Settings.Options
import PatternWorkbench.Settings.Toml

/-!
# Loading options

Files are laid over the built-in options in the order in which they were added.
Overrides lie above all files, and a key has one of them at most.
-/

namespace PatternWorkbench.Settings

/-- A configuration file, with its text if it exists. -/
structure File where
  path : Text
  required : Bool
  text : Option Text
  deriving DecidableEq, Repr

structure Loader where
  files : List File := []
  overrides : List (Key × Setting) := []

namespace Loader

def withFile (loader : Loader) (file : File) : Loader :=
  { loader with files := loader.files ++ [file] }

/-- Gives a key a value from above, in place of one that was given before. -/
def withOverride (loader : Loader) (key : Text) (value : Setting) :
    Except Fault Loader :=
  match Key.read key with
  | .ok key =>
    let others := loader.overrides.filter (·.1 != key)
    .ok { loader with overrides := others ++ [(key, value)] }
  | .error fault => .error (.badKey fault)

/-- The key that a name at the top of a file is. A name that is no key stands for
itself. -/
def keyOf (name : Text) : Key :=
  match Key.read name with
  | .ok key => key
  | .error _ => ⟨name, []⟩

def layFile (below : Setting) (file : File) : Except Fault Setting :=
  match file.text with
  | none => if file.required then .error (.missingFile file.path) else .ok below
  | some text =>
    match Toml.read? (.file file.path) text with
    | none => .error (.malformedFile file.path)
    | some fields =>
      .ok (fields.foldl
        (fun below (name, value) => Setting.lay (keyOf name) value below) below)

/-- All layers laid over one another. -/
def settings (loader : Loader) : Except Fault Setting := do
  let layered ← loader.files.foldlM layFile ({} : Options).toSetting
  return loader.overrides.foldl
    (fun below (key, value) => Setting.lay key value below) layered

def build (loader : Loader) : Except Fault Options := do
  Options.ofSetting (← loader.settings)

end Loader

end PatternWorkbench.Settings
