import PatternWorkbench.Pattern.Meaning

/-!
# Matching flags

The four options an author can switch on, each with its letter.
-/

namespace PatternWorkbench.Matching

structure Flags where
  global : Bool := false
  caseInsensitive : Bool := false
  multiline : Bool := false
  dotAll : Bool := false
  deriving DecidableEq, Repr

namespace Flags

/-- Switches on the flag of a letter, if it has one. -/
def switchOn (flags : Flags) : Char → Option Flags
  | 'g' => some { flags with global := true }
  | 'i' => some { flags with caseInsensitive := true }
  | 'm' => some { flags with multiline := true }
  | 's' => some { flags with dotAll := true }
  | _ => none

/-- Reads letters on top of `flags`; the first letter without a flag is the
error. -/
def readOnto (flags : Flags) : Text → Except Char Flags
  | [] => .ok flags
  | letter :: rest =>
    match flags.switchOn letter with
    | some flags => flags.readOnto rest
    | none => .error letter

def read (letters : Text) : Except Char Flags :=
  readOnto {} letters

/-- The letters of the flags that are on, in the order `gims`. -/
def letters (flags : Flags) : Text :=
  [(flags.global, 'g'), (flags.caseInsensitive, 'i'), (flags.multiline, 'm'),
    (flags.dotAll, 's')].filterMap fun (on, letter) =>
      if on then some letter else none

/-- The letters of flags are read back as these flags. -/
theorem read_letters (flags : Flags) : read flags.letters = .ok flags := by
  obtain ⟨global, caseInsensitive, multiline, dotAll⟩ := flags
  cases global <;> cases caseInsensitive <;> cases multiline <;> cases dotAll <;>
    rfl

/-- The modes that the flags give to a pattern from its beginning. -/
def modes (flags : Flags) : Pattern.Modes where
  caseInsensitive := flags.caseInsensitive
  multiLine := flags.multiline
  dotMatchesNewLine := flags.dotAll

end Flags

end PatternWorkbench.Matching
