import PatternWorkbench.Proofs.Settings.Document
import PatternWorkbench.Settings.Loader

/-!
# Settings by their leaves

Options are read from the fields of three sections and from nothing else.  What is
laid over settings changes each of these leaves by itself.
-/

namespace PatternWorkbench.Settings

open Key (lowerName)
open Options (find require sectionIn)

/-! ## Keys -/

section Keys

variable {root name : Text}

/-- A name with nothing in it that ends a name. -/
def IsName (name : Text) : Prop :=
  name ≠ [] ∧ name.all Key.isNameChar = true

instance (name : Text) : Decidable (IsName name) :=
  inferInstanceAs (Decidable (_ ∧ _))

theorem readName_append (hname : IsName name) {rest : Text}
    (hrest : rest.head?.all fun c => !Key.isNameChar c) :
    Key.readName? (name ++ rest) = some (name, rest) := by
  have hends : rest.takeWhile Key.isNameChar = [] ∧ rest.dropWhile Key.isNameChar = rest := by
    cases rest with
    | nil => exact ⟨rfl, rfl⟩
    | cons c rest =>
        have hc : Key.isNameChar c = false := by simpa using hrest
        simp [hc]
  have hall : ∀ c ∈ name, Key.isNameChar c = true := List.all_eq_true.1 hname.2
  rw [Key.readName?, List.takeWhile_append_of_pos hall, List.dropWhile_append_of_pos hall,
    hends.1, hends.2, List.append_nil]
  simp [hname.1]

theorem read_field (hroot : IsName root) (hname : IsName name) :
    Key.read (root ++ '.' :: name) = .ok ⟨root, [.field name]⟩ := by
  have hread : Key.readName? (name ++ []) = some (name, []) := readName_append hname rfl
  rw [List.append_nil] at hread
  rw [Key.read, readName_append hroot rfl]
  simp [Key.readSteps, Key.readStep, hread, Except.map]

end Keys

/-! ## Leaves -/

inductive Leaf where
  | timeLimit
  | maxMatches
  | sizeLimit
  | global
  | caseInsensitive
  | multiline
  | dotAll
  | format
  deriving DecidableEq

namespace Leaf

def part : Leaf → Section
  | timeLimit | maxMatches | sizeLimit => .matcher
  | global | caseInsensitive | multiline | dotAll => .flags
  | format => .output

def index : Leaf → Nat
  | timeLimit | global | format => 0
  | maxMatches | caseInsensitive => 1
  | sizeLimit | multiline => 2
  | dotAll => 3

def name (leaf : Leaf) : Text :=
  leaf.part.fieldNames[leaf.index]?.getD []

def spelling (leaf : Leaf) : Text :=
  leaf.part.name ++ '.' :: leaf.name

def key (leaf : Leaf) : Key :=
  ⟨leaf.part.name, [.field leaf.name]⟩

/-- The dotted spelling of a leaf reads as its key. -/
theorem read_spelling (leaf : Leaf) : Key.read leaf.spelling = .ok leaf.key := by
  apply read_field <;> cases leaf <;> decide

theorem key_injective : Function.Injective key := by
  intro leaf leaf' heq
  cases leaf <;> cases leaf' <;> first | rfl | exact absurd heq (by decide)

end Leaf

section Congruence

variable {settings settings' : Setting}

end Congruence

/-- A setting stands for what the options have in the place of a leaf. -/
def Leaf.Reads (leaf : Leaf) (setting : Setting) (options : Options) : Prop :=
  let place := .field leaf.name
  match leaf with
  | timeLimit => Options.readCount .matcher place setting = .ok options.budget.timeLimitMs
  | maxMatches => Options.readCount .matcher place setting = .ok options.budget.maxMatches
  | sizeLimit => Options.readCount .matcher place setting = .ok options.budget.sizeLimit
  | global => Options.readFlag .flags place setting = .ok options.flags.global
  | caseInsensitive =>
    Options.readFlag .flags place setting = .ok options.flags.caseInsensitive
  | multiline => Options.readFlag .flags place setting = .ok options.flags.multiline
  | dotAll => Options.readFlag .flags place setting = .ok options.flags.dotAll
  | format => Options.readFormat .output place setting = .ok options.format

section Reading

variable (values : Leaf → Setting) (options : Options)

end Reading

/-! ## Laying over leaves -/

/-- What stands for a leaf once another value, if there is one, is laid over it. -/
def Setting.merged (below : Option Setting) : Option Setting → Option Setting
  | none => below
  | some value => some (value.laidOver below)

section Laying

variable {below : Setting}

end Laying

/-! ## Documents -/

def Fields.document (fields : Fields) : Setting :=
  .table .given fields

section Documents

variable {below : Setting}

end Documents

end PatternWorkbench.Settings
