import Mathlib.Logic.Function.Basic
import PatternWorkbench.Report.Json
import PatternWorkbench.Report.Yaml.Scalar

/-!
# Escaping without loss

What is written for a character tells where it ends and which character it is, so
no two texts are written alike.
-/

namespace PatternWorkbench.Report

/-! ## Self-delimiting codes -/

/-- A code for characters.  The beginning of what is written tells how long it is,
whatever follows. -/
structure SelfDelimiting (code : Char → Text) (width : Text → Nat) : Prop where
  ne_nil : ∀ c, code c ≠ []
  width_append : ∀ c rest, width (code c ++ rest) = (code c).length
  injective : Function.Injective code

/-- A row of codes ends where no other code follows, so it can be told from what is
behind it. -/
theorem SelfDelimiting.flatMap_append_inj {code : Char → Text} {width : Text → Nat}
    (hcode : SelfDelimiting code width) {left right behind behind' : Text}
    (hbehind : ∀ c, ¬ code c <+: behind) (hbehind' : ∀ c, ¬ code c <+: behind')
    (heq : left.flatMap code ++ behind = right.flatMap code ++ behind') :
    left = right ∧ behind = behind' := by
  induction left generalizing right with
  | nil =>
      cases right with
      | nil => exact ⟨rfl, heq⟩
      | cons d right =>
          rw [List.flatMap_nil, List.nil_append, List.flatMap_cons, List.append_assoc] at heq
          exact absurd ⟨_, heq.symm⟩ (hbehind d)
  | cons c left ih =>
      rw [List.flatMap_cons, List.append_assoc] at heq
      cases right with
      | nil =>
          rw [List.flatMap_nil, List.nil_append] at heq
          exact absurd ⟨_, heq⟩ (hbehind' c)
      | cons d right =>
          rw [List.flatMap_cons, List.append_assoc] at heq
          have hlength : (code c).length = (code d).length := by
            rw [← hcode.width_append c (left.flatMap code ++ behind), heq,
              hcode.width_append]
          obtain ⟨hhead, htail⟩ := List.append_inj heq hlength
          obtain ⟨hrest, hsame⟩ := ih htail
          exact ⟨congrArg₂ _ (hcode.injective hhead) hrest, hsame⟩

/-- A code whose words tell their own length can be read back. -/
theorem SelfDelimiting.flatMap_injective {code : Char → Text} {width : Text → Nat}
    (hcode : SelfDelimiting code width) :
    Function.Injective fun text : Text => text.flatMap code := by
  intro left right heq
  have hend (c : Char) : ¬ code c <+: [] := fun hcode' =>
    hcode.ne_nil c (List.prefix_nil.1 hcode')
  exact (hcode.flatMap_append_inj hend hend (congrArg (· ++ []) heq)).1

/-! ## Escapes -/

/-- How long an escape is.  The numbers behind a mark have fixed lengths. -/
def escapedWidth : Text → Nat
  | '\\' :: 'x' :: _ => 4
  | '\\' :: 'u' :: _ => 6
  | '\\' :: _ => 2
  | _ => 1

/-- The character that a letter behind a backslash stands for.  The letters of
JSON mean the same in YAML. -/
def ofLetter? : Char → Option Char
  | '0' => some '\x00'
  | 'a' => some '\x07'
  | 'b' => some '\x08'
  | 't' => some '\t'
  | 'n' => some '\n'
  | 'v' => some '\x0b'
  | 'f' => some '\x0c'
  | 'r' => some '\r'
  | 'e' => some '\x1b'
  | '"' => some '"'
  | '\\' => some '\\'
  | 'N' => some '\u0085'
  | 'L' => some '\u2028'
  | 'P' => some '\u2029'
  | _ => none

def unescaped? : Text → Option Char
  | [c] => some c
  | ['\\', letter] => ofLetter? letter
  | _ :: _ :: digits => (numeral? 16 digits).map Char.ofNat
  | [] => none

/-- A character as it is or as an escape that reads back. -/
def IsEscaped (c : Char) (written : Text) : Prop :=
  (c ≠ '\\' ∧ written = [c]) ∨
    (2 ≤ written.length ∧ escapedWidth written = written.length ∧
      unescaped? written = some c)

instance (c : Char) (written : Text) : Decidable (IsEscaped c written) :=
  inferInstanceAs (Decidable (_ ∨ _))

theorem escapedWidth_append {text : Text} (hlength : 2 ≤ text.length) (rest : Text) :
    escapedWidth (text ++ rest) = escapedWidth text := by
  match text, hlength with
  | first :: second :: behind, _ =>
    by_cases hfirst : first = '\\'
    · by_cases hnarrow : second = 'x'
      · simp [hfirst, hnarrow, escapedWidth]
      · by_cases hwide : second = 'u' <;> simp [hfirst, hnarrow, hwide, escapedWidth]
    · simp [escapedWidth, hfirst]

/-- Escapes tell their own length. -/
theorem IsEscaped.selfDelimiting {code : Char → Text}
    (hcode : ∀ c, IsEscaped c (code c)) : SelfDelimiting code escapedWidth := by
  have hread (c : Char) : unescaped? (code c) = some c := by
    rcases hcode c with ⟨-, hself⟩ | ⟨-, -, hread⟩
    · rw [hself]
      rfl
    · exact hread
  constructor
  · intro c hnil
    simpa [hnil, unescaped?] using hread c
  · intro c rest
    rcases hcode c with ⟨hplain, hself⟩ | ⟨hlength, hwidth, -⟩
    · rw [hself, List.singleton_append]
      simp [escapedWidth, hplain]
    · rw [escapedWidth_append hlength, hwidth]
  · intro c d heq
    exact Option.some.inj ((hread c).symm.trans (heq ▸ hread d))

/-! ## JSON -/

namespace Json

/-- Control characters are escaped, each in its own way. -/
theorem isEscaped_control :
    ∀ n < 32, IsEscaped (Char.ofNat n) (escapeChar (Char.ofNat n)) := by
  decide +kernel

theorem isEscaped_escapeChar (c : Char) : IsEscaped c (escapeChar c) := by
  by_cases hcontrol : c.toNat < 32
  · simpa using isEscaped_control c.toNat hcontrol
  · unfold escapeChar
    split
    case h_8 => exact Or.inl ⟨by assumption, if_neg hcontrol⟩
    all_goals decide

theorem string_injective : Function.Injective string := by
  intro left right heq
  refine (IsEscaped.selfDelimiting isEscaped_escapeChar).flatMap_injective ?_
  simpa [string] using heq

end Json

/-! ## YAML -/

namespace Yaml

theorem isEscaped_narrow :
    ∀ n < 256, IsEscaped (Char.ofNat n) (escapeChar (Char.ofNat n)) := by
  decide +kernel

theorem isPrintable_of_wide {c : Char} (hwide : 256 ≤ c.toNat) (hmark : c ≠ '\ufeff')
    (hswapped : c ≠ '\ufffe') (hlast : c ≠ '\uffff') : isPrintable c = true := by
  have hle : '\u00a0' ≤ c := by
    show (0xa0 : UInt32) ≤ c.val
    exact UInt32.le_iff_toNat_le.2 (Nat.le_trans (by decide) hwide)
  simp [isPrintable, hle, hmark, hswapped, hlast]

/-- Of the characters past the first 256, two have a letter. -/
theorem escapeLetter?_of_wide {c : Char} (hwide : 256 ≤ c.toNat) (hline : c ≠ '\u2028')
    (hparagraph : c ≠ '\u2029') : escapeLetter? c = none := by
  unfold escapeLetter?
  split
  case h_13 => exact absurd rfl hline
  case h_14 => exact absurd rfl hparagraph
  case h_15 => rfl
  all_goals exact absurd hwide (by decide)

theorem isEscaped_escapeChar (c : Char) : IsEscaped c (escapeChar c) := by
  rcases Nat.lt_or_ge c.toNat 256 with hnarrow | hwide
  · simpa using isEscaped_narrow c.toNat hnarrow
  by_cases hletter : c = '\u2028' ∨ c = '\u2029'
  · rcases hletter with rfl | rfl <;> decide
  by_cases hspecial : c = '\ufeff' ∨ c = '\ufffe' ∨ c = '\uffff'
  · rcases hspecial with rfl | rfl | rfl <;> decide
  · simp only [not_or] at hletter hspecial
    refine Or.inl ⟨?_, ?_⟩
    · rintro rfl
      exact absurd hwide (by decide)
    · have hprintable := isPrintable_of_wide hwide hspecial.1 hspecial.2.1 hspecial.2.2
      simp [escapeChar, escapeLetter?_of_wide hwide hletter.1 hletter.2, hprintable]

theorem doubleQuoted_injective : Function.Injective doubleQuoted := by
  intro left right heq
  refine (IsEscaped.selfDelimiting isEscaped_escapeChar).flatMap_injective ?_
  simpa [doubleQuoted] using heq

end Yaml

end PatternWorkbench.Report
