/-!
# Texts and their byte offsets

Patterns, samples and everything rendered are lists of characters. Offsets that
leave the library count the bytes of the UTF-8 encoding, so they are sums of
character widths.
-/

namespace PatternWorkbench

abbrev Text := List Char

def byteLength (text : Text) : Nat :=
  text.foldr (fun c size => c.utf8Size + size) 0

@[simp]
theorem byteLength_nil : byteLength [] = 0 := rfl

@[simp]
theorem byteLength_cons (c : Char) (text : Text) :
    byteLength (c :: text) = c.utf8Size + byteLength text := rfl

@[simp]
theorem byteLength_append (left right : Text) :
    byteLength (left ++ right) = byteLength left + byteLength right := by
  induction left with
  | nil => simp
  | cons c rest ih => simp [ih, Nat.add_assoc]

theorem byteLength_eq_zero_iff {text : Text} :
    byteLength text = 0 ↔ text = [] := by
  cases text with
  | nil => simp
  | cons c rest =>
      have hwidth := c.utf8Size_pos
      simp only [byteLength_cons, reduceCtorEq, iff_false]
      omega

/-- Cuts a text after a number of bytes. There is no cut inside a character or
past the end. -/
def splitAtByte : Text → Nat → Option (Text × Text)
  | text, 0 => some ([], text)
  | [], _ + 1 => none
  | c :: rest, offset + 1 =>
    if c.utf8Size ≤ offset + 1 then
      (splitAtByte rest (offset + 1 - c.utf8Size)).map
        fun (before, after) => (c :: before, after)
    else none

/-- A cut leaves both parts whole, and the first has the bytes asked for. -/
theorem splitAtByte_eq_some {text before after : Text} {offset : Nat}
    (hcut : splitAtByte text offset = some (before, after)) :
    text = before ++ after ∧ byteLength before = offset := by
  induction text generalizing offset before with
  | nil =>
      cases offset <;> simp [splitAtByte] at hcut
      simp [hcut]
  | cons c rest ih =>
      cases offset with
      | zero =>
          simp only [splitAtByte, Option.some.injEq, Prod.mk.injEq] at hcut
          simp [← hcut.1, ← hcut.2]
      | succ offset =>
          simp only [splitAtByte] at hcut
          split at hcut
          · obtain ⟨⟨before', after'⟩, hrest, heq⟩ := Option.map_eq_some_iff.1 hcut
            simp only [Prod.mk.injEq] at heq
            obtain ⟨rfl, rfl⟩ := heq
            obtain ⟨hwhole, hwidth⟩ := ih hrest
            refine ⟨by simp [hwhole], ?_⟩
            simp only [byteLength_cons, hwidth]
            omega
          · simp at hcut

/-- A text can be cut behind each of its beginnings. -/
theorem splitAtByte_byteLength (before after : Text) :
    splitAtByte (before ++ after) (byteLength before) = some (before, after) := by
  induction before with
  | nil => cases after <;> simp [splitAtByte]
  | cons c rest ih =>
      have hpos := c.utf8Size_pos
      obtain ⟨width, hwidth⟩ : ∃ width, byteLength (c :: rest) = width + 1 :=
        ⟨byteLength (c :: rest) - 1, by simp only [byteLength_cons]; omega⟩
      have hrest : width + 1 - c.utf8Size = byteLength rest := by
        simp only [byteLength_cons] at hwidth
        omega
      have hfits : c.utf8Size ≤ width + 1 := by
        simp only [byteLength_cons] at hwidth
        omega
      simp [hwidth, splitAtByte, hrest, hfits, ih]

def decimal (n : Nat) : Text :=
  Nat.toDigits 10 n

def padLeft (width : Nat) (text : Text) : Text :=
  List.replicate (width - text.length) ' ' ++ text

def padRight (width : Nat) (text : Text) : Text :=
  text ++ List.replicate (width - text.length) ' '

/-- Lines joined by single line feeds. -/
def joinLines (lines : List Text) : Text :=
  List.intercalate ['\n'] lines

/-- The part of a text up to its first line feed, and the part after it. -/
def breakLine : Text → Text × Option Text
  | [] => ([], none)
  | c :: rest =>
    if c = '\n' then ([], some rest)
    else
      let (line, after) := breakLine rest
      (c :: line, after)

/-- What stands behind a line is shorter, since the feed is taken. -/
theorem breakLine_shorter {text line rest : Text}
    (hbroken : breakLine text = (line, some rest)) : rest.length < text.length := by
  induction text generalizing line with
  | nil => simp [breakLine] at hbroken
  | cons c tail ih =>
      simp only [breakLine] at hbroken
      split at hbroken
      · simp only [Prod.mk.injEq, Option.some.injEq] at hbroken
        simp [hbroken.2]
      · simp only [Prod.mk.injEq] at hbroken
        have htail := @ih (breakLine tail).1 (Prod.ext rfl hbroken.2)
        simp only [List.length_cons]
        omega

/-- All stretches between line feeds; one more than there are line feeds. -/
def lines (text : Text) : List Text :=
  match _ : breakLine text with
  | (line, none) => [line]
  | (line, some rest) => line :: lines rest
termination_by text.length
decreasing_by exact breakLine_shorter (by assumption)

end PatternWorkbench
