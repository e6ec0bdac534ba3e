import PatternWorkbench.Text

/-!
# Positions and byte offsets

A position counts characters and an offset counts bytes.  Offsets grow with
positions, one position past the end included, and every offset of a position
within the text lies on a character boundary.
-/

namespace PatternWorkbench

/-- The byte offset of a position.  Past the end every position counts one. -/
def offsetAt : Text → Nat → Nat
  | _, 0 => 0
  | [], position + 1 => position + 1
  | c :: rest, position + 1 => c.utf8Size + offsetAt rest position

def OnBoundary (text : Text) (offset : Nat) : Prop :=
  ∃ before after, text = before ++ after ∧ byteLength before = offset

/-- The offset behind the character at `offset`, or one past the end. -/
def stepPast (text : Text) (offset : Nat) : Nat :=
  match splitAtByte text offset with
  | some (_, c :: _) => offset + c.utf8Size
  | _ => offset + 1

@[simp]
theorem offsetAt_zero (text : Text) : offsetAt text 0 = 0 := by
  cases text <;> rfl

theorem offsetAt_length (before after : Text) :
    offsetAt (before ++ after) before.length = byteLength before := by
  induction before with
  | nil => simp
  | cons c before ih =>
      rw [List.cons_append, List.length_cons, offsetAt, ih, byteLength_cons]

/-- The offset of a position is the size of what stands before it. -/
theorem offsetAt_eq_byteLength_take {text : Text} {position : Nat}
    (hposition : position ≤ text.length) :
    offsetAt text position = byteLength (text.take position) := by
  have hoffset := offsetAt_length (text.take position) (text.drop position)
  rwa [List.take_append_drop, List.length_take, Nat.min_eq_left hposition]
    at hoffset

theorem offsetAt_length_add_one (text : Text) :
    offsetAt text (text.length + 1) = byteLength text + 1 := by
  induction text with
  | nil => rfl
  | cons c rest ih =>
      rw [List.length_cons, offsetAt, ih, byteLength_cons, Nat.add_assoc]

theorem offsetAt_lt_offsetAt {text : Text} {left right : Nat}
    (hlt : left < right) : offsetAt text left < offsetAt text right := by
  induction text generalizing left right with
  | nil =>
      cases right with
      | zero => omega
      | succ right => cases left <;> simp only [offsetAt] <;> omega
  | cons c rest ih =>
      have := c.utf8Size_pos
      cases right with
      | zero => omega
      | succ right =>
          cases left with
          | zero => simp only [offsetAt]; omega
          | succ left =>
              have := ih (Nat.lt_of_succ_lt_succ hlt)
              simp only [offsetAt]
              omega

theorem offsetAt_le_offsetAt_iff {text : Text} {left right : Nat} :
    offsetAt text left ≤ offsetAt text right ↔ left ≤ right := by
  constructor
  · intro hle
    refine Nat.le_of_not_lt fun hlt => ?_
    have : offsetAt text right < offsetAt text left := offsetAt_lt_offsetAt hlt
    omega
  · intro hle
    rcases Nat.eq_or_lt_of_le hle with rfl | hlt
    · exact Nat.le_refl _
    · exact Nat.le_of_lt (offsetAt_lt_offsetAt hlt)

theorem offsetAt_lt_offsetAt_iff {text : Text} {left right : Nat} :
    offsetAt text left < offsetAt text right ↔ left < right := by
  rw [← Nat.not_le, offsetAt_le_offsetAt_iff, Nat.not_le]

theorem onBoundary_offsetAt {text : Text} {position : Nat}
    (hposition : position ≤ text.length) :
    OnBoundary text (offsetAt text position) :=
  ⟨text.take position, text.drop position, (List.take_append_drop _ _).symm,
    (offsetAt_eq_byteLength_take hposition).symm⟩

theorem stepPast_offsetAt {text : Text} {position : Nat}
    (hposition : position ≤ text.length) :
    stepPast text (offsetAt text position) = offsetAt text (position + 1) := by
  obtain ⟨before, after, rfl, rfl⟩ : ∃ before after, text = before ++ after ∧
      before.length = position :=
    ⟨text.take position, text.drop position, (List.take_append_drop _ _).symm,
      by simp [hposition]⟩
  rw [stepPast, offsetAt_length, splitAtByte_byteLength]
  cases after with
  | nil =>
      simp only [List.append_nil]
      rw [offsetAt_length_add_one]
  | cons c after =>
      have hnext := offsetAt_length (before ++ [c]) after
      simp only [List.append_assoc, List.singleton_append, List.length_append,
        List.length_singleton, byteLength_append, byteLength_cons,
        byteLength_nil, Nat.add_zero] at hnext
      exact hnext.symm

/-- Of two beginnings of one text the one with fewer bytes is a beginning of the
other. -/
theorem exists_append_of_byteLength_le {short long left right : Text}
    (htext : short ++ left = long ++ right)
    (hle : byteLength short ≤ byteLength long) :
    ∃ between, long = short ++ between ∧ left = between ++ right := by
  rcases List.append_eq_append_iff.1 htext with ⟨between, hlong, hleft⟩ |
    ⟨between, hshort, hright⟩
  · exact ⟨between, hlong, hleft⟩
  · obtain rfl : between = [] := by
      rw [hshort, byteLength_append] at hle
      exact byteLength_eq_zero_iff.1 (by omega)
    exact ⟨[], by simpa using hshort.symm, by simpa using hright.symm⟩

end PatternWorkbench
