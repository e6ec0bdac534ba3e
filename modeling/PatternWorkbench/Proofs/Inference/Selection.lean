import PatternWorkbench.Proofs.Inference.Generalization

/-!
# Fragments of selections fit

A selection that an entry of the catalogue accepts as a whole gets the entry's
fragment, and any other selection is generalized.  Either way the fragment fits
the selection.
-/

namespace PatternWorkbench.Inference

open Matching (Flags)

variable (flags : Flags) {text : Text}

/-- A shape that accepts a text has a fragment that fits it. -/
theorem fits_of_accepts {shape : Shape} (hlegible : shape.isLegible = true)
    (haccepts : shape.accepts text = true) : Fits flags shape.fragment text :=
  Shape.fits_of_passes flags hlegible (Shape.passes_of_accepts haccepts)

/-- An entry that accepts a text gives it a fragment that fits. -/
theorem fits_entry {entry : Entry} (haccepts : entry.accepts text = true) :
    Fits flags (entry.fragment text) text := by
  cases entry with
  | ipv4 => exact fits_of_accepts flags (by decide) haccepts
  | status => exact fits_of_accepts flags (by decide) haccepts
  | method => exact fits_of_accepts flags (by decide) haccepts
  | path => exact fits_of_accepts flags (by decide) haccepts
  | time => exact fits_of_accepts flags (by decide) haccepts
  | digits => exact fits_of_accepts flags (by decide) haccepts
  | nonSpace => exact fits_of_accepts flags (by decide) haccepts
  | word =>
      rw [Entry.accepts, Bool.and_eq_true] at haccepts
      exact fits_of_accepts flags (by decide) haccepts.1
  | date =>
      have hshape : ∀ shape ∈ dateShapes, shape.isLegible = true := by decide
      rw [Entry.accepts, dateFragment?, Option.isSome_map] at haccepts
      rw [Entry.fragment, dateFragment?]
      obtain ⟨shape, hfind⟩ := Option.isSome_iff_exists.1 haccepts
      have hfound := List.find?_some hfind
      rw [hfind]
      exact fits_of_accepts flags (hshape shape (List.mem_of_find?_eq_some hfind))
        hfound
  | wildcard =>
      have hrun : Shape.anything.fragment = Run.fragment ⟨.any, .anyNumber⟩ := rfl
      rw [Entry.accepts] at haccepts
      rw [Entry.fragment, hrun]
      exact Run.fits flags (by decide)
        ⟨(Shape.accepts_manyOf_iff.1 haccepts).2, Nat.zero_le _, by simp [Count.bound]⟩
  | literal => exact fits_quoted flags text

/-- The fragment for a selection fits the selection. -/
theorem fits_fragmentForSelection (text : Text) :
    Fits flags (fragmentForSelection text) text := by
  unfold fragmentForSelection classify?
  cases hfind : catalogue.find? fun entry => entry.autoSelect && entry.accepts text with
  | none => exact fits_generalize flags text
  | some entry =>
      have hentry := List.find?_some hfind
      simp only [Bool.and_eq_true] at hentry
      exact fits_entry flags hentry.2

end PatternWorkbench.Inference
