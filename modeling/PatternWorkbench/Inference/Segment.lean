import PatternWorkbench.Inference.Quoting
import PatternWorkbench.Inference.Rule

/-!
# Segments of a sample

A sample is cut from left to right. At each position the first rule that covers
something takes it, and a character that no rule covers stands for itself. The
fragments of all segments, one after the other, are the inferred pattern.
-/

namespace PatternWorkbench.Inference

structure Segment where
  /-- The rule that covered the text, or none for a character on its own. -/
  rule : Option Rule
  text : Text
  start : Nat
  deriving DecidableEq, Repr

namespace Segment

def stop (segment : Segment) : Nat :=
  segment.start + byteLength segment.text

def ruleName (segment : Segment) : String :=
  match segment.rule with
  | some rule => rule.name
  | none => "literal"

def fragment (segment : Segment) : Text :=
  match segment.rule with
  | some rule => rule.fragment segment.text
  | none => quoted segment.text

/-- The rule that covers the beginning of a text, and how much it covers. -/
def coveringRule? (text : Text) : Option (Rule × Nat) :=
  Rule.all.findSome? fun rule => (rule.cover? text).map (rule, ·)

/-- The first segment of a sample that begins at byte `start`. -/
def first (start : Nat) (c : Char) (rest : Text) : Segment :=
  match coveringRule? (c :: rest) with
  | some (rule, length) => ⟨some rule, (c :: rest).take length, start⟩
  | none => ⟨none, [c], start⟩

/-- The covering rule covers what it claims to cover. -/
theorem cover?_of_coveringRule? {text : Text} {rule : Rule} {length : Nat}
    (hcovering : coveringRule? text = some (rule, length)) :
    rule.cover? text = some length := by
  obtain ⟨tried, _, htried⟩ := List.exists_of_findSome?_eq_some hcovering
  obtain ⟨width, hcover, heq⟩ := Option.map_eq_some_iff.1 htried
  simp only [Prod.mk.injEq] at heq
  exact heq.1 ▸ heq.2 ▸ hcover

/-- Inference goes on behind a segment, since none is empty. -/
theorem text_first_ne_nil (start : Nat) (c : Char) (rest : Text) :
    (first start c rest).text ≠ [] := by
  unfold first
  split
  · rename_i rule length hcovering
    have hpos := (Rule.cover?_bounds (cover?_of_coveringRule? hcovering)).1
    obtain ⟨length, rfl⟩ := Nat.exists_eq_succ_of_ne_zero (Nat.ne_of_gt hpos)
    simp
  · simp

/-- The first segment and the sample behind it make up the sample. -/
theorem text_first_append_drop (start : Nat) (c : Char) (rest : Text) :
    (first start c rest).text ++
      (c :: rest).drop (first start c rest).text.length = c :: rest := by
  unfold first
  split
  · rename_i rule length hcovering
    have hle := (Rule.cover?_bounds (cover?_of_coveringRule? hcovering)).2
    have hlength : ((c :: rest).take length).length = length := by
      simp only [List.length_take]
      omega
    rw [hlength, List.take_append_drop]
  · simp

end Segment

/-- The segments of a sample that begins at byte `start`. -/
def segmentsFrom (start : Nat) (text : Text) : List Segment :=
  match text with
  | [] => []
  | c :: rest =>
    let segment := Segment.first start c rest
    segment ::
      segmentsFrom segment.stop ((c :: rest).drop segment.text.length)
termination_by text.length
decreasing_by
  have hpos := List.length_pos_iff.2 (Segment.text_first_ne_nil start c rest)
  simp only [List.length_drop, List.length_cons]
  omega

def segments (text : Text) : List Segment :=
  segmentsFrom 0 text

/-- The pattern inferred from a sample. -/
def generalize (text : Text) : Text :=
  (segments text).flatMap Segment.fragment

end PatternWorkbench.Inference
