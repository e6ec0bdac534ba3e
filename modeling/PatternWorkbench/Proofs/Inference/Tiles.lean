import PatternWorkbench.Inference.Segment
import PatternWorkbench.Proofs.Inference.Cover

/-!
# Segments tile a sample

The segments of a sample are laid one after the other.  Each is the first
segment of what is left behind the ones before it, and begins at the byte where
they end.
-/

namespace PatternWorkbench.Inference

/-- The segments make up the sample. -/
theorem flatten_text_segmentsFrom (start : Nat) (sample : Text) :
    ((segmentsFrom start sample).map Segment.text).flatten = sample := by
  fun_induction segmentsFrom start sample with
  | case1 => rfl
  | case2 start c rest segment ih =>
      rw [List.map_cons, List.flatten_cons, ih]
      exact Segment.text_first_append_drop start c rest

theorem start_first (start : Nat) (c : Char) (rest : Text) :
    (Segment.first start c rest).start = start := by
  unfold Segment.first
  split <;> rfl

/-- A segment with what stands before it and behind it. -/
theorem exists_eq_first {start : Nat} {sample : Text} {before after : List Segment}
    {segment : Segment} (hsegments : segmentsFrom start sample = before ++ segment :: after) :
    ∃ c rest, sample = (before.map Segment.text).flatten ++ c :: rest ∧
      segment = Segment.first
        (start + byteLength (before.map Segment.text).flatten) c rest := by
  induction before generalizing start sample with
  | nil =>
      cases sample with
      | nil => simp [segmentsFrom] at hsegments
      | cons c rest =>
          rw [segmentsFrom, List.nil_append] at hsegments
          exact ⟨c, rest, rfl, (List.cons.inj hsegments).1.symm⟩
  | cons first before ih =>
      cases sample with
      | nil => simp [segmentsFrom] at hsegments
      | cons c rest =>
          rw [segmentsFrom, List.cons_append] at hsegments
          obtain ⟨hfirst, hlater⟩ := List.cons.inj hsegments
          obtain ⟨d, later, hrest, hsegment⟩ := ih hlater
          have hwhole := Segment.text_first_append_drop start c rest
          refine ⟨d, later, ?_, ?_⟩
          · rw [List.map_cons, List.flatten_cons, List.append_assoc, ← hrest, ← hfirst]
            exact hwhole.symm
          · rw [hsegment, Segment.stop, start_first, hfirst, Nat.add_assoc]
            simp [byteLength_append]

def Rule.before (rule : Rule) : List Rule :=
  Rule.all.takeWhile (· != rule)

/-- Every rule has its place in the order of precedence. -/
theorem Rule.exists_all_eq (rule : Rule) : ∃ later, Rule.all = rule.before ++ rule :: later := by
  cases rule <;> exact ⟨_, rfl⟩

/-- The first rule that covers anything covers the whole text. -/
theorem segments_eq_singleton {rule : Rule} {text : Text}
    (haccepts : rule.shape.accepts text = true)
    (hbefore : ∀ other ∈ rule.before, other.cover? text = none) :
    segments text = [⟨some rule, text, 0⟩] := by
  have hempty : rule.shape.accepts [] = false := by cases rule <;> rfl
  obtain ⟨later, hall⟩ := rule.exists_all_eq
  cases text with
  | nil =>
      rw [hempty] at haccepts
      contradiction
  | cons c rest =>
      have hcover : rule.cover? (c :: rest) = some (c :: rest).length := by
        refine Rule.cover?_eq_some_iff.2
          ⟨Shape.accepts_iff_cover?.1 haccepts, Nat.succ_pos _, ?_⟩
        rw [List.drop_length]
        cases rule.follow <;> rfl
      have hcovering : Segment.coveringRule? (c :: rest) =
          some (rule, (c :: rest).length) := by
        refine List.findSome?_eq_some_iff.2 ⟨rule.before, rule, later, hall, ?_, ?_⟩
        · rw [hcover, Option.map_some]
        · intro other hother
          rw [hbefore other hother, Option.map_none]
      have hfirst : Segment.first 0 c rest = ⟨some rule, c :: rest, 0⟩ := by
        rw [Segment.first, hcovering]
        simp
      rw [segments, segmentsFrom, hfirst]
      simp [segmentsFrom]

end PatternWorkbench.Inference
