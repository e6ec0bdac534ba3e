import PatternWorkbench.Proofs.Inference.Fallback

/-!
# Abstraction shows

A quoted text can be told from any other by reading it from the left: outside of
a backslash and the character behind it there is no character with a meaning,
and behind a backslash there is no other.  The fragment of a shape breaks this
rule in its first few characters, so a sample that was abstracted anywhere is
never merely quoted.
-/

namespace PatternWorkbench.Inference

open Pattern.Escape (isMeta)

/-- Whether a text reads as the quotation of another. -/
def isQuotation : Text → Bool
  | [] => true
  | '\\' :: c :: rest => isMeta c && isQuotation rest
  | c :: rest => !isMeta c && isQuotation rest

theorem isQuotation_quoted_append (text rest : Text) :
    isQuotation (quoted text ++ rest) = isQuotation rest := by
  induction text with
  | nil => rfl
  | cons c text ih =>
      have hcons : quoted (c :: text) = quoted [c] ++ quoted text :=
        quoted_append [c] text
      rw [hcons, List.append_assoc]
      cases hmeta : isMeta c with
      | true =>
          have hquoted : quoted [c] = ['\\', c] := by simp [quoted, hmeta]
          simp [hquoted, isQuotation, hmeta, ih]
      | false =>
          have hquoted : quoted [c] = [c] := by simp [quoted, hmeta]
          have hne : c ≠ '\\' := by
            rintro rfl
            contradiction
          rw [hquoted, List.singleton_append, isQuotation, hmeta, ih]
          · rfl
          · intro d rest' hc
            exact absurd hc hne

theorem isQuotation_quoted (text : Text) : isQuotation (quoted text) = true := by
  rw [← List.append_nil (quoted text), isQuotation_quoted_append]
  rfl

/-- Every shape's fragment has a class, a group or a letter behind a backslash
before anything that a quotation ends with. -/
theorem isQuotation_fragment_append (rule : Rule) (rest : Text) :
    isQuotation (rule.shape.fragment ++ rest) = false := by
  cases rule <;> rfl

def Segment.IsVerbatim (segment : Segment) : Prop :=
  segment.rule = none ∨ segment.rule = some .whitespace ∧ segment.text = [' ']

theorem Segment.IsVerbatim.fragment_eq {segment : Segment}
    (hverbatim : segment.IsVerbatim) : segment.fragment = quoted segment.text := by
  rcases hverbatim with hnone | ⟨hrule, htext⟩
  · rw [fragment, hnone]
  · rw [fragment, hrule, htext]
    rfl

/-- A segment that is not verbatim has the fragment of a rule. -/
theorem Segment.exists_fragment_eq {segment : Segment}
    (hverbatim : ¬ segment.IsVerbatim) :
    ∃ rule : Rule, segment.fragment = rule.shape.fragment := by
  cases hrule : segment.rule with
  | none => exact absurd (Or.inl hrule) hverbatim
  | some rule =>
      have hspace : ¬ (rule = .whitespace ∧ segment.text = [' ']) := by
        rintro ⟨rfl, htext⟩
        exact hverbatim (Or.inr ⟨hrule, htext⟩)
      refine ⟨rule, ?_⟩
      rw [fragment, hrule]
      exact if_neg hspace

/-- Fragments side by side read as a quotation if each gives its text as it is,
and only then. -/
theorem isQuotation_flatMap_fragment (segments : List Segment) :
    isQuotation (segments.flatMap Segment.fragment) = true ↔
      ∀ segment ∈ segments, segment.IsVerbatim := by
  induction segments with
  | nil => simp [isQuotation]
  | cons segment later ih =>
      rw [List.flatMap_cons, List.forall_mem_cons]
      by_cases hverbatim : segment.IsVerbatim
      · rw [hverbatim.fragment_eq, isQuotation_quoted_append, ih]
        exact (and_iff_right hverbatim).symm
      · obtain ⟨rule, hfragment⟩ := Segment.exists_fragment_eq hverbatim
        rw [hfragment, isQuotation_fragment_append]
        simp [hverbatim]

theorem flatMap_fragment_of_isVerbatim {segments : List Segment}
    (hverbatim : ∀ segment ∈ segments, segment.IsVerbatim) :
    segments.flatMap Segment.fragment =
      quoted (segments.map Segment.text).flatten := by
  induction segments with
  | nil => rfl
  | cons segment later ih =>
      obtain ⟨hfirst, hlater⟩ := List.forall_mem_cons.1 hverbatim
      rw [List.flatMap_cons, hfirst.fragment_eq, ih hlater, List.map_cons,
        List.flatten_cons, quoted_append]

/-- A sample is merely quoted if and only if each segment is a character that no
rule covers or a single space. -/
theorem generalize_eq_quoted_iff (text : Text) :
    generalize text = quoted text ↔
      ∀ segment ∈ segments text,
        segment.rule = none ∨
          segment.rule = some .whitespace ∧ segment.text = [' '] := by
  constructor
  · intro hsame
    apply (isQuotation_flatMap_fragment (segments text)).1
    rw [← generalize, hsame]
    exact isQuotation_quoted text
  · intro hverbatim
    rw [generalize, flatMap_fragment_of_isVerbatim hverbatim]
    exact congrArg quoted (flatten_text_segmentsFrom 0 text)

/-- A lone space has a rule, and is merely quoted all the same. -/
theorem segments_space :
    segments [' '] = [⟨some .whitespace, [' '], 0⟩] ∧ generalize [' '] = quoted [' '] := by
  have hblank : Kind.blank.holds ' ' = true := by
    rw [Kind.holds, Unicode.isBlank_eq_has]
    decide
  have hpasses : (Shape.manyOf .blank).Passes ([' '] ++ []) :=
    .cons ⟨by simpa using hblank, Nat.le_refl 1, by simp [Count.bound]⟩ .nil
  have haccepts : Rule.whitespace.shape.accepts [' '] = true :=
    (Shape.accepts_iff Rule.whitespace.isPlain_shape).2 hpasses
  have hsegments : segments [' '] = [⟨some .whitespace, [' '], 0⟩] := by
    have hothers : ∀ other ∈ Rule.whitespace.before, other ≠ .whitespace := by decide
    exact segments_eq_singleton haccepts fun other hother =>
      Rule.cover?_eq_none_of_isBlank (hothers other hother) hblank
  refine ⟨hsegments, ?_⟩
  rw [generalize, hsegments]
  rfl

end PatternWorkbench.Inference
