import PatternWorkbench.Proofs.Report.Escaping

/-!
# YAML scalars without loss

A text can be told from its scalar: the form of the scalar shows in its first
character, and each form can be undone.
-/

namespace PatternWorkbench.Report.Yaml

/-! ## Indentation -/

section Indentation

variable {indentation : Text}

@[simp]
theorem indented_nil (after : Bool) : indented indentation after [] = [] := rfl

theorem indented_cons_break {c : Char} (hbreak : isBreak c = true) (after : Bool)
    (rest : Text) :
    indented indentation after (c :: rest) = c :: indented indentation true rest := by
  rw [indented, if_pos hbreak]

theorem indented_cons_other {c : Char} (hbreak : isBreak c = false) (after : Bool)
    (rest : Text) :
    indented indentation after (c :: rest) =
      (if after then indentation else []) ++ c :: indented indentation false rest := by
  rw [indented, if_neg (by simp [hbreak])]
  cases after <;> simp

theorem indented_cons_ne_nil (after : Bool) (c : Char) (rest : Text) :
    indented indentation after (c :: rest) ≠ [] := by
  cases hc : isBreak c
  · simp [indented_cons_other hc]
  · simp [indented_cons_break hc]

/-- What an indented line begins with is no break. -/
theorem indented_break_ne_other {first : Char} {others : Text}
    (hindentation : indentation = first :: others) (hfirst : isBreak first = false)
    {c d : Char} (hc : isBreak c = true) (hd : isBreak d = false) (after : Bool)
    (left right : Text) :
    indented indentation after (c :: left) ≠ indented indentation after (d :: right) := by
  rw [indented_cons_break hc, indented_cons_other hd, hindentation]
  intro heq
  cases after
  · have hhead : c = d := (List.cons.inj heq).1
    simp [← hhead, hc] at hd
  · have hhead : c = first := (List.cons.inj heq).1
    simp [← hhead, hc] at hfirst

/-- The lines can be told from the indented ones. -/
theorem indented_injective {first : Char} {others : Text}
    (hindentation : indentation = first :: others) (hfirst : isBreak first = false)
    (after : Bool) : Function.Injective (indented indentation after) := by
  intro left
  induction left generalizing after with
  | nil =>
      intro right heq
      cases right with
      | nil => rfl
      | cons d right => exact absurd heq.symm (indented_cons_ne_nil after d right)
  | cons c left ih =>
      intro right heq
      cases right with
      | nil => exact absurd heq (indented_cons_ne_nil after c left)
      | cons d right =>
          have hapart {c d : Char} (hc : isBreak c = true) (hd : isBreak d = false) :=
            indented_break_ne_other hindentation hfirst hc hd after
          cases hc : isBreak c <;> cases hd : isBreak d
          · rw [indented_cons_other hc, indented_cons_other hd] at heq
            obtain ⟨rfl, hrest⟩ := List.cons.inj (List.append_cancel_left heq)
            rw [ih _ hrest]
          · exact absurd heq.symm (hapart hd hc _ _)
          · exact absurd heq (hapart hc hd _ _)
          · rw [indented_cons_break hc, indented_cons_break hd] at heq
            obtain ⟨rfl, hrest⟩ := List.cons.inj heq
            rw [ih _ hrest]

theorem indented_append (after : Bool) (left right : Text) :
    indented indentation after (left ++ right) =
      indented indentation after left ++
        indented indentation ((left.getLast?.map isBreak).getD after) right := by
  induction left generalizing after with
  | nil => rfl
  | cons c left ih =>
      have hlast (b : Bool) : (left.getLast?.map isBreak).getD (isBreak c) =
          ((c :: left).getLast?.map isBreak).getD b := by
        cases left <;> simp [List.getLast?_cons]
      rw [List.cons_append, ← hlast after]
      cases hc : isBreak c
      · rw [indented_cons_other hc, indented_cons_other hc, ih, List.append_assoc,
          List.cons_append]
      · rw [indented_cons_break hc, indented_cons_break hc, ih, List.cons_append]

/-- Indenting lines leaves the last character where it is. -/
theorem getLast?_indented (after : Bool) (text : Text) :
    (indented indentation after text).getLast? = text.getLast? := by
  rcases List.eq_nil_or_concat text with rfl | ⟨init, c, rfl⟩
  · rfl
  · rw [List.concat_eq_append, indented_append, List.getLast?_append, List.getLast?_append]
    cases hc : isBreak c
    · simp [indented_cons_other hc]
    · simp [indented_cons_break hc]

end Indentation

/-! ## Quotes -/

def doubled (c : Char) : Text :=
  if c == '\'' then [c, c] else [c]

def doubledWidth : Text → Nat
  | '\'' :: _ => 2
  | _ => 1

theorem doubled_selfDelimiting : SelfDelimiting doubled doubledWidth := by
  constructor
  · intro c
    unfold doubled
    split <;> simp
  · intro c rest
    by_cases hquote : c = '\'' <;> simp [doubled, doubledWidth, hquote]
  · intro c d heq
    unfold doubled at heq
    split at heq <;> split at heq <;> simp_all

theorem getLast?_doubled (text : Text) :
    (text.flatMap doubled).getLast? = text.getLast? := by
  rcases List.eq_nil_or_concat text with rfl | ⟨init, c, rfl⟩
  · rfl
  · by_cases hquote : c = '\'' <;> simp [doubled, hquote]

/-- The quote at the end is indented like any other character. -/
theorem singleQuoted_eq (indentation text : Text) :
    singleQuoted indentation text =
      '\'' :: indented indentation false (text.flatMap doubled ++ ['\'']) := by
  rw [indented_append, getLast?_doubled, indented_cons_other (by decide)]
  have hdoubled : (text.flatMap fun c => if c == '\'' then [c, c] else [c]) =
      text.flatMap doubled := rfl
  cases hlast : text.getLast? <;> simp only [singleQuoted, hdoubled, hlast] <;> simp

/-- A text in single quotes tells the text, once its indentation is known. -/
theorem singleQuoted_injective {indentation : Text} {first : Char} {others : Text}
    (hindentation : indentation = first :: others) (hfirst : isBreak first = false) :
    Function.Injective (singleQuoted indentation) := by
  intro left right heq
  rw [singleQuoted_eq, singleQuoted_eq] at heq
  have hlines := indented_injective hindentation hfirst false (List.cons.inj heq).2
  exact doubled_selfDelimiting.flatMap_injective (List.append_cancel_right hlines)

/-! ## Scalars -/

section Scalars

variable {indentation : Text}

theorem isBare_cons_of_isIndicator {c : Char} (hindicator : isIndicator c = true)
    (rest : Text) : isBare (c :: rest) = false := by
  simp [isBare, hasIndicator, beginsWithIndicator, hindicator]

theorem isBare_singleQuoted (text : Text) :
    isBare (singleQuoted indentation text) = false :=
  isBare_cons_of_isIndicator (by decide) _

theorem isBare_doubleQuoted (text : Text) : isBare (doubleQuoted text) = false :=
  isBare_cons_of_isIndicator (by decide) _

/-- A text of several lines is never written bare. -/
theorem isBare_of_mem_feed {text : Text} (hfeed : '\n' ∈ text) : isBare text = false := by
  have hbreak : text.any isBreak = true := List.any_eq_true.2 ⟨'\n', hfeed, by decide⟩
  simp [isBare, hbreak]

inductive Written (indentation text : Text) : Text → Prop where
  | bare (hbare : isBare text = true) : Written indentation text text
  | single (hbare : isBare text = false) :
      Written indentation text (singleQuoted indentation text)
  | double (hbare : isBare text = false) : Written indentation text (doubleQuoted text)

/-- A text that is not laid out as a block is written bare or in quotes of one kind. -/
theorem written_scalar {text : Text} (hblock : isBlock text = false) :
    Written indentation text (scalar indentation text) := by
  rw [scalar, hblock, if_neg Bool.false_ne_true]
  cases hbare : isBare text
  · rw [if_neg Bool.false_ne_true]
    split
    · exact .double hbare
    · split
      · exact .single hbare
      · exact .double hbare
  · have hline : text.contains '\n' = false := by
      simpa using fun hfeed => (isBare_of_mem_feed hfeed).symm.trans hbare
    rw [hline, if_neg Bool.false_ne_true, if_pos rfl]
    exact .bare hbare

/-- What is written tells the text, whichever way it was written. -/
theorem Written.eq_of_eq {first : Char} {others left right output output' : Text}
    (hindentation : indentation = first :: others) (hfirst : isBreak first = false)
    (hleft : Written indentation left output) (hright : Written indentation right output')
    (heq : output = output') : left = right := by
  cases hleft with
  | bare hbare =>
      cases hright with
      | bare => exact heq
      | single => simp [heq, isBare_singleQuoted] at hbare
      | double => simp [heq, isBare_doubleQuoted] at hbare
  | single =>
      cases hright with
      | bare hbare => simp [← heq, isBare_singleQuoted] at hbare
      | single => exact singleQuoted_injective hindentation hfirst heq
      | double => simp [singleQuoted, doubleQuoted] at heq
  | double =>
      cases hright with
      | bare hbare => simp [← heq, isBare_doubleQuoted] at hbare
      | single => simp [singleQuoted, doubleQuoted] at heq
      | double => exact doubleQuoted_injective heq

/-- Nothing but a block begins with a bar. -/
theorem Written.ne_block {text lines output : Text}
    (hwritten : Written indentation text output) :
    output ≠ '|' :: lines := by
  rintro rfl
  cases hwritten with
  | bare hbare => simp [isBare_cons_of_isIndicator (c := '|') (by decide)] at hbare

theorem Written.ne_nil {text output : Text} (hwritten : Written indentation text output) :
    output ≠ [] := by
  rintro rfl
  cases hwritten with
  | bare hbare => simp [isBare, isTyped] at hbare

end Scalars

/-! ## Blocks -/

theorem feed_notMem_blockHints (text : Text) : '\n' ∉ blockHints text := by
  unfold blockHints
  split <;> split <;> try split
  all_goals simp

theorem breakLine_append {line : Text} (hline : '\n' ∉ line) (rest : Text) :
    breakLine (line ++ '\n' :: rest) = (line, some rest) := by
  induction line with
  | nil => simp [breakLine]
  | cons c line ih =>
      simp only [List.mem_cons, not_or] at hline
      simp [breakLine, Ne.symm hline.1, ih hline.2]

end PatternWorkbench.Report.Yaml
