import PatternWorkbench.Proofs.Report.Scalar
import PatternWorkbench.Proofs.Unicode.Ascii
import PatternWorkbench.Report.Yaml
import PatternWorkbench.Settings.Options

/-!
# What is left of a report without the blanks at its end

A fragment can be told from its report in a data format unless the report ends in
blanks of the fragment.
-/

namespace PatternWorkbench.Report

open Settings (Format)
open Unicode (isBlank)

/-! ## Blanks at the end -/

def endsBlank (text : Text) : Bool :=
  text.getLast?.any isBlank

/-- Whether a given text ends in a blank is read off the table of white space. -/
theorem endsBlank_eq_has (text : Text) :
    endsBlank text = text.getLast?.any fun c => Unicode.whiteSpace.has c.toNat := by
  rw [endsBlank, funext Unicode.isBlank_eq_has]

theorem endsBlank_concat (text : Text) (c : Char) :
    endsBlank (text ++ [c]) = isBlank c := by
  simp [endsBlank]

theorem endsBlank_append {text : Text} (hne : text ≠ []) (before : Text) :
    endsBlank (before ++ text) = endsBlank text := by
  rw [endsBlank, List.getLast?_append, List.getLast?_eq_some_getLast hne, Option.some_or,
    ← List.getLast?_eq_some_getLast hne, endsBlank]

theorem trimEnd_of_endsBlank {text : Text} (hend : endsBlank text = false) :
    trimEnd text = text := by
  rcases List.eq_nil_or_concat text with rfl | ⟨init, c, rfl⟩
  · rfl
  · rw [List.concat_eq_append, endsBlank_concat] at hend
    simp [trimEnd, hend]

theorem trimEnd_concat_of_isBlank {c : Char} (hblank : isBlank c = true) (text : Text) :
    trimEnd (text ++ [c]) = trimEnd text := by
  simp [trimEnd, hblank]

theorem trimEnd_append_of_isBlank {blanks : Text} (hblanks : ∀ c ∈ blanks, isBlank c = true)
    (text : Text) : trimEnd (text ++ blanks) = trimEnd text := by
  have hreverse : ∀ c ∈ blanks.reverse, isBlank c = true :=
    fun c hc => hblanks c (List.mem_reverse.1 hc)
  rw [trimEnd, List.reverse_append, List.dropWhile_append_of_pos hreverse, trimEnd]

/-- Nothing is trimmed off what ends in something to be seen. -/
theorem trimEnd_append {before : Text} (hend : endsBlank before = false) (after : Text) :
    trimEnd (before ++ after) = before ++ trimEnd after := by
  have hkept : before.reverse.dropWhile isBlank = before.reverse :=
    List.reverse_eq_iff.1 (trimEnd_of_endsBlank hend)
  rw [trimEnd, trimEnd, List.reverse_append, List.dropWhile_append, hkept]
  split
  case isTrue hnone => rw [List.isEmpty_iff.1 hnone]; simp
  case isFalse => simp

theorem mem_of_mem_trimEnd {c : Char} {text : Text} (hc : c ∈ trimEnd text) : c ∈ text := by
  have hkept : c ∈ text.reverse.dropWhile isBlank := List.mem_reverse.1 hc
  exact List.mem_reverse.1 ((List.dropWhile_suffix isBlank).mem hkept)

theorem endsBlank_trimEnd (text : Text) : endsBlank (trimEnd text) = false := by
  cases hkept : text.reverse.dropWhile isBlank with
  | nil => rw [trimEnd, hkept]; rfl
  | cons c rest =>
      have hsolid := List.head?_dropWhile_not isBlank text.reverse
      simp [hkept] at hsolid
      rw [trimEnd, hkept, List.reverse_cons, endsBlank_concat, hsolid]

/-- Trimming changes nothing exactly where there is no blank at the end. -/
theorem trimEnd_eq_self_iff (text : Text) : trimEnd text = text ↔ endsBlank text = false :=
  ⟨fun heq => heq ▸ endsBlank_trimEnd text, trimEnd_of_endsBlank⟩

/-- A fragment whose report in a format ends in nothing that is taken for the end
of the report itself. -/
inductive Survives : Format → Text → Prop where
  | solid {format : Format} {fragment : Text} (hend : endsBlank fragment = false) :
      Survives format fragment
  | json (fragment : Text) : Survives .json fragment
  /-- The fragment stands between quotes. -/
  | quoted {fragment : Text} (hblock : Yaml.isBlock fragment = false)
      (hbare : Yaml.isBare fragment = false) : Survives .yaml fragment
  /-- The break at the end is the one that closes the last line. -/
  | line {lines : Text} (hne : lines ≠ []) (hend : endsBlank lines = false) :
      Survives .yaml (lines ++ ['\n'])

/-! ## JSON -/

/-- A record ends in a brace, so trimming does not touch it. -/
theorem trimEnd_json_fragment (fragment : Text) :
    trimEnd (Json.render (.ofFragment fragment none)) =
      Json.render (.ofFragment fragment none) := by
  apply trimEnd_of_endsBlank
  rw [Json.render, Document.ofFragment, Json.renderAt, Json.renderFields, Json.enclosed,
    if_neg (by simp), endsBlank_concat, Unicode.isBlank_eq_has]
  decide

theorem json_fragment_injective :
    Function.Injective fun fragment => Json.render (.ofFragment fragment none) := by
  intro left right heq
  apply Json.string_injective
  simpa [Json.render, Document.ofFragment, Json.renderAt, Json.renderFields, Json.enclosed,
    List.intercalate] using heq

/-! ## YAML -/

namespace Yaml

theorem isBlank_feed : isBlank '\n' = true := by
  rw [Unicode.isBlank_eq_has]
  decide

theorem isBreak_eq_false {c : Char} (hblank : isBlank c = false) : isBreak c = false := by
  by_contra hbreak
  simp only [isBreak, Bool.not_eq_false, Bool.or_eq_true, beq_iff_eq] at hbreak
  rw [Unicode.isBlank_eq_has] at hblank
  rcases hbreak with (((rfl | rfl) | rfl) | rfl) | rfl <;> revert hblank <;> decide

/-! ### Blocks -/

section Scalars

variable {indentation : Text}

/-- A block that is told to end without a break. -/
theorem blockHints_solid {text : Text} (hne : text ≠ []) (hend : endsBlank text = false) :
    '-' ∈ blockHints text := by
  rcases List.eq_nil_or_concat text with rfl | ⟨init, c, rfl⟩
  · contradiction
  · rw [List.concat_eq_append, endsBlank_concat] at hend
    simp [blockHints, isBreak_eq_false hend]

theorem blockHints_line {lines : Text} (hne : lines ≠ []) (hend : endsBlank lines = false) :
    '-' ∉ blockHints (lines ++ ['\n']) := by
  rcases List.eq_nil_or_concat lines with rfl | ⟨init, c, rfl⟩
  · contradiction
  · rw [List.concat_eq_append, endsBlank_concat] at hend
    have hfeed : isBreak '\n' = true := by decide
    simp only [blockHints, List.concat_eq_append, List.reverse_append, List.reverse_singleton,
      List.singleton_append, List.head?_cons, Option.all_some, hfeed, isBreak_eq_false hend]
    split <;> simp

def trimmedBlock (indentation text : Text) : Text :=
  ['|'] ++ blockHints text ++ ['\n'] ++ indented indentation true (trimEnd text)

section Survivors

variable {text : Text}

/-- The hints tell whether a block has lost the break at its end. -/
theorem eq_trimEnd_append (hblock : isBlock text = true)
    (hsurvives : Survives .yaml text) :
    text = trimEnd text ++ if '-' ∈ blockHints text then [] else ['\n'] := by
  cases hsurvives with
  | quoted hquoted => simp [hquoted] at hblock
  | solid hend =>
      have hne : text ≠ [] := by
        rintro rfl
        simp [isBlock] at hblock
      rw [if_pos (blockHints_solid hne hend), trimEnd_of_endsBlank hend, List.append_nil]
  | line hne hend =>
      rw [if_neg (blockHints_line hne hend), trimEnd_concat_of_isBlank isBlank_feed,
        trimEnd_of_endsBlank hend]

theorem trimEnd_append_indented {lines : Text} (hne : lines ≠ [])
    (hend : endsBlank lines = false) (before : Text) :
    trimEnd (before ++ indented indentation true lines) =
      before ++ indented indentation true lines := by
  apply trimEnd_of_endsBlank
  obtain ⟨c, rest, rfl⟩ := List.exists_cons_of_ne_nil hne
  rw [endsBlank_append (indented_cons_ne_nil true c rest), Report.endsBlank,
    getLast?_indented]
  exact hend

/-- Trimming a block takes its last line feed, and nothing of a text that survives. -/
theorem trimEnd_block (hblock : isBlock text = true) (hsurvives : Survives .yaml text)
    (before : Text) :
    trimEnd (before ++ block indentation text) =
      before ++ trimmedBlock indentation text := by
  rw [block, trimmedBlock, ← List.append_assoc, ← List.append_assoc]
  cases hsurvives with
  | quoted hquoted => simp [hquoted] at hblock
  | solid hend =>
      have hne : text ≠ [] := by
        rintro rfl
        simp [isBlock] at hblock
      rw [trimEnd_of_endsBlank hend, trimEnd_append_indented hne hend]
      simp only [List.append_assoc]
  | @line lines hne hend =>
      rw [trimEnd_concat_of_isBlank isBlank_feed, trimEnd_of_endsBlank hend, indented_append,
        indented_cons_break (by decide), indented_nil, ← List.append_assoc,
        trimEnd_concat_of_isBlank isBlank_feed, trimEnd_append_indented hne hend]
      simp only [List.append_assoc]

end Survivors

/-- A trimmed block still tells a text that survives. -/
theorem trimmedBlock_injOn {first : Char} {others left right : Text}
    (hindentation : indentation = first :: others) (hfirst : isBreak first = false)
    (hleft : isBlock left = true) (hright : isBlock right = true)
    (hsurvives : Survives .yaml left) (hsurvives' : Survives .yaml right)
    (heq : trimmedBlock indentation left = trimmedBlock indentation right) : left = right := by
  obtain ⟨hhints, hlines⟩ : blockHints left = blockHints right ∧
      indented indentation true (trimEnd left) = indented indentation true (trimEnd right) := by
    have hlines := congrArg breakLine (List.cons.inj heq).2
    simpa [breakLine_append, feed_notMem_blockHints] using hlines
  rw [eq_trimEnd_append hleft hsurvives, eq_trimEnd_append hright hsurvives', hhints,
    indented_injective hindentation hfirst true hlines]

theorem Written.endsBlank {text output : Text} (hwritten : Written indentation text output)
    (hend : isBare text = true → endsBlank text = false) : endsBlank output = false := by
  cases hwritten with
  | bare hbare => exact hend hbare
  | single =>
      rw [singleQuoted, endsBlank_concat, Unicode.isBlank_eq_has]
      decide
  | double =>
      rw [doubleQuoted, endsBlank_concat, Unicode.isBlank_eq_has]
      decide

def trimmedScalar (indentation text : Text) : Text :=
  if isBlock text then trimmedBlock indentation text else scalar indentation text

/-- Trimming what is written takes nothing that tells the text. -/
theorem trimEnd_scalar {text : Text} (hsurvives : Survives .yaml text) (before : Text) :
    trimEnd (before ++ scalar indentation text) = before ++ trimmedScalar indentation text := by
  cases hblock : isBlock text with
  | true =>
      rw [trimmedScalar, scalar, if_pos hblock, if_pos hblock,
        trimEnd_block hblock hsurvives]
  | false =>
      have hwritten : Written indentation text (scalar indentation text) :=
        written_scalar hblock
      -- Outside of a block, blanks at the end stand between quotes or are not there.
      have hend : endsBlank (scalar indentation text) = false := by
        refine hwritten.endsBlank fun hbare => ?_
        cases hsurvives with
        | solid hend => exact hend
        | quoted _ hnot => simp [hbare] at hnot
        | line => simp [isBare_of_mem_feed] at hbare
      rw [trimmedScalar, hblock, if_neg Bool.false_ne_true]
      exact trimEnd_of_endsBlank ((endsBlank_append hwritten.ne_nil before).trans hend)

/-- Texts that survive without the blanks at the end are told apart. -/
theorem trimmedScalar_injOn {first : Char} {others left right : Text}
    (hindentation : indentation = first :: others) (hfirst : isBreak first = false)
    (hleft : Survives .yaml left) (hright : Survives .yaml right)
    (heq : trimmedScalar indentation left = trimmedScalar indentation right) :
    left = right := by
  unfold trimmedScalar at heq
  cases hblock : isBlock left <;> cases hblock' : isBlock right <;>
    simp only [hblock, hblock', if_true, Bool.false_eq_true, if_false] at heq
  · exact (written_scalar hblock).eq_of_eq hindentation hfirst (written_scalar hblock') heq
  · exact absurd heq (written_scalar hblock).ne_block
  · exact absurd heq.symm (written_scalar hblock').ne_block
  · exact trimmedBlock_injOn hindentation hfirst hblock hblock' hleft hright heq

end Scalars

end Yaml

theorem yaml_fragment (fragment : Text) :
    Yaml.render (.ofFragment fragment none) =
      "fragment: ".toList ++ Yaml.scalar [' ', ' '] fragment := by
  simp [Yaml.render, Document.ofFragment, Yaml.renderAt, Yaml.renderFields,
    Yaml.renderValue, Yaml.stacked, Yaml.indentation]

/-- Fragments that survive are told apart by what is left of their reports. -/
theorem yaml_fragment_injOn {left right : Text}
    (hleft : Survives .yaml left) (hright : Survives .yaml right)
    (heq : trimEnd (Yaml.render (.ofFragment left none)) =
      trimEnd (Yaml.render (.ofFragment right none))) : left = right := by
  rw [yaml_fragment, yaml_fragment, Yaml.trimEnd_scalar hleft,
    Yaml.trimEnd_scalar hright] at heq
  exact Yaml.trimmedScalar_injOn rfl (by decide) hleft hright (List.append_cancel_left heq)

end PatternWorkbench.Report
