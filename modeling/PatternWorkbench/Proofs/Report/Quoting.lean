import PatternWorkbench.Proofs.Report.Escaping
import PatternWorkbench.Report.Quotation

/-!
# Quoted texts tell what they quote

A quoted text ends at its second quote that is not escaped, so whatever follows it
can be told from it.  It has no line feed of its own.
-/

namespace PatternWorkbench.Report

/-! ## Numbers of characters -/

theorem digitValue?_digitChar {n : Nat} (hn : n < 16) :
    digitValue? (Nat.digitChar n) = some n := by
  have hall : ∀ n < 16, digitValue? (Nat.digitChar n) = some n := by decide
  exact hall n hn

/-- A number in hexadecimal digits is read back. -/
theorem numeral?_hexadecimal (n : Nat) : numeral? 16 (hexadecimal n) = some n := by
  have hempty : (hexadecimal n).isEmpty = false :=
    List.isEmpty_eq_false_iff.2 Nat.toDigits_ne_nil
  rw [numeral?, hempty, if_neg Bool.false_ne_true]
  induction n using Nat.strongRecOn with
  | ind n ih =>
      have hlast : n % 16 < 16 := Nat.mod_lt n (by decide)
      rw [hexadecimal, Nat.toDigits_eq_if (by decide)]
      split
      case isTrue hn => simp [digitValue?_digitChar hn, hn]
      case isFalse hn =>
        have hbefore := ih (n / 16) (by omega) (List.isEmpty_eq_false_iff.2 Nat.toDigits_ne_nil)
        rw [hexadecimal] at hbefore
        rw [List.foldlM_append, hbefore]
        simp only [Option.bind_eq_bind, Option.bind_some, List.foldlM_cons, List.foldlM_nil,
          digitValue?_digitChar hlast, if_pos hlast, Nat.div_add_mod', Option.pure_def]

theorem hexadecimal_injective : Function.Injective hexadecimal := by
  intro left right heq
  apply Option.some.inj
  rw [← numeral?_hexadecimal left, heq, numeral?_hexadecimal]

theorem mem_hexadecimal {n : Nat} {d : Char} (hd : d ∈ hexadecimal n) :
    d ∈ "0123456789abcdef".toList := by
  have hdigit : ∀ n < 16, Nat.digitChar n ∈ "0123456789abcdef".toList := by decide
  induction n using Nat.strongRecOn with
  | ind n ih =>
      rw [hexadecimal, Nat.toDigits_eq_if (by decide)] at hd
      split at hd
      case isTrue hn => exact List.mem_singleton.1 hd ▸ hdigit n hn
      case isFalse hn =>
        rcases List.mem_append.1 hd with hbefore | hlast
        · exact ih (n / 16) (by omega) hbefore
        · exact List.mem_singleton.1 hlast ▸ hdigit _ (Nat.mod_lt n (by decide))

/-! ## Characters inside quotes -/

inductive Quoted (c : Char) : Text → Prop where
  | itself (hc : c ∉ ['\\', '"', '\n']) : Quoted c [c]
  | letter {letter : Char} (hread : ofLetter? letter = some c) : Quoted c ['\\', letter]
  | number : Quoted c ('\\' :: 'u' :: '{' :: (hexadecimal c.toNat ++ ['}']))

theorem quoted_quoteChar (c : Char) : Quoted c (quoteChar c) := by
  unfold quoteChar
  split
  case h_7 hquote hescape hfeed _ _ _ =>
    split
    case isTrue =>
      refine .itself ?_
      simp only [List.mem_cons, List.not_mem_nil, or_false, not_or]
      exact ⟨hescape, hquote, hfeed⟩
    case isFalse => exact .number
  all_goals exact .letter rfl

namespace Quoted

variable {c d : Char} {written : Text}

theorem ne_nil (hquoted : Quoted c written) : written ≠ [] := by
  cases hquoted <;> simp

theorem eq (hleft : Quoted c written) (hright : Quoted d written) : c = d := by
  have hmark : ofLetter? 'u' = none := rfl
  cases hleft with
  | itself =>
      cases hright with
      | itself => rfl
  | letter hread =>
      cases hright with
      | letter hread' => exact Option.some.inj (hread.symm.trans hread')
  | number =>
      generalize hsame : '\\' :: 'u' :: '{' :: (hexadecimal c.toNat ++ ['}']) = written
        at hright
      cases hright with
      | itself | letter => simp at hsame
      | number =>
          simp only [List.cons.injEq, true_and, List.append_left_inj] at hsame
          exact Char.toNat_inj.1 (hexadecimal_injective hsame)

/-- Only the quote itself begins with a quote, and it is escaped. -/
theorem head?_ne (hquoted : Quoted c written) : written.head? ≠ some '"' := by
  cases hquoted with
  | itself hc =>
      simp only [List.mem_cons, not_or] at hc
      simpa using hc.2.1
  | letter | number => simp

theorem feed_notMem (hquoted : Quoted c written) : '\n' ∉ written := by
  cases hquoted with
  | itself hc =>
      simp only [List.mem_cons, not_or] at hc
      simpa using Ne.symm hc.2.2.1
  | letter hread =>
      have hfeed : ofLetter? '\n' = none := rfl
      rintro (_ | ⟨_, _ | ⟨_, hnil⟩⟩)
      · rw [hfeed] at hread
        contradiction
      · contradiction
  | number =>
      have hdigits : '\n' ∉ hexadecimal c.toNat := fun hmem =>
        absurd (mem_hexadecimal hmem) (by decide)
      simp [hdigits]

end Quoted

/-- How long what is written for a character inside quotes is.  A number goes up
to its closing brace. -/
def quotedWidth : Text → Nat
  | '\\' :: 'u' :: rest => (rest.takeWhile (· != '}')).length + 3
  | '\\' :: _ => 2
  | _ => 1

/-- How much a quoted character takes up can be told without what follows. -/
theorem Quoted.width_append {c : Char} {written : Text} (hquoted : Quoted c written)
    (rest : Text) : quotedWidth (written ++ rest) = written.length := by
  cases hquoted with
  | itself hc =>
      simp only [List.mem_cons, not_or] at hc
      rw [List.singleton_append, quotedWidth] <;> simp [hc.1]
  | @letter letter hread =>
      have hmark : letter ≠ 'u' := by
        rintro rfl
        contradiction
      rw [List.cons_append, List.singleton_append, quotedWidth] <;> simp [hmark]
  | number =>
      have hdigits : ∀ d ∈ '{' :: hexadecimal c.toNat, (d != '}') = true := by
        refine List.forall_mem_cons.2 ⟨by decide, fun d hd => ?_⟩
        rw [bne_iff_ne]
        rintro rfl
        exact absurd (mem_hexadecimal hd) (by decide)
      have hsplit : '\\' :: 'u' :: '{' :: (hexadecimal c.toNat ++ ['}']) ++ rest =
          '\\' :: 'u' :: ('{' :: hexadecimal c.toNat ++ '}' :: rest) := by simp
      rw [hsplit, quotedWidth, List.takeWhile_append_of_pos hdigits]
      simp

theorem selfDelimiting_quoteChar : SelfDelimiting quoteChar quotedWidth where
  ne_nil c := (quoted_quoteChar c).ne_nil
  width_append c rest := (quoted_quoteChar c).width_append rest
  injective c d heq := (quoted_quoteChar c).eq (heq ▸ quoted_quoteChar d)

/-! ## Quoted texts -/

/-- What follows a quoted text can be told from it. -/
theorem quote_append_inj {left right behind behind' : Text}
    (heq : quote left ++ behind = quote right ++ behind') :
    left = right ∧ behind = behind' := by
  have hend (rest : Text) (c : Char) : ¬ quoteChar c <+: '"' :: rest := by
    rintro ⟨more, hmore⟩
    have hquoted := quoted_quoteChar c
    obtain ⟨first, others, hwritten⟩ := List.exists_cons_of_ne_nil hquoted.ne_nil
    rw [hwritten] at hmore hquoted
    exact hquoted.head?_ne (congrArg some (List.cons.inj hmore).1)
  simp only [quote, List.append_assoc, List.cons_append, List.cons.injEq, true_and,
    List.nil_append] at heq
  obtain ⟨hsame, hbehind⟩ :=
    selfDelimiting_quoteChar.flatMap_append_inj (hend behind) (hend behind') heq
  exact ⟨hsame, (List.cons.inj hbehind).2⟩

theorem quote_injective : Function.Injective quote := fun _ _ heq =>
  (quote_append_inj (congrArg (· ++ []) heq)).1

theorem feed_notMem_quote (text : Text) : '\n' ∉ quote text := by
  have hwritten : '\n' ∉ text.flatMap quoteChar := by
    rw [List.mem_flatMap]
    rintro ⟨c, _, hfeed⟩
    exact (quoted_quoteChar c).feed_notMem hfeed
  simp [quote, hwritten]

end PatternWorkbench.Report
