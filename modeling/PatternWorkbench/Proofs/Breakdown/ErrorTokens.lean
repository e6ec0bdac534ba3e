import PatternWorkbench.Proofs.Breakdown.LongestMatch

/-!
# Which characters are errors

A token is an error exactly where a class begins that no bracket closes, or where
a backslash ends the pattern.  Every lexeme takes the character behind a
backslash along, so reading tokens never loses step with the escape sequences,
and a class that is not closed stays so to the end of the pattern.
-/

namespace PatternWorkbench.Breakdown

open Pattern (IsPaired unescaped)

/-! ## Lexemes and escape sequences -/

/-- Only a backslash at the end of a text may have nothing to escape. -/
theorem isPaired_concat (text : Text) {c : Char} (hc : c ≠ '\\') :
    IsPaired (text ++ [c]) := by
  fun_induction unescaped text with
  | case1 => exact .cons hc .nil
  | case2 escaped rest ih => exact .escape escaped ih
  | case3 first rest hescape ih =>
      by_cases hfirst : first = '\\'
      · subst hfirst
        cases rest with
        | nil => exact .escape c .nil
        | cons d rest => exact absurd rfl (hescape d rest rfl)
      · exact .cons hfirst ih

namespace Lexeme

variable {text : Text} {lexeme : Lexeme}

/-- In a lexeme every backslash has the character that it escapes: all but the
escape sequences end in another character. -/
theorem isPaired_of_mem_language (hmem : text ∈ lexeme.language) : IsPaired text := by
  cases lexeme with
  | escape =>
      obtain ⟨_, ⟨c, -, rfl⟩, rfl⟩ := mem_word_mul.1 hmem
      exact .escape c .nil
  | namedGroupOpen =>
      obtain ⟨sign, c, name, _, _, _, rfl⟩ := mem_namedGroupOpen.1 hmem
      have hpaired := @isPaired_concat ('(' :: (sign ++ c :: name)) '>' (by decide)
      simpa using hpaired
  | nonCapturingOpen =>
      obtain rfl := mem_word.1 hmem
      exact isPaired_concat ['(', '?'] (by decide)
  | characterClass =>
      obtain ⟨inside, _, rfl⟩ := mem_characterClass.1 hmem
      exact isPaired_concat ('[' :: inside) (by decide)
  | quantifier =>
      rcases mem_quantifier.1 hmem with (rfl | rfl | rfl) | ⟨_, hbounds, rfl⟩
      · exact isPaired_concat [] (by decide)
      · exact isPaired_concat [] (by decide)
      · exact isPaired_concat [] (by decide)
      · cases hbounds with
        | @once low => exact isPaired_concat ('{' :: low) (by decide)
        | @range low high =>
            have hpaired := @isPaired_concat ('{' :: (low ++ ',' :: high)) '}' (by decide)
            simpa using hpaired
  | anchor =>
      rcases hmem with rfl | rfl
      · exact isPaired_concat [] (by decide)
      · exact isPaired_concat [] (by decide)
  | groupOpen | groupClose | alternation | wildcard =>
      obtain rfl := mem_word.1 hmem
      exact isPaired_concat [] (by decide)
  | literal =>
      obtain ⟨c, hc, rfl⟩ := hmem
      refine isPaired_concat [] ?_
      rintro rfl
      exact absurd hc (by decide)

/-- The inside of a class is followed by a bracket that closes it. -/
theorem closing_mem_of_characterClass (hmem : text ∈ characterClass.language) :
    ']' ∈ unescaped text := by
  obtain ⟨inside, hinner, rfl⟩ := mem_characterClass.1 hmem
  rw [Pattern.unescaped_cons (by decide), Pattern.unescaped_append hinner.paired]
  simp [Pattern.unescaped_cons]

end Lexeme

/-! ## The first token -/

/-- Where a token is an error: at a class that is not closed, and at a backslash
with nothing behind it. -/
def IsErrorAt (c : Char) (rest : Text) : Prop :=
  c = '[' ∧ ']' ∉ unescaped rest ∨ c = '\\' ∧ rest = []

namespace Token

variable {c : Char} {rest : Text}

theorem first?_eq_none_of_isErrorAt (herror : IsErrorAt c rest) :
    Lexeme.first? c rest = none := by
  rcases herror with ⟨rfl, hclosing⟩ | ⟨rfl, rfl⟩
  · rw [Lexeme.first?, Lexeme.classLength?_eq_none_iff.2 hclosing]
    rfl
  · rfl

/-- Where a class or an escape breaks off, one character becomes an error with its own
note. -/
theorem first_of_isErrorAt (herror : IsErrorAt c rest) (start : Nat) :
    first start c rest = ⟨.error, [c], start,
      some (if c = '[' then Note.unclosedClass else Note.loneBackslash)⟩ := by
  rw [first_of_none (first?_eq_none_of_isErrorAt herror)]
  rcases herror with ⟨rfl, _⟩ | ⟨rfl, rfl⟩
  · rfl
  · rfl

theorem isErrorAt_of_stray (hfirst : Lexeme.first? c rest = none) (start : Nat)
    (hkind : (stray start c rest.isEmpty).kind = .error) : IsErrorAt c rest := by
  unfold stray at hkind
  split at hkind
  case h_1 =>
    refine Or.inl ⟨rfl, Lexeme.classLength?_eq_none_iff.1 ?_⟩
    exact Option.map_eq_none_iff.1 hfirst
  case h_2 =>
    split at hkind
    case isTrue hlast => exact Or.inr ⟨rfl, List.isEmpty_iff.1 hlast⟩
    case isFalse => contradiction
  case h_3 | h_4 => contradiction

/-- A token is an error exactly at a class that is not closed and at a last backslash.
-/
theorem kind_first_eq_error_iff (start : Nat) :
    (first start c rest).kind = .error ↔ IsErrorAt c rest := by
  constructor
  · intro hkind
    cases hfirst : Lexeme.first? c rest with
    | none =>
        rw [first_of_none hfirst] at hkind
        exact isErrorAt_of_stray hfirst start hkind
    | some found =>
        obtain ⟨lexeme, length⟩ := found
        rw [first, hfirst] at hkind
        cases lexeme <;> contradiction
  · intro herror
    rw [first_of_isErrorAt herror]

/-- A class has a closing bracket that is not escaped. -/
theorem closing_mem_of_kind {start : Nat}
    (hkind : (first start c rest).kind = .characterClass) :
    ']' ∈ unescaped (first start c rest).text := by
  cases hfirst : Lexeme.first? c rest with
  | none =>
      rw [first_of_none hfirst] at hkind
      unfold stray at hkind
      split at hkind
      case h_2 => split at hkind <;> contradiction
      all_goals contradiction
  | some found =>
      obtain ⟨lexeme, length⟩ := found
      obtain ⟨text, _, _, _, hmem, htoken⟩ := exists_text_first hfirst start
      rw [htoken] at hkind ⊢
      obtain rfl : lexeme = .characterClass := by
        cases lexeme with
        | characterClass => rfl
        | _ => contradiction
      exact Lexeme.closing_mem_of_characterClass hmem

/-- The characters of a pattern that are not escaped are those of its first token
and those behind it. -/
theorem unescaped_first_append (start : Nat) (c : Char) (rest : Text) :
    unescaped (c :: rest) = unescaped (first start c rest).text ++
      unescaped ((c :: rest).drop (first start c rest).text.length) := by
  have hwhole := text_first_append_drop start c rest
  by_cases hpaired : IsPaired (first start c rest).text
  · rw [← Pattern.unescaped_append hpaired, hwhole]
  · -- Only a lone backslash escapes nothing, and nothing is behind it.
    have hnone : Lexeme.first? c rest = none := by
      rw [Option.eq_none_iff_forall_ne_some]
      rintro ⟨lexeme, length⟩ hfirst
      obtain ⟨text, _, _, _, hmem, htoken⟩ := exists_text_first hfirst start
      rw [htoken] at hpaired
      exact hpaired (Lexeme.isPaired_of_mem_language hmem)
    rw [first_of_none hnone, text_stray] at hpaired ⊢
    obtain rfl : c = '\\' := by
      by_contra hc
      exact hpaired (.cons hc .nil)
    cases rest with
    | nil => rfl
    | cons d rest => simp [Lexeme.first?_escape] at hnone

end Token

/-! ## Behind a class that is not closed -/

/-- Where no closing bracket is left, there is neither a class nor a closing bracket
among the tokens. -/
theorem unclosed_tokenizeFrom {start : Nat} {pattern : Text}
    (hclosing : ']' ∉ unescaped pattern) :
    ∀ token ∈ tokenizeFrom start pattern,
      token.kind ≠ .characterClass ∧ token.text ≠ [']'] := by
  fun_induction tokenizeFrom start pattern with
  | case1 => simp
  | case2 start c rest token ih =>
      rw [Token.unescaped_first_append start, List.mem_append, not_or] at hclosing
      refine List.forall_mem_cons.2 ⟨⟨fun hkind => ?_, fun htext => ?_⟩, ih hclosing.2⟩
      · exact hclosing.1 (Token.closing_mem_of_kind hkind)
      · rw [show (Token.first start c rest).text = [']'] from htext] at hclosing
        exact hclosing.1 (by decide)

/-! ## Tokens of a pattern -/

/-- Which tokens of a pattern are errors, what they look like, and what can stand
behind them. -/
structure HasExactErrors (pattern : Text) (tokens : List Token) : Prop where
  error_iff : ∀ token ∈ tokens, ∃ before c rest, pattern = before ++ c :: rest ∧
    byteLength before = token.start ∧ (token.kind = .error ↔ IsErrorAt c rest) ∧
    (token.kind = .error → token.text = [c] ∧
      token.note = some (if c = '[' then Note.unclosedClass else Note.loneBackslash))
  lone : ∀ earlier token later, tokens = earlier ++ token :: later →
    token.kind = .error → token.text = ['\\'] → later = []
  unclosed : ∀ earlier token later, tokens = earlier ++ token :: later →
    token.kind = .error → token.text = ['['] →
      ∀ other ∈ later, other.kind ≠ .characterClass ∧ other.text ≠ [']']

/-- The errors among the tokens of a pattern stand exactly where something breaks off,
one character each. -/
theorem tokenize_hasExactErrors (pattern : Text) :
    HasExactErrors pattern (tokenize pattern) := by
  have herror {earlier later : List Token} {token : Token}
      (htokens : tokenize pattern = earlier ++ token :: later)
      (hkind : token.kind = .error) :
      ∃ c rest, IsErrorAt c rest ∧ token.text = [c] ∧
        later = tokenizeFrom token.stop rest := by
    obtain ⟨c, rest, _, rfl, rfl⟩ := exists_eq_first_of_tokenizeFrom htokens
    have hat := (Token.kind_first_eq_error_iff _).1 hkind
    refine ⟨c, rest, hat, ?_, ?_⟩
    · rw [Token.first_of_isErrorAt hat]
    · rw [Token.first_of_isErrorAt hat]
      rfl
  refine ⟨fun token htoken => ?_, fun earlier token later htokens hkind htext => ?_,
    fun earlier token later htokens hkind htext => ?_⟩
  · obtain ⟨earlier, later, htokens⟩ := List.append_of_mem htoken
    obtain ⟨c, rest, hpattern, rfl, _⟩ := exists_eq_first_of_tokenizeFrom htokens
    refine ⟨detokenize earlier, c, rest, hpattern, ?_, Token.kind_first_eq_error_iff _,
      fun hkind => ?_⟩
    · rw [Token.start_first, Nat.zero_add]
    · rw [Token.first_of_isErrorAt ((Token.kind_first_eq_error_iff _).1 hkind)]
      exact ⟨rfl, rfl⟩
  · obtain ⟨c, rest, hat, hsame, rfl⟩ := herror htokens hkind
    obtain rfl : c = '\\' := List.singleton_inj.1 (hsame.symm.trans htext)
    rcases hat with ⟨hc, _⟩ | ⟨_, rfl⟩
    · exact absurd hc (by decide)
    · rw [tokenizeFrom]
  · obtain ⟨c, rest, hat, hsame, rfl⟩ := herror htokens hkind
    obtain rfl : c = '[' := List.singleton_inj.1 (hsame.symm.trans htext)
    rcases hat with ⟨_, hclosing⟩ | ⟨hc, _⟩
    · exact unclosed_tokenizeFrom hclosing
    · exact absurd hc (by decide)

end PatternWorkbench.Breakdown
