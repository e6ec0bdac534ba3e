import Mathlib.Computability.Language
import PatternWorkbench.Proofs.Breakdown.Lexing

/-!
# Lexemes are longest matches

Each kind of lexeme has a regular language.  The reader of lexemes takes from a
pattern the longest beginning that belongs to one of them.  The one exception
is a named group whose name nobody has closed yet: there it takes nothing, and
what could be taken is the parenthesis alone.
-/

namespace PatternWorkbench.Breakdown

open Pattern.ClassReading (IsInner)
open scoped Computability

/-! ## Building blocks of languages -/

def word (text : Text) : Language Char :=
  {text}

def oneOf (test : Char → Bool) : Language Char :=
  {text | ∃ c, test c = true ∧ text = [c]}

section Blocks

variable {text : Text} {c : Char} {test : Char → Bool} {language : Language Char}

theorem mem_word {spelling : Text} : text ∈ word spelling ↔ text = spelling :=
  Iff.rfl

theorem mem_word_mul {spelling : Text} :
    text ∈ word spelling * language ↔ ∃ rest ∈ language, text = spelling ++ rest := by
  rw [Language.mem_mul]
  constructor
  · rintro ⟨_, rfl, rest, hrest, rfl⟩
    exact ⟨rest, hrest, rfl⟩
  · rintro ⟨rest, hrest, rfl⟩
    exact ⟨spelling, rfl, rest, hrest, rfl⟩

theorem mem_oneOf_mul :
    text ∈ oneOf test * language ↔
      ∃ c, test c = true ∧ ∃ rest ∈ language, text = c :: rest := by
  rw [Language.mem_mul]
  constructor
  · rintro ⟨_, ⟨c, hc, rfl⟩, rest, hrest, rfl⟩
    exact ⟨c, hc, rest, hrest, rfl⟩
  · rintro ⟨c, hc, rest, hrest, rfl⟩
    exact ⟨[c], ⟨c, hc, rfl⟩, rest, hrest, rfl⟩

theorem mem_mul_word {spelling : Text} :
    text ∈ language * word spelling ↔ ∃ early ∈ language, text = early ++ spelling := by
  rw [Language.mem_mul]
  constructor
  · rintro ⟨early, hearly, _, rfl, rfl⟩
    exact ⟨early, hearly, rfl⟩
  · rintro ⟨early, hearly, rfl⟩
    exact ⟨early, hearly, spelling, rfl, rfl⟩

theorem append_mem_kstar {piece : Text} (hpiece : piece ∈ language)
    (htext : text ∈ language∗) : piece ++ text ∈ language∗ := by
  have hle : language * language∗ ≤ language∗ := mul_kstar_le_kstar
  exact hle (Language.append_mem_mul hpiece htext)

/-- A repetition is built up piece by piece. -/
theorem kstar_induction {motive : Text → Prop} (hnil : motive [])
    (hstep : ∀ piece ∈ language, ∀ text, motive text → motive (piece ++ text))
    (text : Text) (htext : text ∈ language∗) : motive text := by
  obtain ⟨pieces, rfl, hpieces⟩ := Language.mem_kstar.1 htext
  clear htext
  induction pieces with
  | nil => exact hnil
  | cons piece later ih =>
      rw [List.forall_mem_cons] at hpieces
      exact hstep piece hpieces.1 _ (ih hpieces.2)

theorem mem_kstar_oneOf : text ∈ (oneOf test)∗ ↔ ∀ c ∈ text, test c = true := by
  constructor
  · refine kstar_induction (motive := fun text => ∀ c ∈ text, test c = true) (by simp) ?_ text
    rintro _ ⟨c, hc, rfl⟩ text htext
    exact List.forall_mem_cons.2 ⟨hc, htext⟩
  · intro htext
    induction text with
    | nil => exact Language.nil_mem_kstar _
    | cons c text ih =>
        rw [List.forall_mem_cons] at htext
        have hpiece : [c] ∈ oneOf test := ⟨c, htext.1, rfl⟩
        exact append_mem_kstar hpiece (ih htext.2)

end Blocks

/-! ## Languages of lexemes -/

/-- A character of a class: an escaped one, or one that is neither a backslash
nor the closing bracket. -/
def classItem : Language Char :=
  word ['\\'] * oneOf (fun _ => true) + oneOf fun c => c != '\\' && c != ']'

def digits : Language Char :=
  (oneOf Char.isDigit)∗

def Lexeme.language : Lexeme → Language Char
  | namedGroupOpen =>
    word "(?".toList * (1 + word ['P']) * word ['<'] *
      oneOf (fun c => c != '>' && c != '=' && c != '!') *
      (oneOf fun c => c != '>')∗ * word ['>']
  | nonCapturingOpen => word "(?:".toList
  | groupOpen => word ['(']
  | groupClose => word [')']
  | escape => word ['\\'] * oneOf fun _ => true
  | characterClass => word ['['] * (1 + word ['^']) * classItem∗ * word [']']
  | quantifier =>
    word ['*'] + word ['+'] + word ['?'] +
      word ['{'] * (oneOf Char.isDigit * digits) * (1 + word [','] * digits) *
        word ['}']
  | anchor => word ['^'] + word ['$']
  | alternation => word ['|']
  | wildcard => word ['.']
  | literal => oneOf fun c => c ∉ "\\[()*+?\x7b^$|.".toList

namespace Lexeme

variable {c : Char} {text rest : Text} {lexeme : Lexeme} {length : Nat}

theorem mem_namedGroupOpen :
    text ∈ namedGroupOpen.language ↔ ∃ sign c name, IsNameSign sign ∧
      beginsName c = true ∧ '>' ∉ name ∧ text = '(' :: (sign ++ c :: (name ++ ['>'])) := by
  have hname (name : Text) : (∀ c ∈ name, (c != '>') = true) ↔ '>' ∉ name := by
    simp only [bne_iff_ne]
    exact List.forall_mem_ne'
  simp only [language, mul_assoc, add_mul, mul_add, one_mul, Language.mem_add, mem_word_mul,
    mem_oneOf_mul, mem_mul_word, mem_kstar_oneOf, hname, IsNameSign]
  constructor
  · rintro (⟨_, ⟨_, ⟨c, hc, _, ⟨name, hnone, rfl⟩, rfl⟩, rfl⟩, rfl⟩ |
      ⟨_, ⟨_, ⟨_, ⟨c, hc, _, ⟨name, hnone, rfl⟩, rfl⟩, rfl⟩, rfl⟩, rfl⟩)
    · exact ⟨['?', '<'], c, name, Or.inl rfl, hc, hnone, rfl⟩
    · exact ⟨['?', 'P', '<'], c, name, Or.inr rfl, hc, hnone, rfl⟩
  · rintro ⟨_, c, name, rfl | rfl, hc, hnone, rfl⟩
    · exact Or.inl ⟨_, ⟨_, ⟨c, hc, _, ⟨name, hnone, rfl⟩, rfl⟩, rfl⟩, rfl⟩
    · exact Or.inr ⟨_, ⟨_, ⟨_, ⟨c, hc, _, ⟨name, hnone, rfl⟩, rfl⟩, rfl⟩, rfl⟩, rfl⟩

theorem mem_kstar_classItem : text ∈ classItem∗ ↔ IsInner text := by
  constructor
  · refine kstar_induction (motive := IsInner) ⟨.nil, by simp⟩ ?_ text
    rintro _ (hescape | ⟨c, hc, rfl⟩) text htext
    · obtain ⟨_, ⟨c, -, rfl⟩, rfl⟩ := mem_word_mul.1 hescape
      exact ⟨.escape c htext.paired, htext.not_mem⟩
    · simp only [Bool.and_eq_true, bne_iff_ne] at hc
      refine ⟨.cons hc.1 htext.paired, ?_⟩
      rw [List.singleton_append, Pattern.unescaped_cons hc.1, List.mem_cons, not_or]
      exact ⟨Ne.symm hc.2, htext.not_mem⟩
  · rintro ⟨hpaired, hclosing⟩
    induction hpaired with
    | nil => exact Language.nil_mem_kstar _
    | escape c hrest ih =>
        have hitem : ['\\', c] ∈ classItem :=
          Or.inl (mem_word_mul.2 ⟨[c], ⟨c, rfl, rfl⟩, rfl⟩)
        exact append_mem_kstar hitem (ih hclosing)
    | @cons c rest hc hrest ih =>
        rw [Pattern.unescaped_cons hc, List.mem_cons, not_or] at hclosing
        have hitem : [c] ∈ classItem :=
          Or.inr ⟨c, by simp [hc, Ne.symm hclosing.1], rfl⟩
        exact append_mem_kstar hitem (ih hclosing.2)

/-- A class is what stands between brackets, with no closing one inside but an escaped
one. -/
theorem mem_characterClass :
    text ∈ characterClass.language ↔
      ∃ inside, IsInner inside ∧ text = '[' :: (inside ++ [']']) := by
  simp only [language, mul_assoc, add_mul, mul_add, one_mul, Language.mem_add, mem_word_mul,
    mem_mul_word, mem_kstar_classItem]
  constructor
  · rintro (⟨_, ⟨inside, hinner, rfl⟩, rfl⟩ | ⟨_, ⟨_, ⟨inside, hinner, rfl⟩, rfl⟩, rfl⟩)
    · exact ⟨inside, hinner, rfl⟩
    · have hcaret : IsInner ['^'] := Pattern.ClassReading.isInner_of_not_mem (by decide)
      exact ⟨'^' :: inside, hcaret.append hinner, rfl⟩
  · rintro ⟨inside, hinner, rfl⟩
    exact Or.inl ⟨_, ⟨inside, hinner, rfl⟩, rfl⟩

theorem mem_digits_add :
    text ∈ oneOf Char.isDigit * digits ↔ text ≠ [] ∧ ∀ d ∈ text, d.isDigit = true := by
  simp only [digits, mem_oneOf_mul, mem_kstar_oneOf]
  constructor
  · rintro ⟨c, hc, rest, hrest, rfl⟩
    exact ⟨List.cons_ne_nil _ _, List.forall_mem_cons.2 ⟨hc, hrest⟩⟩
  · rintro ⟨hne, htext⟩
    obtain ⟨c, rest, rfl⟩ := List.exists_cons_of_ne_nil hne
    obtain ⟨hc, hrest⟩ := List.forall_mem_cons.1 htext
    exact ⟨c, hc, rest, hrest, rfl⟩

theorem mem_bounds :
    text ∈ oneOf Char.isDigit * digits * (1 + word [','] * digits) * word ['}'] ↔
      IsBounds text := by
  rw [mul_add, add_mul, mul_one, Language.mem_add, mem_mul_word, mem_mul_word]
  constructor
  · rintro (⟨low, hlow, rfl⟩ | ⟨_, hrange, rfl⟩)
    · obtain ⟨hne, hlow⟩ := mem_digits_add.1 hlow
      exact .once hne hlow
    · obtain ⟨low, hlow, _, hcomma, rfl⟩ := Language.mem_mul.1 hrange
      obtain ⟨high, hhigh, rfl⟩ := mem_word_mul.1 hcomma
      obtain ⟨hne, hlow⟩ := mem_digits_add.1 hlow
      rw [List.append_assoc]
      exact .range hne hlow (mem_kstar_oneOf.1 hhigh)
  · intro hbounds
    cases hbounds with
    | @once low hne hlow => exact Or.inl ⟨low, mem_digits_add.2 ⟨hne, hlow⟩, rfl⟩
    | @range low high hne hlow hhigh =>
        have hrange : low ++ ',' :: high ∈
            oneOf Char.isDigit * digits * (word [','] * digits) :=
          Language.append_mem_mul (mem_digits_add.2 ⟨hne, hlow⟩)
            (mem_word_mul.2 ⟨high, mem_kstar_oneOf.2 hhigh, rfl⟩)
        exact Or.inr ⟨low ++ ',' :: high, hrange, by simp⟩

/-- A quantifier is one of three marks, or bounds in braces. -/
theorem mem_quantifier :
    text ∈ quantifier.language ↔ (text = ['*'] ∨ text = ['+'] ∨ text = ['?']) ∨
      ∃ bounds, IsBounds bounds ∧ text = '{' :: bounds := by
  simp only [language, Language.mem_add, mem_word, or_assoc]
  rw [mul_assoc, mul_assoc, mem_word_mul]
  simp only [← mul_assoc, mem_bounds, List.singleton_append]

/-! ## Lexemes and their languages -/

theorem exists_of_groupOpener? (hfirst : groupOpener? rest = some (lexeme, length)) :
    ∃ text after, '(' :: rest = text ++ after ∧ text.length = length ∧
      text ∈ lexeme.language := by
  have hopens := opens_groupOpener? rest
  rw [hfirst] at hopens
  cases hopens with
  | nonCapturing after => exact ⟨"(?:".toList, after, rfl, rfl, rfl⟩
  | @named sign c name hsign hbegins hname after =>
      refine ⟨'(' :: (sign ++ c :: (name ++ ['>'])), after, by simp, ?_, ?_⟩
      · simp only [List.length_cons, List.length_append, List.length_nil]
        omega
      · exact mem_namedGroupOpen.2 ⟨sign, c, name, hsign, hbegins, hname, rfl⟩
  | plain => exact ⟨['('], rest, rfl, rfl, rfl⟩

/-- What is read as a lexeme belongs to the language of its kind. -/
theorem exists_mem_language (hfirst : first? c rest = some (lexeme, length)) :
    ∃ text after, c :: rest = text ++ after ∧ text.length = length ∧
      text ∈ lexeme.language := by
  have hsingle (kind : Lexeme) (hmem : [c] ∈ kind.language)
      (hsame : some (kind, 1) = some (lexeme, length)) :
      ∃ text after, c :: rest = text ++ after ∧ text.length = length ∧
        text ∈ lexeme.language := by
    obtain ⟨rfl, rfl⟩ := Prod.mk.inj (Option.some.inj hsame)
    exact ⟨[c], rest, rfl, rfl, hmem⟩
  -- One case for each first character that has a lexeme of its own.
  unfold first? at hfirst
  split at hfirst
  case h_1 => exact exists_of_groupOpener? hfirst
  case h_3 =>
    split at hfirst
    case isTrue => contradiction
    case isFalse hne =>
      obtain ⟨d, after, rfl⟩ := List.exists_cons_of_ne_nil (by simpa using hne)
      obtain ⟨rfl, rfl⟩ := Prod.mk.inj (Option.some.inj hfirst)
      exact ⟨['\\', d], after, rfl, rfl, mem_word_mul.2 ⟨[d], ⟨d, rfl, rfl⟩, rfl⟩⟩
  case h_4 =>
    obtain ⟨_, hclass, hsame⟩ := Option.map_eq_some_iff.1 hfirst
    obtain ⟨rfl, rfl⟩ := Prod.mk.inj hsame
    obtain ⟨inside, after, rfl, rfl, hinner⟩ := exists_isInner hclass
    refine ⟨'[' :: (inside ++ [']']), after, by simp, by simp, ?_⟩
    exact mem_characterClass.2 ⟨inside, hinner, rfl⟩
  case h_8 =>
    obtain ⟨_, hlength, hsame⟩ := Option.map_eq_some_iff.1 hfirst
    obtain ⟨rfl, rfl⟩ := Prod.mk.inj hsame
    obtain ⟨bounds, after, rfl, rfl, hbounds⟩ := exists_isBounds hlength
    refine ⟨'{' :: bounds, after, rfl, rfl, ?_⟩
    exact mem_quantifier.2 (Or.inr ⟨bounds, hbounds, rfl⟩)
  case h_2 => exact hsingle groupClose rfl hfirst
  case h_5 | h_6 | h_7 => exact hsingle quantifier (mem_quantifier.2 (Or.inl (by simp))) hfirst
  case h_9 => exact hsingle anchor (Or.inl rfl) hfirst
  case h_10 => exact hsingle anchor (Or.inr rfl) hfirst
  case h_11 => exact hsingle alternation rfl hfirst
  case h_12 => exact hsingle wildcard rfl hfirst
  case h_13 =>
    refine hsingle literal ⟨c, ?_, rfl⟩ hfirst
    simp_all

theorem first?_literal (hc : c ∉ "\\[()*+?\x7b^$|.".toList) (rest : Text) :
    first? c rest = some (literal, 1) := by
  unfold first?
  split
  case h_13 => rfl
  all_goals exact absurd hc (by decide)

/-- A text of a kind of lexemes is read as one of that kind, whatever follows it.
Only what begins with a parenthesis alone may turn out to be longer. -/
theorem first?_of_mem_language (hmem : text ∈ lexeme.language)
    (hopening : lexeme ≠ groupOpen) (after : Text) :
    ∃ c rest, text = c :: rest ∧ first? c (rest ++ after) = some (lexeme, text.length) := by
  cases lexeme with
  | groupOpen => contradiction
  | namedGroupOpen =>
      obtain ⟨sign, d, name, hsign, hbegins, hname, rfl⟩ := mem_namedGroupOpen.1 hmem
      refine ⟨'(', _, rfl, ?_⟩
      have hsplit : sign ++ d :: (name ++ ['>']) ++ after =
          sign ++ d :: (name ++ '>' :: after) := by simp
      rw [hsplit, first?_nameSign hsign hbegins, nameLength?_append hname, Option.map_some]
      simp only [List.length_cons, List.length_append, List.length_nil]
      congr 2
      omega
  | nonCapturingOpen =>
      obtain rfl := mem_word.1 hmem
      exact ⟨'(', ['?', ':'], rfl, rfl⟩
  | characterClass =>
      obtain ⟨inside, hinner, rfl⟩ := mem_characterClass.1 hmem
      refine ⟨'[', _, rfl, ?_⟩
      rw [List.append_assoc, List.singleton_append,
        first?_class (classLength?_append hinner after)]
      simp
  | escape =>
      obtain ⟨_, ⟨d, -, rfl⟩, rfl⟩ := mem_word_mul.1 hmem
      exact ⟨'\\', [d], rfl, rfl⟩
  | quantifier =>
      rcases mem_quantifier.1 hmem with (rfl | rfl | rfl) | ⟨bounds, hbounds, rfl⟩
      · exact ⟨'*', [], rfl, rfl⟩
      · exact ⟨'+', [], rfl, rfl⟩
      · exact ⟨'?', [], rfl, rfl⟩
      · exact ⟨'{', bounds, rfl, first?_bounds_of_some (boundsLength?_append hbounds after)⟩
  | anchor =>
      rcases hmem with rfl | rfl
      · exact ⟨'^', [], rfl, rfl⟩
      · exact ⟨'$', [], rfl, rfl⟩
  | groupClose =>
      obtain rfl := mem_word.1 hmem
      exact ⟨')', [], rfl, rfl⟩
  | alternation =>
      obtain rfl := mem_word.1 hmem
      exact ⟨'|', [], rfl, rfl⟩
  | wildcard =>
      obtain rfl := mem_word.1 hmem
      exact ⟨'.', [], rfl, rfl⟩
  | literal =>
      obtain ⟨c, hc, rfl⟩ := hmem
      exact ⟨c, [], rfl, first?_literal (by simpa using hc) after⟩

/-- A beginning of the pattern that belongs to a language is the lexeme there, or
it is a parenthesis alone. -/
theorem first?_or_opening (hmem : text ∈ lexeme.language) (hbegins : text <+: c :: rest) :
    first? c rest = some (lexeme, text.length) ∨
      (lexeme = groupOpen ∧ text = ['('] ∧ c = '(') := by
  obtain ⟨after, hafter⟩ := hbegins
  by_cases hopening : lexeme = groupOpen
  · subst hopening
    obtain rfl := mem_word.1 hmem
    exact Or.inr ⟨rfl, rfl, (List.cons.inj hafter).1.symm⟩
  · obtain ⟨d, others, rfl, hfirst⟩ := first?_of_mem_language hmem hopening after
    obtain ⟨rfl, rfl⟩ := List.cons.inj hafter
    exact Or.inl hfirst

/-- A group whose name is begun, but not closed. -/
def HalfTyped (rest : Text) : Prop :=
  ∃ sign c name, IsNameSign sign ∧ beginsName c = true ∧ '>' ∉ name ∧
    rest = sign ++ c :: name

/-- Only a name that is half typed keeps a parenthesis from being a lexeme. -/
theorem first?_opening_eq_none_iff : first? '(' rest = none ↔ HalfTyped rest := by
  constructor
  · intro hfirst
    have hopens := opens_groupOpener? rest
    rw [show groupOpener? rest = none from hfirst] at hopens
    cases hopens with
    | halfTyped hsign hbegins hname => exact ⟨_, _, _, hsign, hbegins, hname, rfl⟩
  · rintro ⟨sign, d, name, hsign, hbegins, hname, rfl⟩
    rw [first?_nameSign hsign hbegins, nameLength?_eq_none_iff.2 hname, Option.map_none]

/-- Where no lexeme is read, none begins, or a name is half typed. -/
theorem not_mem_of_first?_eq_none (hfirst : first? c rest = none) (hc : c ≠ '(')
    (hbegins : text <+: c :: rest) : text ∉ lexeme.language := by
  intro hmem
  rcases first?_or_opening hmem hbegins with hsome | ⟨_, _, hopening⟩
  · simp [hfirst] at hsome
  · exact hc hopening

end Lexeme

/-! ## The longest text -/

/-- The text is the longest beginning of the pattern that counts as a lexeme, or a
single character where there is no such beginning. -/
structure IsLongest (pattern text : Text) : Prop where
  begins : text <+: pattern
  longest : ∀ (lexeme : Lexeme) (other : Text), other <+: pattern →
    other ∈ lexeme.language → other.length ≤ text.length
  accepted : (∃ lexeme : Lexeme, text ∈ lexeme.language) ∨
    (text.length = 1 ∧ ∀ (lexeme : Lexeme) (other : Text), other <+: pattern →
      other ∉ lexeme.language)

namespace Token

variable {c : Char} {rest : Text} {lexeme : Lexeme} {length : Nat}

theorem exists_text_first (hfirst : Lexeme.first? c rest = some (lexeme, length))
    (start : Nat) :
    ∃ text after, c :: rest = text ++ after ∧ text.length = length ∧
      text ∈ lexeme.language ∧
      first start c rest = ⟨.ofLexeme lexeme, text, start, lexeme.note? text⟩ := by
  obtain ⟨text, after, hwhole, rfl, hmem⟩ := Lexeme.exists_mem_language hfirst
  refine ⟨text, after, hwhole, rfl, hmem, ?_⟩
  simp only [first, hfirst, hwhole, List.take_left]

theorem first_of_none (hfirst : Lexeme.first? c rest = none) (start : Nat) :
    first start c rest = stray start c rest.isEmpty := by
  rw [first, hfirst]

/-- Each token is the longest lexeme where it begins, or one character where there is
none. -/
theorem isLongest_first (start : Nat) (c : Char) (rest : Text) :
    IsLongest (c :: rest) (first start c rest).text := by
  cases hfirst : Lexeme.first? c rest with
  | some found =>
      obtain ⟨lexeme, length⟩ := found
      obtain ⟨text, after, hwhole, rfl, hmem, htoken⟩ := exists_text_first hfirst start
      rw [htoken]
      refine ⟨⟨after, hwhole.symm⟩, fun kind other hother hkind => ?_, Or.inl ⟨lexeme, hmem⟩⟩
      rcases Lexeme.first?_or_opening hkind hother with hsame | ⟨_, rfl, _⟩
      · rw [hfirst] at hsame
        exact (Prod.mk.inj (Option.some.inj hsame)).2.symm.le
      · exact (Lexeme.first?_bounds hfirst).1
  | none =>
      -- The parenthesis is a lexeme of one character even where none is read.
      rw [first_of_none hfirst, text_stray]
      by_cases hc : c = '('
      · subst hc
        refine ⟨⟨rest, rfl⟩, fun kind other hother hkind => ?_, Or.inl ⟨.groupOpen, rfl⟩⟩
        rcases Lexeme.first?_or_opening hkind hother with hsome | ⟨_, rfl, _⟩
        · simp [hfirst] at hsome
        · rfl
      · have hnone (kind : Lexeme) (other : Text) (hother : other <+: c :: rest) :
            other ∉ kind.language := Lexeme.not_mem_of_first?_eq_none hfirst hc hother
        exact ⟨⟨rest, rfl⟩, fun kind other hother hkind =>
          absurd hkind (hnone kind other hother), Or.inr ⟨rfl, hnone⟩⟩

end Token

end PatternWorkbench.Breakdown
