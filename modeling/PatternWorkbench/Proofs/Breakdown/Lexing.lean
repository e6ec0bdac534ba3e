import PatternWorkbench.Proofs.Breakdown.Tiling
import PatternWorkbench.Proofs.Pattern.Accepted

/-!
# What the token reader makes of the pieces of a pattern

Characters that stand alone are tokens of their own, the bounds of a repetition
are made of such characters, and the opening of a named group is one token.
-/

namespace PatternWorkbench.Breakdown

open Pattern (standsAlone)
open Pattern.ClassReading (IsInner)

namespace Lexeme

variable {c : Char} {rest : Text} {lexeme : Lexeme} {length : Nat}

/-- Lexemes that have nothing to do with groups, classes and escapes. -/
def IsNeutral (lexeme : Lexeme) : Prop :=
  lexeme ∈ [quantifier, anchor, alternation, wildcard, literal]

theorem IsNeutral.not_group (hneutral : lexeme.IsNeutral) :
    lexeme.opensGroup = false ∧ lexeme ≠ groupClose := by
  cases lexeme <;> simp_all [IsNeutral, opensGroup]

theorem first?_brace (hbounds : boundsLength? rest = none) : first? '{' rest = none := by
  simp [first?, hbounds]

theorem first?_bounds_of_some (hbounds : boundsLength? rest = some length) :
    first? '{' rest = some (quantifier, length) := by
  simp [first?, hbounds]

theorem first?_class (hclass : classLength? rest = some length) :
    first? '[' rest = some (characterClass, length + 1) := by
  simp [first?, hclass]

theorem first?_escape (c : Char) (rest : Text) :
    first? '\\' (c :: rest) = some (escape, 2) :=
  rfl

theorem first?_unmarked (hmark : rest.head? ≠ some '?') :
    first? '(' rest = some (groupOpen, 1) := by
  simp only [first?]
  rw [groupOpener?] <;> intros <;> simp_all

theorem first?_flags (hc : c ≠ ':' ∧ c ≠ '<' ∧ c ≠ 'P') (rest : Text) :
    first? '(' ('?' :: c :: rest) = some (groupOpen, 1) := by
  simp only [first?]
  rw [groupOpener?] <;> simp [hc]

/-- A mark and the letter of a flag open no group with a name. -/
theorem ne_of_isFlagLetter (hc : Pattern.GroupReading.isFlagLetter c = true) :
    c ≠ ':' ∧ c ≠ '<' ∧ c ≠ 'P' := by
  refine ⟨?_, ?_, ?_⟩ <;> rintro rfl <;> contradiction

/-- A character that is a neutral lexeme by itself, whatever follows it. -/
def IsSingle (c : Char) : Prop :=
  ∀ rest, ∃ lexeme : Lexeme, first? c rest = some (lexeme, 1) ∧ lexeme.IsNeutral

/-- A character that stands alone for the parser is a lexeme by itself, the opening
brace aside. -/
theorem isSingle_of_standsAlone (hc : standsAlone c = true) (hbrace : c ≠ '{') :
    IsSingle c := by
  intro rest
  unfold first?
  split
  case h_1 | h_2 | h_3 | h_4 => exact absurd hc (by decide)
  case h_8 => exact absurd rfl hbrace
  all_goals exact ⟨_, rfl, by simp [IsNeutral]⟩

theorem isSingle_of_isDigit (hdigit : c.isDigit = true) : IsSingle c := by
  refine isSingle_of_standsAlone ?_ ?_
  · rw [standsAlone, Pattern.isDelimiter_of_isDigit hdigit]
    exact Bool.or_true _
  · rintro rfl
    exact absurd hdigit (by decide)

/-- What follows the opening brace of the bounds of a repetition: a number and the
closing brace, perhaps with a comma and another number between them. -/
inductive IsBounds : Text → Prop where
  | once {low : Text} (hne : low ≠ []) (hlow : ∀ d ∈ low, d.isDigit = true) :
      IsBounds (low ++ ['}'])
  | range {low high : Text} (hne : low ≠ []) (hlow : ∀ d ∈ low, d.isDigit = true)
      (hhigh : ∀ d ∈ high, d.isDigit = true) :
      IsBounds (low ++ ',' :: (high ++ ['}']))

/-- Digits end where another character comes. -/
theorem takeWhile_digits {digits : Text} (hdigits : ∀ d ∈ digits, d.isDigit = true)
    (hc : c.isDigit = false) (after : Text) :
    (digits ++ c :: after).takeWhile Char.isDigit = digits ∧
      (digits ++ c :: after).dropWhile Char.isDigit = c :: after := by
  rw [List.takeWhile_append_of_pos hdigits, List.dropWhile_append_of_pos hdigits]
  simp [hc]

theorem boundsLength?_append {bounds : Text} (hbounds : IsBounds bounds) (after : Text) :
    boundsLength? (bounds ++ after) = some (bounds.length + 1) := by
  cases hbounds with
  | @once low hne hlow =>
      obtain ⟨htake, hdrop⟩ := takeWhile_digits hlow (c := '}') (by decide) after
      rw [List.append_assoc, List.singleton_append]
      simp [boundsLength?, htake, hdrop, hne]
  | @range low high hne hlow hhigh =>
      obtain ⟨htake, hdrop⟩ := takeWhile_digits hlow (c := ',') (by decide)
        (high ++ '}' :: after)
      obtain ⟨htake', hdrop'⟩ := takeWhile_digits hhigh (c := '}') (by decide) after
      have hsplit : low ++ ',' :: (high ++ ['}']) ++ after =
          low ++ ',' :: (high ++ '}' :: after) := by simp
      rw [hsplit]
      simp only [boundsLength?, htake, hdrop, htake', hdrop', List.isEmpty_iff, hne, if_false]
      simp
      omega

theorem exists_isBounds (hbounds : boundsLength? rest = some length) :
    ∃ bounds after, rest = bounds ++ after ∧ length = bounds.length + 1 ∧
      IsBounds bounds := by
  have hdigits (text : Text) : ∀ d ∈ text.takeWhile Char.isDigit, d.isDigit = true :=
    fun d hd => List.all_eq_true.1 List.all_takeWhile d hd
  have hlow := List.takeWhile_append_dropWhile (l := rest) (p := Char.isDigit)
  unfold boundsLength? at hbounds
  simp only at hbounds
  split at hbounds
  case isTrue => simp at hbounds
  case isFalse hne =>
    rw [List.isEmpty_iff] at hne
    split at hbounds
    case h_1 after hafter =>
      rw [hafter] at hlow
      refine ⟨_, after, ?_, ?_, .once hne (hdigits rest)⟩
      · rw [List.append_assoc]
        exact hlow.symm
      · rw [← Option.some.inj hbounds, List.length_append, List.length_singleton]
    case h_2 others hothers =>
      have hhigh := List.takeWhile_append_dropWhile (l := others) (p := Char.isDigit)
      split at hbounds
      case h_1 after hafter =>
        rw [hafter] at hhigh
        rw [hothers, ← hhigh] at hlow
        refine ⟨_, after, ?_, ?_, .range hne (hdigits rest) (hdigits others)⟩
        · rw [List.append_assoc, List.cons_append, List.append_assoc]
          exact hlow.symm
        · rw [← Option.some.inj hbounds, List.length_append, List.length_cons,
            List.length_append, List.length_singleton]
          omega
      case h_2 => simp at hbounds
    case h_3 => simp at hbounds

theorem IsBounds.isSingle {bounds : Text} (hbounds : IsBounds bounds) :
    ∀ d ∈ bounds, IsSingle d := by
  have hcomma : IsSingle ',' := isSingle_of_standsAlone (by decide) (by decide)
  have hbrace : IsSingle '}' := isSingle_of_standsAlone (by decide) (by decide)
  have hdigits {text : Text} (htext : ∀ d ∈ text, d.isDigit = true) :
      ∀ d ∈ text, IsSingle d := fun d hd => isSingle_of_isDigit (htext d hd)
  cases hbounds with
  | once hne hlow =>
      rw [List.forall_mem_append, List.forall_mem_singleton]
      exact ⟨hdigits hlow, hbrace⟩
  | range hne hlow hhigh =>
      rw [List.forall_mem_append, List.forall_mem_cons, List.forall_mem_append,
        List.forall_mem_singleton]
      exact ⟨hdigits hlow, hcomma, hdigits hhigh, hbrace⟩

/-- The bounds of a repetition, its closing brace included, are made of single
characters. -/
theorem exists_of_boundsLength? (hbounds : boundsLength? rest = some length) :
    ∃ bounds after, rest = bounds ++ after ∧ length = bounds.length + 1 ∧
      ∀ d ∈ bounds, IsSingle d := by
  obtain ⟨bounds, after, hrest, hlength, hbounds⟩ := exists_isBounds hbounds
  exact ⟨bounds, after, hrest, hlength, hbounds.isSingle⟩

/-- The inside of a flat class has no bracket before the one that closes it. -/
theorem classLength?_append {inside : Text} (hinner : IsInner inside) (after : Text) :
    classLength? (inside ++ ']' :: after) = some (inside.length + 1) := by
  obtain ⟨hpaired, hclosing⟩ := hinner
  induction hpaired with
  | nil => rfl
  | escape c hrest ih =>
      rw [List.cons_append, List.cons_append, classLength?, ih hclosing]
      rfl
  | @cons c rest hc hrest ih =>
      rw [Pattern.unescaped_cons hc, List.mem_cons, not_or] at hclosing
      rw [List.cons_append, classLength?, ih hclosing.2]
      · rfl
      · exact Ne.symm hclosing.1
      all_goals simp [hc]

/-- A class ends at the first closing bracket that nothing escapes. -/
theorem exists_isInner (hclass : classLength? rest = some length) :
    ∃ inside after, rest = inside ++ ']' :: after ∧ length = inside.length + 1 ∧
      IsInner inside := by
  fun_induction classLength? rest generalizing length with
  | case1 | case4 => contradiction
  | case2 rest =>
      exact ⟨[], rest, rfl, (Option.some.inj hclass).symm, .nil, by simp⟩
  | case3 c rest ih =>
      obtain ⟨others, hothers, rfl⟩ := Option.map_eq_some_iff.1 hclass
      obtain ⟨inside, after, rfl, rfl, hinner⟩ := ih hothers
      exact ⟨'\\' :: c :: inside, after, rfl, rfl, .escape c hinner.paired, hinner.not_mem⟩
  | case5 c rest hclosing hescape hlone ih =>
      obtain ⟨others, hothers, rfl⟩ := Option.map_eq_some_iff.1 hclass
      obtain ⟨inside, after, rfl, rfl, hinner⟩ := ih hothers
      have hc : c ≠ '\\' := by
        rintro rfl
        cases inside <;> simp_all
      refine ⟨c :: inside, after, rfl, rfl, .cons hc hinner.paired, ?_⟩
      rw [Pattern.unescaped_cons hc, List.mem_cons, not_or]
      exact ⟨fun hsame => hclosing hsame.symm, hinner.not_mem⟩

/-- A class is not closed exactly where no closing bracket is left without an escape. -/
theorem classLength?_eq_none_iff :
    classLength? rest = none ↔ ']' ∉ Pattern.unescaped rest := by
  fun_induction classLength? rest with
  | case1 => simp
  | case2 rest => simp [Pattern.unescaped_cons]
  | case3 c rest ih => simp [ih]
  | case4 => simp [Pattern.unescaped]
  | case5 c rest hclosing hescape hlone ih =>
      have hc : c ≠ '\\' := by
        rintro rfl
        cases rest <;> simp_all
      rw [Option.map_eq_none_iff, ih, Pattern.unescaped_cons hc, List.mem_cons, not_or]
      exact (and_iff_right fun hsame => hclosing hsame.symm).symm

theorem nameLength?_append {name : Text} (hnone : '>' ∉ name) (after : Text) :
    nameLength? (name ++ '>' :: after) = some (name.length + 1) := by
  induction name with
  | nil => rfl
  | cons c name ih =>
      rw [List.mem_cons, not_or] at hnone
      rw [List.cons_append, nameLength?, if_neg (Ne.symm hnone.1), ih hnone.2]
      rfl

theorem exists_of_nameLength? (hname : nameLength? rest = some length) :
    ∃ name after, rest = name ++ '>' :: after ∧ length = name.length + 1 ∧
      '>' ∉ name := by
  fun_induction nameLength? rest generalizing length with
  | case1 => contradiction
  | case2 rest => exact ⟨[], rest, rfl, (Option.some.inj hname).symm, by simp⟩
  | case3 c rest hc ih =>
      obtain ⟨others, hothers, rfl⟩ := Option.map_eq_some_iff.1 hname
      obtain ⟨name, after, rfl, rfl, hnone⟩ := ih hothers
      exact ⟨c :: name, after, rfl, rfl, by simp [Ne.symm hc, hnone]⟩

/-- A name is not closed exactly where no angle is ahead. -/
theorem nameLength?_eq_none_iff : nameLength? rest = none ↔ '>' ∉ rest := by
  fun_induction nameLength? rest with
  | case1 => simp
  | case2 rest => simp
  | case3 c rest hc ih => simp [ih, Ne.symm hc]

/-! ## Opening parentheses -/

def IsNameSign (sign : Text) : Prop :=
  sign = ['?', '<'] ∨ sign = ['?', 'P', '<']

/-- What an opening parenthesis begins, given what follows it.  The name of a
group is taken up to the angle that closes it, if there is one. -/
inductive Opens : Text → Option (Lexeme × Nat) → Prop where
  | nonCapturing (after : Text) : Opens ('?' :: ':' :: after) (some (nonCapturingOpen, 3))
  | named {sign : Text} {c : Char} {name : Text} (hsign : IsNameSign sign)
      (hbegins : beginsName c = true) (hname : '>' ∉ name) (after : Text) :
      Opens (sign ++ c :: (name ++ '>' :: after))
        (some (namedGroupOpen, name.length + sign.length + 3))
  | halfTyped {sign : Text} {c : Char} {name : Text} (hsign : IsNameSign sign)
      (hbegins : beginsName c = true) (hname : '>' ∉ name) : Opens (sign ++ c :: name) none
  | plain (rest : Text) : Opens rest (some (groupOpen, 1))

theorem opens_name {sign : Text} (hsign : IsNameSign sign) (hbegins : beginsName c = true)
    (rest : Text) :
    Opens (sign ++ c :: rest) ((nameLength? rest).map fun length =>
      (namedGroupOpen, length + sign.length + 2)) := by
  cases hname : nameLength? rest with
  | none => exact .halfTyped hsign hbegins (nameLength?_eq_none_iff.1 hname)
  | some length =>
      obtain ⟨name, after, rfl, rfl, hnone⟩ := exists_of_nameLength? hname
      have hopens := Opens.named hsign hbegins hnone after
      rw [Option.map_some]
      rwa [show name.length + 1 + sign.length + 2 = name.length + sign.length + 3 by omega]

/-- The text behind a parenthesis tells what is opened by it. -/
theorem opens_groupOpener? (rest : Text) : Opens rest (groupOpener? rest) := by
  unfold groupOpener?
  split
  case h_1 after => exact .nonCapturing after
  case h_2 c rest =>
    split
    case isTrue hbegins => exact opens_name (Or.inl rfl) hbegins rest
    case isFalse => exact .plain _
  case h_3 c rest =>
    split
    case isTrue hbegins => exact opens_name (Or.inr rfl) hbegins rest
    case isFalse => exact .plain _
  case h_4 => exact .plain rest

/-- Behind the sign of a name everything up to the angle belongs to the opening. -/
theorem first?_nameSign {sign : Text} (hsign : IsNameSign sign)
    (hbegins : beginsName c = true) (rest : Text) :
    first? '(' (sign ++ c :: rest) = (nameLength? rest).map fun length =>
      (namedGroupOpen, length + sign.length + 2) := by
  rcases hsign with rfl | rfl <;> simp [first?, groupOpener?, hbegins]

theorem not_mem_opening {sign name : Text} (hsign : IsNameSign sign)
    (hbegins : beginsName c = true) (hname : '>' ∉ name) : '>' ∉ sign ++ c :: name := by
  have hc : '>' ≠ c := by
    rintro rfl
    contradiction
  rcases hsign with rfl | rfl <;> simp [hc, hname]

theorem beginsName_of_isGroupName {name : Text}
    (hname : Pattern.GroupReading.IsGroupName name) :
    ∃ c others, name = c :: others ∧ beginsName c = true ∧ '>' ∉ others := by
  obtain ⟨c, others, rfl⟩ := List.exists_cons_of_ne_nil hname.ne_nil
  have hnone := hname.not_mem
  rw [List.mem_cons, not_or] at hnone
  have hhead := hname.head_ne c rfl
  exact ⟨c, others, rfl, by simp [beginsName, Ne.symm hnone.1, hhead.1, hhead.2], hnone.2⟩

/-- The opening of a named group is one lexeme up to the end of the name. -/
theorem first?_named {sign name : Text} (hsign : IsNameSign sign)
    (hname : Pattern.GroupReading.IsGroupName name) (after : Text) :
    first? '(' (sign ++ name ++ '>' :: after) =
      some (namedGroupOpen, (sign ++ name).length + 2) := by
  obtain ⟨c, others, rfl, hbegins, hnone⟩ := beginsName_of_isGroupName hname
  rw [List.append_assoc, List.cons_append, first?_nameSign hsign hbegins,
    nameLength?_append hnone, List.length_append, List.length_cons, Option.map_some]
  congr 2
  omega

end Lexeme

section Tokenize

variable {c : Char} {rest : Text} {lexeme : Lexeme} {length : Nat}

theorem tokenizeFrom_of_some (hfirst : Lexeme.first? c rest = some (lexeme, length))
    (start : Nat) :
    ∃ text, text = (c :: rest).take length ∧ tokenizeFrom start (c :: rest) =
      ⟨.ofLexeme lexeme, text, start, lexeme.note? text⟩ ::
        tokenizeFrom (start + byteLength text) ((c :: rest).drop length) := by
  have hlength : ((c :: rest).take length).length = length := by
    have := (Lexeme.first?_bounds hfirst).2
    rw [List.length_take, List.length_cons]
    omega
  refine ⟨_, rfl, ?_⟩
  rw [tokenizeFrom]
  simp only [Token.first, hfirst, Token.stop, hlength]

theorem tokenizeFrom_of_none (hfirst : Lexeme.first? c rest = none) (start : Nat) :
    tokenizeFrom start (c :: rest) = Token.stray start c rest.isEmpty ::
      tokenizeFrom (Token.stray start c rest.isEmpty).stop rest := by
  rw [tokenizeFrom]
  simp only [Token.first, hfirst, Token.text_stray]
  rfl

end Tokenize

end PatternWorkbench.Breakdown
