import Mathlib.Data.List.TakeWhile
import PatternWorkbench.Proofs.Breakdown.Brackets
import PatternWorkbench.Proofs.Breakdown.Priority
import PatternWorkbench.Proofs.Matching.Highlighting

/-!
# Notes tell what they are about

A note and the kind of its token tell the text of the token, all but the optional
letter in the opening of a named group.  To write the note no text is ever cut
where it cannot be cut.
-/

namespace PatternWorkbench.Breakdown

open Lexeme (IsBounds IsNameSign)
open Matching (sliceBytes?)

/-! ## Notes with a text of their own -/

def fixedNotes : List (TokenKind × Text × Text) :=
  [(.groupMarker, "(?:".toList, "start of non-capturing group".toList),
    (.groupMarker, ['('], Note.groupOpen),
    (.groupMarker, [')'], "end of group".toList),
    (.quantifier, ['*'], "zero or more".toList),
    (.quantifier, ['+'], "one or more".toList),
    (.quantifier, ['?'], "optional (zero or one)".toList),
    (.anchor, ['^'], "start of text (or line in multiline mode)".toList),
    (.anchor, ['$'], "end of text (or line in multiline mode)".toList),
    (.alternation, ['|'], "or".toList),
    (.wildcard, ['.'], "any character".toList),
    (.error, ['['], Note.unclosedClass),
    (.error, ['\\'], Note.loneBackslash)]

/-- What the bounds of a repetition are said to mean. -/
inductive TellsBounds : Text → Text → Prop where
  | exactly {low : Text} (hlow : ∀ d ∈ low, d.isDigit = true) :
      TellsBounds low ("exactly ".toList ++ low ++ " times".toList)
  | atLeast {low : Text} (hne : low ≠ []) (hlow : ∀ d ∈ low, d.isDigit = true) :
      TellsBounds (low ++ [',']) (low ++ " or more times".toList)
  | between {low high : Text} (hlow : ∀ d ∈ low, d.isDigit = true) (hne : high ≠ []) :
      TellsBounds (low ++ ',' :: high)
        ("between ".toList ++ low ++ " and ".toList ++ high ++ " times".toList)

/-- What is said in the note on a text as a token of a kind. -/
inductive Tells : TokenKind → Text → Text → Prop where
  | fixed {kind : TokenKind} {text note : Text} (hfixed : (kind, text, note) ∈ fixedNotes) :
      Tells kind text note
  | named {sign name : Text} (hsign : IsNameSign sign) :
      Tells .namedGroupMarker ('(' :: (sign ++ name ++ ['>'])) (namedNote name)
  | escape (c : Char) : Tells .escapedClass ['\\', c] (Note.escape c)
  | characterClass (inside : Text) :
      Tells .characterClass ('[' :: (inside ++ [']'])) (Note.characterClass inside)
  | bounds {inside note : Text} (htells : TellsBounds inside note) :
      Tells .quantifier ('{' :: (inside ++ ['}'])) note

/-- A literal has no note, and every other token has the note on its text. -/
inductive Noted : Token → Prop where
  | plain (c : Char) (start : Nat) : Noted ⟨.literal, [c], start, none⟩
  | told {kind : TokenKind} {text note : Text} {start : Nat} (htells : Tells kind text note) :
      Noted ⟨kind, text, start, some note⟩

/-! ## Texts told by notes -/

theorem characterClass_injective : Function.Injective Note.characterClass := by
  intro left right heq
  unfold Note.characterClass at heq
  split at heq
  case h_1 =>
    split at heq
    case h_1 => exact congrArg _ (List.append_cancel_left heq)
    case h_2 => simp at heq
  case h_2 =>
    split at heq
    case h_1 => simp at heq
    case h_2 => exact List.append_cancel_left heq

def letterOf? (phrase : String) : Option Char :=
  "dDwWsSbBntrAz".toList.find? fun c => Note.knownEscape? c == some phrase

/-- A phrase of words on one line, without a quote behind it. -/
def IsPhrase (phrase : Text) : Prop :=
  phrase.head?.any Char.isAlphanum = true ∧ phrase.getLast? ≠ some '\'' ∧ '\n' ∉ phrase

theorem letterOf?_of_knownEscape? {c : Char} {phrase : String}
    (hknown : Note.knownEscape? c = some phrase) :
    letterOf? phrase = some c ∧ IsPhrase phrase.toList := by
  unfold Note.knownEscape? at hknown
  unfold IsPhrase
  split at hknown
  case h_14 => contradiction
  all_goals
    obtain rfl := Option.some.inj hknown
    decide

theorem escape_of_known {c : Char} {phrase : String}
    (hknown : Note.knownEscape? c = some phrase) : Note.escape c = phrase.toList := by
  rw [Note.escape, hknown]

/-- Any other character is named in its note. -/
theorem exists_escape {c : Char} (hknown : Note.knownEscape? c = none) :
    ∃ kind, Note.escape c = kind ++ [' ', '\'', c, '\''] := by
  rw [Note.escape, hknown]
  exact ⟨_, rfl⟩

theorem escape_injective : Function.Injective Note.escape := by
  have hquoted (c : Char) (kind : Text) :
      (kind ++ [' ', '\'', c, '\'']).getLast? = some '\'' := by simp
  intro left right heq
  cases hleft : Note.knownEscape? left with
  | some phrase =>
      obtain ⟨hletter, -, hend, -⟩ := letterOf?_of_knownEscape? hleft
      rw [escape_of_known hleft] at heq
      cases hright : Note.knownEscape? right with
      | some other =>
          rw [escape_of_known hright] at heq
          obtain rfl := String.toList_inj.1 heq
          exact Option.some.inj (hletter.symm.trans (letterOf?_of_knownEscape? hright).1)
      | none =>
          obtain ⟨kind, hkind⟩ := exists_escape hright
          rw [heq, hkind] at hend
          exact absurd (hquoted right kind) hend
  | none =>
      obtain ⟨kind, hkind⟩ := exists_escape hleft
      rw [hkind] at heq
      cases hright : Note.knownEscape? right with
      | some phrase =>
          have hend := (letterOf?_of_knownEscape? hright).2.2.1
          rw [← escape_of_known hright, ← heq] at hend
          exact absurd (hquoted left kind) hend
      | none =>
          obtain ⟨other, hother⟩ := exists_escape hright
          rw [hother] at heq
          obtain ⟨_, hsame⟩ := List.append_inj' heq rfl
          simpa using hsame

namespace TellsBounds

variable {inside inside' note note' : Text}

/-- The single signs of repetition have notes with another end. -/
theorem getLast?_note (htells : TellsBounds inside note) : note.getLast? = some 's' := by
  have hend (before : Text) {after : Text} (hafter : after.getLast? = some 's') :
      (before ++ after).getLast? = some 's' := by
    rw [List.getLast?_append, hafter, Option.some_or]
  cases htells <;> exact hend _ (by decide)

theorem ne_of_digits {low : Text} {c : Char} (hne : low ≠ [])
    (hlow : ∀ d ∈ low, d.isDigit = true) (hc : c.isDigit = false) (behind after : Text) :
    low ++ behind ≠ c :: after := by
  obtain ⟨d, low, rfl⟩ := List.exists_cons_of_ne_nil hne
  intro heq
  have hdigit := hlow d List.mem_cons_self
  rw [(List.cons.inj heq).1, hc] at hdigit
  contradiction

/-- Numbers are told from the words around them. -/
theorem inside_eq (hleft : TellsBounds inside note) (hright : TellsBounds inside' note')
    (heq : note = note') : inside = inside' := by
  cases hleft with
  | exactly =>
      cases hright with
      | exactly => simpa using heq
      | atLeast hne hlow =>
          simp only [String.reduceToList, List.cons_append, List.nil_append] at heq
          exact absurd heq.symm (ne_of_digits hne hlow (by decide) _ _)
      | between => simp at heq
  | atLeast hne hlow =>
      cases hright with
      | exactly =>
          simp only [String.reduceToList, List.cons_append, List.nil_append] at heq
          exact absurd heq (ne_of_digits hne hlow (by decide) _ _)
      | atLeast => simpa using heq
      | between =>
          simp only [String.reduceToList, List.cons_append, List.nil_append,
            List.append_assoc] at heq
          exact absurd heq (ne_of_digits hne hlow (by decide) _ _)
  | between hlow =>
      cases hright with
      | exactly => simp at heq
      | atLeast hne hlow =>
          simp only [String.reduceToList, List.cons_append, List.nil_append,
            List.append_assoc] at heq
          exact absurd heq.symm (ne_of_digits hne hlow (by decide) _ _)
      | between hlow' =>
          simp only [String.reduceToList, List.cons_append, List.nil_append, List.append_assoc,
            List.cons.injEq, true_and] at heq
          have htake := congrArg (List.takeWhile Char.isDigit) heq
          rw [(Lexeme.takeWhile_digits hlow (by decide) _).1,
            (Lexeme.takeWhile_digits hlow' (by decide) _).1] at htake
          subst htake
          simpa using heq

end TellsBounds

namespace Tells

variable {kind : TokenKind} {text text' note note' : Text}

theorem ne_of_mem_fixedNotes : ∀ entry ∈ fixedNotes, entry.1 ≠ .literal ∧
    entry.1 ≠ .namedGroupMarker ∧ entry.1 ≠ .escapedClass ∧ entry.1 ≠ .characterClass := by
  decide

/-- A note from the list is on a text from the list. -/
theorem mem_fixedNotes (hfixed : (kind, text, note) ∈ fixedNotes)
    (htells : Tells kind text' note) : (kind, text', note) ∈ fixedNotes := by
  have hends : ∀ entry ∈ fixedNotes, entry.1 = .quantifier →
      entry.2.2.getLast? ≠ some 's' := by decide
  cases htells with
  | fixed hfixed' => exact hfixed'
  | named => exact absurd rfl (ne_of_mem_fixedNotes _ hfixed).2.1
  | escape => exact absurd rfl (ne_of_mem_fixedNotes _ hfixed).2.2.1
  | characterClass => exact absurd rfl (ne_of_mem_fixedNotes _ hfixed).2.2.2
  | bounds htells => exact absurd htells.getLast?_note (hends _ hfixed rfl)

/-- A note of its own belongs to one text only. -/
theorem eq_of_mem_fixedNotes (hfixed : (kind, text, note) ∈ fixedNotes)
    (htells : Tells kind text' note) : text = text' := by
  have htable : ∀ left ∈ fixedNotes, ∀ right ∈ fixedNotes, left.1 = right.1 →
      left.2.2 = right.2.2 → left.2.1 = right.2.1 := by decide
  exact htable _ hfixed _ (mem_fixedNotes hfixed htells) rfl rfl

/-- The openings of two groups of one name, which may differ in their signs. -/
def SameName (left right : Text) : Prop :=
  ∃ sign sign' name, IsNameSign sign ∧ IsNameSign sign' ∧
    left = '(' :: (sign ++ name ++ ['>']) ∧ right = '(' :: (sign' ++ name ++ ['>'])

/-- A kind and a note tell the text, up to the sign in front of a name. -/
theorem text_eq (hleft : Tells kind text note) (hright : Tells kind text' note')
    (heq : note = note') :
    text = text' ∨ (kind = .namedGroupMarker ∧ SameName text text') := by
  by_cases hfixed : (kind, text', note') ∈ fixedNotes
  · exact Or.inl (eq_of_mem_fixedNotes hfixed (heq ▸ hleft)).symm
  cases hleft with
  | fixed hfixed' => exact Or.inl (eq_of_mem_fixedNotes hfixed' (heq ▸ hright))
  | @named sign name hsign =>
      cases hright with
      | fixed hfixed' => contradiction
      | @named sign' name' hsign' =>
          unfold namedNote at heq
          obtain rfl : name = name' :=
            List.append_cancel_left (List.append_cancel_right heq)
          exact Or.inr ⟨rfl, sign, sign', name, hsign, hsign', rfl, rfl⟩
  | escape c =>
      cases hright with
      | fixed hfixed' => contradiction
      | escape d => exact Or.inl (by rw [escape_injective heq])
  | characterClass inside =>
      cases hright with
      | fixed hfixed' => contradiction
      | characterClass => exact Or.inl (by rw [characterClass_injective heq])
  | bounds htells =>
      cases hright with
      | fixed hfixed' => contradiction
      | bounds htells' => exact Or.inl (by rw [htells.inside_eq htells' heq])

end Tells

/-! ## Notes of lexemes -/

theorem inner_enclosed (opening closing : Char) (inside : Text) :
    Note.inner (opening :: (inside ++ [closing])) = inside := by
  simp [Note.inner]

theorem ne_comma {d : Char} (hdigit : d.isDigit = true) : (d != ',') = true := by
  rw [bne_iff_ne]
  rintro rfl
  contradiction

theorem bounds_of_digits {low : Text} (hlow : ∀ d ∈ low, d.isDigit = true) :
    Note.bounds low = "exactly ".toList ++ low ++ " times".toList := by
  have hkeeps : ∀ d ∈ low, (d != ',') = true := fun d hd => ne_comma (hlow d hd)
  have htake : low.takeWhile (· != ',') = low := List.takeWhile_eq_self_iff.2 hkeeps
  have hdrop : low.dropWhile (· != ',') = [] := List.dropWhile_eq_nil_iff.2 hkeeps
  simp only [Note.bounds, htake, hdrop]

theorem bounds_of_comma {low : Text} (hlow : ∀ d ∈ low, d.isDigit = true) (high : Text) :
    Note.bounds (low ++ ',' :: high) =
      if high = [] then low ++ " or more times".toList
      else "between ".toList ++ low ++ " and ".toList ++ high ++ " times".toList := by
  have hkeeps : ∀ d ∈ low, (d != ',') = true := fun d hd => ne_comma (hlow d hd)
  have htake : (low ++ ',' :: high).takeWhile (· != ',') = low := by
    rw [List.takeWhile_append_of_pos hkeeps]
    simp
  have hdrop : (low ++ ',' :: high).dropWhile (· != ',') = ',' :: high := by
    rw [List.dropWhile_append_of_pos hkeeps]
    simp
  unfold Note.bounds
  rw [htake, hdrop]
  cases high with
  | nil => rw [if_pos rfl]
  | cons c high => rw [if_neg (List.cons_ne_nil c high)]

theorem quantifier_brace (bounds : Text) :
    Note.quantifier ('{' :: (bounds ++ ['}'])) = Note.bounds bounds := by
  unfold Note.quantifier
  split
  case h_4 => rw [inner_enclosed]
  all_goals
    rename_i heq
    exact absurd (List.cons.inj heq).1 (by decide)

/-- Bounds have a note that tells them. -/
theorem exists_tellsBounds {bounds : Text} (hbounds : IsBounds bounds) :
    ∃ inside, bounds = inside ++ ['}'] ∧ TellsBounds inside (Note.bounds inside) := by
  cases hbounds with
  | @once low hne hlow =>
      refine ⟨low, rfl, ?_⟩
      rw [bounds_of_digits hlow]
      exact .exactly hlow
  | @range low high hne hlow hhigh =>
      refine ⟨low ++ ',' :: high, by simp, ?_⟩
      rw [bounds_of_comma hlow]
      by_cases hopen : high = []
      · rw [if_pos hopen, hopen]
        exact .atLeast hne hlow
      · rw [if_neg hopen]
        exact .between hlow hopen

namespace Lexeme

variable {lexeme : Lexeme} {text : Text}

theorem noted_of_mem_language (hmem : text ∈ lexeme.language) (start : Nat) :
    Noted ⟨.ofLexeme lexeme, text, start, lexeme.note? text⟩ := by
  cases lexeme with
  | literal =>
      obtain ⟨c, -, rfl⟩ := hmem
      exact .plain c start
  | namedGroupOpen =>
      obtain ⟨sign, c, name, hsign, _, _, rfl⟩ := mem_namedGroupOpen.1 hmem
      have hopening : '(' :: (sign ++ c :: (name ++ ['>'])) =
          '(' :: (sign ++ (c :: name) ++ ['>']) := by simp
      rw [hopening]
      refine .told ?_
      rw [groupName_named hsign]
      exact .named hsign
  | escape =>
      obtain ⟨_, ⟨c, -, rfl⟩, rfl⟩ := mem_word_mul.1 hmem
      exact .told (.escape c)
  | characterClass =>
      obtain ⟨inside, _, rfl⟩ := mem_characterClass.1 hmem
      refine .told ?_
      rw [inner_enclosed]
      exact .characterClass inside
  | quantifier =>
      rcases mem_quantifier.1 hmem with hsign | ⟨_, hbounds, rfl⟩
      · rcases hsign with rfl | rfl | rfl
        all_goals exact .told (.fixed (by decide))
      · obtain ⟨inside, rfl, htells⟩ := exists_tellsBounds hbounds
        rw [note?, quantifier_brace]
        exact .told (.bounds htells)
  | anchor =>
      rcases hmem with rfl | rfl
      all_goals exact .told (.fixed (by decide))
  | nonCapturingOpen | groupOpen | groupClose | alternation | wildcard =>
      obtain rfl := mem_word.1 hmem
      exact .told (.fixed (by decide))

/-- The note on a lexeme where its text is cut at byte offsets.  There is none if
one of them is no boundary of the text. -/
def describe? (lexeme : Lexeme) (text : Text) : Option (Option Text) :=
  let inside? := sliceBytes? text 1 (byteLength text - 1)
  match lexeme with
  | characterClass => inside?.map fun inside => some (Note.characterClass inside)
  | quantifier =>
    if text ∈ [['*'], ['+'], ['?']] then some (some (Note.quantifier text))
    else inside?.map fun inside => some (Note.bounds inside)
  | _ => some (lexeme.note? text)

theorem sliceBytes?_enclosed {opening closing : Char} (hopening : opening.utf8Size = 1)
    (hclosing : closing.utf8Size = 1) (inside : Text) :
    sliceBytes? (opening :: (inside ++ [closing])) 1
      (byteLength (opening :: (inside ++ [closing])) - 1) = some inside := by
  refine Matching.sliceBytes?_eq_some_iff.2 ⟨[opening], [closing], rfl, by simpa, ?_⟩
  simp only [byteLength_cons, byteLength_append, byteLength_nil, hopening, hclosing]
  omega

/-- Every cut for the note on a lexeme can be made. -/
theorem describe?_eq (hmem : text ∈ lexeme.language) :
    lexeme.describe? text = some (lexeme.note? text) := by
  cases lexeme with
  | characterClass =>
      obtain ⟨inside, _, rfl⟩ := mem_characterClass.1 hmem
      have hslice := sliceBytes?_enclosed (rfl : '['.utf8Size = 1) (rfl : ']'.utf8Size = 1)
      simp only [describe?, note?, inner_enclosed, hslice, Option.map_some]
  | quantifier =>
      rcases mem_quantifier.1 hmem with hsign | ⟨_, hbounds, rfl⟩
      · rcases hsign with rfl | rfl | rfl
        all_goals rfl
      · obtain ⟨inside, rfl, _⟩ := exists_tellsBounds hbounds
        have hbrace : '{' :: (inside ++ ['}']) ∉ [['*'], ['+'], ['?']] := by simp
        have hslice := sliceBytes?_enclosed (rfl : '{'.utf8Size = 1)
          (rfl : '}'.utf8Size = 1)
        simp only [describe?, note?, if_neg hbrace, quantifier_brace, hslice, Option.map_some]
  | _ => rfl

end Lexeme

/-! ## Notes of tokens -/

theorem noted_stray (start : Nat) (c : Char) (isLast : Bool) :
    Noted (Token.stray start c isLast) := by
  unfold Token.stray
  split
  case h_1 => exact .told (.fixed (by decide))
  case h_2 =>
    split
    · exact .told (.fixed (by decide))
    · exact .plain _ start
  case h_3 => exact .told (.fixed (by decide))
  case h_4 => exact .plain c start

/-- Every token of a pattern has the note on its text. -/
theorem noted_of_mem_tokenize {pattern : Text} {token : Token}
    (htoken : token ∈ tokenize pattern) : Noted token := by
  obtain ⟨earlier, later, htokens⟩ := List.append_of_mem htoken
  obtain ⟨c, rest, _, rfl, _⟩ := exists_eq_first_of_tokenizeFrom htokens
  cases hfirst : Lexeme.first? c rest with
  | some found =>
      obtain ⟨text, _, _, _, hmem, hsame⟩ := Token.exists_text_first hfirst _
      rw [hsame]
      exact Lexeme.noted_of_mem_language hmem _
  | none =>
      rw [Token.first_of_none hfirst]
      exact noted_stray _ c _

/-- Tokens of one kind with one note have one text, or they open groups of one name.
Wherever a lexeme begins, the cuts for its note can be made, and the note on the
opening of a named group has the name from the first angle to the last. -/
theorem notes_tell_texts :
    (∀ left right, ∀ token ∈ tokenize left, ∀ other ∈ tokenize right,
      token.kind ≠ .literal → token.kind = other.kind → token.note = other.note →
        token.text = other.text ∨
          (token.kind = .namedGroupMarker ∧ Tells.SameName token.text other.text)) ∧
    (∀ c rest lexeme length, Lexeme.first? c rest = some (lexeme, length) →
      ∃ text note, text <+: c :: rest ∧ text.length = length ∧
        lexeme.describe? text = some note ∧
        ∀ start, Token.first start c rest = ⟨.ofLexeme lexeme, text, start, note⟩) ∧
    ∀ pattern, ∀ token ∈ tokenize pattern, token.kind = .namedGroupMarker →
      ∃ before name, token.text = before ++ '<' :: (name ++ ['>']) ∧ '<' ∉ before ∧
        token.note = some (namedNote name) := by
  refine ⟨?_, ?_, ?_⟩
  · intro left right token htoken other hother hkind hsame hnote
    cases noted_of_mem_tokenize htoken with
    | plain => contradiction
    | told htells =>
        cases noted_of_mem_tokenize hother with
        | plain => contradiction
        | told htells' =>
            obtain rfl := hsame
            exact htells.text_eq htells' (Option.some.inj hnote)
  · intro c rest lexeme length hfirst
    obtain ⟨text, after, hwhole, hlength, hmem, _⟩ := Token.exists_text_first hfirst 0
    refine ⟨text, _, ⟨after, hwhole.symm⟩, hlength, Lexeme.describe?_eq hmem, fun start => ?_⟩
    obtain ⟨other, later, hother, hwidth, _, htoken⟩ := Token.exists_text_first hfirst start
    obtain ⟨rfl, _⟩ := List.append_inj (hother.symm.trans hwhole) (hwidth.trans hlength.symm)
    exact htoken
  · intro pattern token htoken hkind
    cases noted_of_mem_tokenize htoken with
    | plain => contradiction
    | told htells =>
        cases htells with
        | fixed hfixed => exact absurd hkind (Tells.ne_of_mem_fixedNotes _ hfixed).2.1
        | @named sign name hsign =>
            rcases hsign with rfl | rfl
            · exact ⟨"(?".toList, name, rfl, by decide, rfl⟩
            · exact ⟨"(?P".toList, name, rfl, by decide, rfl⟩
        | _ => contradiction

end PatternWorkbench.Breakdown
