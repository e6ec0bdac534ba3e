import PatternWorkbench.Proofs.Breakdown.LongestMatch
import PatternWorkbench.Proofs.Offset

/-!
# Patterns that go on

What is appended to a pattern can change a token only where the rest of the
pattern is the beginning of a longer lexeme.  Where no token begins at such a
place, the tokens stay and those of the appended text follow them.
-/

namespace PatternWorkbench.Breakdown

/-! ## Lexemes that nothing can make longer -/

namespace Lexeme

variable {c : Char} {rest : Text} {lexeme : Lexeme} {length : Nat}

theorem groupOpener?_append (hfound : groupOpener? rest = some (lexeme, length))
    (hlexeme : lexeme ≠ groupOpen) (after : Text) :
    groupOpener? (rest ++ after) = some (lexeme, length) := by
  have hopens := opens_groupOpener? rest
  rw [hfound] at hopens
  cases hopens with
  | nonCapturing behind => rfl
  | @named sign d name hsign hbegins hname behind =>
      have hfirst : groupOpener? (sign ++ d :: (name ++ '>' :: behind) ++ after) =
          (nameLength? (name ++ '>' :: (behind ++ after))).map fun length =>
            (namedGroupOpen, length + sign.length + 2) := by
        rw [← first?_nameSign hsign hbegins]
        simp [first?]
      rw [hfirst, nameLength?_append hname, Option.map_some]
      congr 2
      omega
  | plain => exact absurd rfl hlexeme

/-- A class that is closed stays as it is when more text follows. -/
theorem classLength?_of_append (hclass : classLength? rest = some length) (after : Text) :
    classLength? (rest ++ after) = some length := by
  obtain ⟨inside, behind, rfl, rfl, hinner⟩ := exists_isInner hclass
  rw [List.append_assoc, List.cons_append]
  exact classLength?_append hinner _

theorem boundsLength?_of_append (hbounds : boundsLength? rest = some length)
    (after : Text) : boundsLength? (rest ++ after) = some length := by
  obtain ⟨bounds, behind, rfl, rfl, hisBounds⟩ := exists_isBounds hbounds
  rw [List.append_assoc]
  exact boundsLength?_append hisBounds _

/-- A lexeme is found again when more follows, unless it is an opening parenthesis
on its own. -/
theorem first?_append (hfirst : first? c rest = some (lexeme, length))
    (hlexeme : lexeme ≠ groupOpen) (after : Text) :
    first? c (rest ++ after) = some (lexeme, length) := by
  unfold first? at hfirst ⊢
  split at hfirst
  case h_1 => exact groupOpener?_append hfirst hlexeme after
  case h_3 =>
    cases rest with
    | nil => contradiction
    | cons d rest => exact hfirst
  case h_4 =>
    obtain ⟨width, hclass, hsame⟩ := Option.map_eq_some_iff.1 hfirst
    simp only [classLength?_of_append hclass, Option.map_some, hsame]
  case h_8 =>
    obtain ⟨width, hbounds, hsame⟩ := Option.map_eq_some_iff.1 hfirst
    simp only [boundsLength?_of_append hbounds, Option.map_some, hsame]
  all_goals exact hfirst

end Lexeme

/-! ## Lexemes in front of what is appended -/

/-- The text is the beginning of a longer lexeme. -/
def IsBegun (text : Text) : Prop :=
  ∃ (lexeme : Lexeme) (whole : Text), whole ∈ lexeme.language ∧ text <+: whole ∧ text ≠ whole

namespace Lexeme

variable {c : Char} {rest after : Text} {lexeme : Lexeme} {length : Nat}

theorem eq_opening (hfirst : first? c rest = some (groupOpen, length)) :
    c = '(' ∧ length = 1 := by
  obtain ⟨text, behind, hwhole, rfl, hmem⟩ := exists_mem_language hfirst
  obtain rfl := mem_word.1 hmem
  exact ⟨(List.cons.inj hwhole).1, rfl⟩

/-- A name that is half typed in the end is begun all along. -/
theorem isBegun_of_halfTyped (htyped : HalfTyped (rest ++ after)) :
    IsBegun ('(' :: rest) := by
  obtain ⟨sign, d, name, hsign, hbegins, hname, hsame⟩ := htyped
  have hclosed : '(' :: (sign ++ d :: (name ++ ['>'])) = '(' :: (rest ++ (after ++ ['>'])) := by
    rw [← List.append_assoc, hsame]
    simp
  refine ⟨namedGroupOpen, '(' :: (rest ++ (after ++ ['>'])), ?_, ⟨after ++ ['>'], rfl⟩, ?_⟩
  · exact mem_namedGroupOpen.2 ⟨sign, d, name, hsign, hbegins, hname, hclosed.symm⟩
  · simp

/-- A parenthesis that is not the beginning of a longer opening has a lexeme of its own.
-/
theorem first?_opening_ne_none (hwhole : ¬ IsBegun ('(' :: rest)) (after : Text) :
    first? '(' (rest ++ after) ≠ none := by
  intro hnone
  exact hwhole (isBegun_of_halfTyped (first?_opening_eq_none_iff.1 hnone))

/-- A lexeme that is found when more follows was there before. -/
theorem first?_of_append (hwhole : ¬ IsBegun (c :: rest))
    (hfirst : first? c (rest ++ after) = some (lexeme, length)) :
    first? c rest = some (lexeme, length) := by
  obtain ⟨text, behind, hsplit, rfl, hmem⟩ := exists_mem_language hfirst
  have hbegins : text <+: c :: rest := by
    have hleft : text <+: (c :: rest) ++ after := ⟨behind, hsplit.symm⟩
    rcases List.prefix_or_prefix_of_prefix hleft (List.prefix_append _ after) with
      hshort | hlong
    · exact hshort
    · by_cases hsame : c :: rest = text
      · rw [hsame]
      · exact absurd ⟨lexeme, text, hmem, hlong, hsame⟩ hwhole
  rcases first?_or_opening hmem hbegins with hfound | ⟨rfl, rfl, rfl⟩
  · exact hfound
  · -- The parenthesis alone: anything longer would be found again.
    obtain ⟨⟨kind, width⟩, hfound⟩ : ∃ found, first? '(' rest = some found := by
      rw [← Option.ne_none_iff_exists']
      simpa using first?_opening_ne_none hwhole []
    by_cases hkind : kind = groupOpen
    · subst hkind
      rw [hfound, (eq_opening hfound).2]
      rfl
    · rw [first?_append hfound hkind] at hfirst
      exact absurd (Prod.mk.inj (Option.some.inj hfirst)).1 hkind

/-- Nothing that is appended changes the lexeme at the beginning of a text that is
not begun. -/
theorem first?_append_of_not_isBegun (hwhole : ¬ IsBegun (c :: rest)) (after : Text) :
    first? c (rest ++ after) = first? c rest := by
  cases hlong : first? c (rest ++ after) with
  | some found => exact (first?_of_append hwhole hlong).symm
  | none =>
      cases hshort : first? c rest with
      | none => rfl
      | some found =>
          obtain ⟨lexeme, length⟩ := found
          by_cases hlexeme : lexeme = groupOpen
          · subst hlexeme
            obtain ⟨rfl, _⟩ := eq_opening hshort
            exact absurd hlong (first?_opening_ne_none hwhole after)
          · rw [first?_append hshort hlexeme] at hlong
            contradiction

/-- A text at which a lexeme is found that lies within it, whatever follows, is
not begun. -/
theorem not_isBegun_of_first? (hfirst : first? c rest = some (lexeme, length))
    (hkept : ∀ after, first? c (rest ++ after) = first? c rest) : ¬ IsBegun (c :: rest) := by
  rintro ⟨kind, whole, hmem, ⟨more, rfl⟩, hne⟩
  have hmore : 0 < more.length := by
    rw [List.length_pos_iff]
    rintro rfl
    exact hne (List.append_nil _).symm
  have hbound := (first?_bounds hfirst).2
  have hbegins : c :: rest ++ more <+: c :: (rest ++ more) := List.prefix_refl _
  rcases first?_or_opening hmem hbegins with hfound | ⟨_, hopening, _⟩
  · rw [hkept, hfirst] at hfound
    have hlength := (Prod.mk.inj (Option.some.inj hfound)).2
    rw [List.length_append, List.length_cons] at hlength
    omega
  · have hlength := congrArg List.length hopening
    rw [List.length_append, List.length_cons, List.length_singleton] at hlength
    omega

end Lexeme

/-! ## Tokens in front of what is appended -/

namespace Token

variable {c : Char} {rest : Text}

/-- Only a backslash asks whether it is the last character. -/
theorem stray_of_ne (hc : c ≠ '\\') (start : Nat) (left right : Bool) :
    stray start c left = stray start c right := by
  unfold stray
  split
  case h_2 => contradiction
  all_goals rfl

theorem isBegun_backslash : IsBegun ['\\'] :=
  ⟨.escape, ['\\', 'a'], mem_word_mul.2 ⟨['a'], ⟨'a', rfl, rfl⟩, rfl⟩, ⟨['a'], rfl⟩, by decide⟩

/-- The first token stays the same when more text follows, unless it is only begun. -/
theorem first_append (hwhole : ¬ IsBegun (c :: rest)) (start : Nat) (after : Text) :
    first start c (rest ++ after) = first start c rest := by
  have hsame := Lexeme.first?_append_of_not_isBegun hwhole after
  cases hfirst : Lexeme.first? c rest with
  | some found =>
      obtain ⟨lexeme, length⟩ := found
      have hbound : length ≤ (c :: rest).length := (Lexeme.first?_bounds hfirst).2
      have htake : (c :: (rest ++ after)).take length = (c :: rest).take length := by
        rw [← List.cons_append, List.take_append_of_le_length hbound]
      simp only [first, hsame, hfirst, htake]
  | none =>
      have hc : c ≠ '\\' := by
        rintro rfl
        cases rest with
        | nil => exact hwhole isBegun_backslash
        | cons d rest => simp [Lexeme.first?_escape] at hfirst
      rw [first_of_none hfirst, first_of_none (hsame.trans hfirst)]
      exact stray_of_ne hc start _ _

end Token

/-! ## Offsets -/

namespace Token

def shifted (amount : Nat) (token : Token) : Token :=
  { token with start := amount + token.start }

variable {c : Char} {rest : Text}

theorem first_shifted (amount start : Nat) :
    first (amount + start) c rest = (first start c rest).shifted amount := by
  unfold first stray
  split
  · rfl
  · split <;> try split
    all_goals rfl

@[simp]
theorem text_shifted (amount : Nat) (token : Token) :
    (token.shifted amount).text = token.text := rfl

theorem stop_shifted (amount : Nat) (token : Token) :
    (token.shifted amount).stop = amount + token.stop :=
  Nat.add_assoc _ _ _

end Token

/-- Tokens depend on where the pattern begins by their offsets only. -/
theorem tokenizeFrom_shifted (amount start : Nat) (pattern : Text) :
    tokenizeFrom (amount + start) pattern =
      (tokenizeFrom start pattern).map (Token.shifted amount) := by
  fun_induction tokenizeFrom start pattern with
  | case1 => rw [tokenizeFrom, List.map_nil]
  | case2 start c rest token ih =>
      have hfirst : Token.first (amount + start) c rest = token.shifted amount :=
        Token.first_shifted amount start
      rw [tokenizeFrom]
      simp only [hfirst, Token.text_shifted, Token.stop_shifted]
      rw [ih, List.map_cons]

/-- From any byte on the tokens are those from the beginning, moved. -/
theorem tokenizeFrom_eq_shifted (amount : Nat) (pattern : Text) :
    tokenizeFrom amount pattern = (tokenize pattern).map (Token.shifted amount) :=
  tokenizeFrom_shifted amount 0 pattern

/-! ## Finished patterns -/

/-- No token of the pattern begins where the rest of it is begun. -/
def IsFinished (pattern : Text) : Prop :=
  ∀ before rest, pattern = before ++ rest →
    (∃ token ∈ tokenize pattern, token.start = byteLength before) → ¬ IsBegun rest

def IsFinishedFrom (start : Nat) (pattern : Text) : Prop :=
  ∀ before rest, pattern = before ++ rest →
    (∃ token ∈ tokenizeFrom start pattern, token.start = start + byteLength before) →
      ¬ IsBegun rest

section Finished

variable {start : Nat} {c : Char} {rest : Text}

theorem isFinished_iff {pattern : Text} : IsFinished pattern ↔ IsFinishedFrom 0 pattern := by
  simp only [IsFinished, IsFinishedFrom, Nat.zero_add, tokenize]

theorem isFinishedFrom_nil (start : Nat) : IsFinishedFrom start [] := by
  rintro before rest _ ⟨token, htoken, _⟩
  simp [tokenizeFrom] at htoken

/-- A pattern is finished if neither all of it is begun nor what is behind its first
token is unfinished. -/
theorem isFinishedFrom_cons_iff :
    IsFinishedFrom start (c :: rest) ↔ ¬ IsBegun (c :: rest) ∧
      IsFinishedFrom (Token.first start c rest).stop
        ((c :: rest).drop (Token.first start c rest).text.length) := by
  have hwhole := Token.text_first_append_drop start c rest
  have hstart := Token.start_first start c rest
  rw [IsFinishedFrom, IsFinishedFrom, tokenizeFrom]
  generalize Token.first start c rest = first at hwhole hstart
  generalize (c :: rest).drop first.text.length = behind at hwhole
  simp only [List.mem_cons, exists_eq_or_imp]
  constructor
  · intro hfinished
    refine ⟨hfinished [] (c :: rest) rfl (Or.inl hstart), ?_⟩
    rintro before rest' rfl ⟨token, htoken, hplace⟩
    refine hfinished (first.text ++ before) rest' ?_ (Or.inr ⟨token, htoken, ?_⟩)
    · rw [← hwhole, List.append_assoc]
    · rw [hplace, Token.stop, hstart, byteLength_append, Nat.add_assoc]
  · rintro ⟨hbegun, hfinished⟩ before rest' hsplit (hplace | ⟨token, htoken, hplace⟩)
    · obtain rfl : before = [] := byteLength_eq_zero_iff.1 (by omega)
      rwa [← hsplit.trans (List.nil_append rest')]
    · obtain ⟨_, _, _, hbehind⟩ :=
        (tiles_tokenizeFrom first.stop behind).exists_before token htoken
      rw [Token.stop, hstart] at hbehind
      obtain ⟨between, rfl, hrest⟩ :=
        exists_append_of_byteLength_le (hwhole.trans hsplit) (by omega)
      refine hfinished between rest' hrest ⟨token, htoken, ?_⟩
      rw [hplace, Token.stop, hstart, byteLength_append, Nat.add_assoc]

/-- Behind a finished pattern reading goes on as if it had just begun. -/
theorem tokenizeFrom_append {pattern : Text} (hfinished : IsFinishedFrom start pattern)
    (after : Text) :
    tokenizeFrom start (pattern ++ after) =
      tokenizeFrom start pattern ++ tokenizeFrom (start + byteLength pattern) after := by
  fun_induction tokenizeFrom start pattern with
  | case1 => rfl
  | case2 start c rest token ih =>
      obtain ⟨hwhole, hrest⟩ := isFinishedFrom_cons_iff.1 hfinished
      have hfirst : Token.first start c (rest ++ after) = token :=
        Token.first_append hwhole start after
      have hsplit : token.text ++ (c :: rest).drop token.text.length = c :: rest :=
        Token.text_first_append_drop start c rest
      have hdrop : (c :: (rest ++ after)).drop token.text.length =
          (c :: rest).drop token.text.length ++ after := by
        rw [← List.cons_append]
        nth_rewrite 1 [← hsplit]
        rw [List.append_assoc, List.drop_left]
      have hstart : token.start = start := Token.start_first start c rest
      have hwidth : token.stop + byteLength ((c :: rest).drop token.text.length) =
          start + byteLength (c :: rest) := calc
        _ = start + byteLength token.text +
              byteLength ((c :: rest).drop token.text.length) := by rw [Token.stop, hstart]
        _ = start + byteLength (token.text ++ (c :: rest).drop token.text.length) := by
              rw [byteLength_append, Nat.add_assoc]
        _ = start + byteLength (c :: rest) := by rw [hsplit]
      rw [List.cons_append, tokenizeFrom, hfirst, hdrop, ih hrest, hwidth, List.cons_append]

/-- The tokens of a finished pattern stay when more is appended, and the tokens of
what is appended follow them. -/
theorem tokenize_append {pattern : Text} (hfinished : IsFinished pattern) (after : Text) :
    tokenize (pattern ++ after) = tokenize pattern ++
      (tokenize after).map (Token.shifted (byteLength pattern)) := by
  have htokens := tokenizeFrom_append (isFinished_iff.1 hfinished) after
  rwa [Nat.zero_add, tokenizeFrom_eq_shifted (byteLength pattern)] at htokens

/-- An opening parenthesis with a sign behind it that begins no name. -/
theorem tokenize_append_lookBehind :
    IsFinished "(?<=".toList ∧ tokenize ("(?<=".toList ++ "a>".toList) =
      tokenize "(?<=".toList ++
        (tokenize "a>".toList).map (Token.shifted (byteLength "(?<=".toList)) := by
  have hopening : ¬ IsBegun ['(', '?', '<', '='] :=
    @Lexeme.not_isBegun_of_first? _ _ .groupOpen 1 rfl fun _ => rfl
  have hmark : ¬ IsBegun ['?', '<', '='] :=
    @Lexeme.not_isBegun_of_first? _ _ .quantifier 1 rfl fun _ => rfl
  have hangle : ¬ IsBegun ['<', '='] :=
    @Lexeme.not_isBegun_of_first? _ _ .literal 1 rfl fun _ => rfl
  have hequals : ¬ IsBegun ['='] :=
    @Lexeme.not_isBegun_of_first? _ _ .literal 1 rfl fun _ => rfl
  have hfinished : IsFinishedFrom 0 ['(', '?', '<', '='] :=
    isFinishedFrom_cons_iff.2 ⟨hopening, isFinishedFrom_cons_iff.2 ⟨hmark,
      isFinishedFrom_cons_iff.2 ⟨hangle, isFinishedFrom_cons_iff.2 ⟨hequals,
        isFinishedFrom_nil _⟩⟩⟩⟩
  exact ⟨isFinished_iff.2 hfinished, tokenize_append (isFinished_iff.2 hfinished) _⟩

end Finished

end PatternWorkbench.Breakdown
