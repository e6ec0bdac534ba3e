import PatternWorkbench.Numeral

/-!
# Lines, names and quoted texts in TOML

What is read from the beginning of a text is given with the text behind it. Inside
a line only blanks and tabs separate, and no control character stands anywhere.
-/

namespace PatternWorkbench.Settings.Toml

/-- What is read from the beginning of a text leaves less of it over. -/
def Shortens {Value : Type} (read? : Text → Option (Value × Text)) : Prop :=
  ∀ text value rest, read? text = some (value, rest) → rest.length < text.length

/-- What is made of a value after it was read takes nothing more from the text. -/
theorem exists_read_of_map {First Second : Type} {reading : Option (First × Text)}
    {made : First × Text → Second × Text} {second : Second} {rest : Text}
    (hread : reading.map made = some (second, rest))
    (hrest : ∀ first, (made first).2 = first.2) : ∃ first, reading = some (first, rest) := by
  obtain ⟨⟨first, behind⟩, hfirst, hmade⟩ := Option.map_eq_some_iff.1 hread
  have hbehind : behind = rest := (hrest (first, behind)).symm.trans (congrArg Prod.snd hmade)
  exact ⟨first, hbehind ▸ hfirst⟩

theorem length_dropWhile_le (p : Char → Bool) (text : Text) :
    (text.dropWhile p).length ≤ text.length :=
  (List.dropWhile_suffix p).length_le

/-! ## Gaps and ends of lines -/

def isGap (c : Char) : Bool :=
  c == ' ' || c == '\t'

def skipGap (text : Text) : Text :=
  text.dropWhile isGap

/-- A text gets shorter when what it begins with is dropped. -/
theorem length_dropWhile_lt {p : Char → Bool} {text : Text}
    (htaken : ¬ (text.takeWhile p).isEmpty = true) :
    (text.dropWhile p).length < text.length := by
  have hwhole := congrArg List.length (List.takeWhile_append_dropWhile (p := p) (l := text))
  have hpos := List.length_pos_iff.2 fun hnil => htaken (List.isEmpty_iff.2 hnil)
  rw [List.length_append] at hwhole
  omega

theorem length_skipGap_le (text : Text) : (skipGap text).length ≤ text.length :=
  length_dropWhile_le isGap text

/-- Whether a character may stand in a comment or a quoted text. -/
def isPlain (c : Char) : Bool :=
  c == '\t' || (' ' ≤ c && c != '\x7f')

/-- The text behind a comment, if one begins here. -/
def skipComment (text : Text) : Text :=
  match text with
  | '#' :: rest => rest.dropWhile isPlain
  | _ => text

theorem length_skipComment_le (text : Text) :
    (skipComment text).length ≤ text.length := by
  unfold skipComment
  split
  case h_1 rest =>
    have hle := length_dropWhile_le isPlain rest
    simp only [List.length_cons]
    omega
  case h_2 => omega

/-- The text behind the break of a line. -/
def lineBreak? : Text → Option Text
  | '\n' :: rest => some rest
  | '\r' :: '\n' :: rest => some rest
  | _ => none

/-- A line break takes a character at least. -/
theorem length_lineBreak? {text rest : Text} (hbreak : lineBreak? text = some rest) :
    rest.length < text.length := by
  unfold lineBreak? at hbreak
  split at hbreak
  case h_1 =>
    obtain rfl := Option.some.inj hbreak
    exact Nat.lt_succ_self _
  case h_2 =>
    obtain rfl := Option.some.inj hbreak
    simp only [List.length_cons]
    omega
  case h_3 => contradiction

/-- The text behind the end of a line, which a comment may fill up. -/
def lineEnd? (text : Text) : Option Text :=
  match skipComment (skipGap text) with
  | [] => some []
  | rest => lineBreak? rest

/-- Behind the end of a line there is nothing or less than before. -/
theorem eq_nil_or_length_lineEnd? {text rest : Text} (hend : lineEnd? text = some rest) :
    rest = [] ∨ rest.length < text.length := by
  unfold lineEnd? at hend
  split at hend
  case h_1 => exact Or.inl (Option.some.inj hend).symm
  case h_2 =>
    have hlt := length_lineBreak? hend
    have hcomment := length_skipComment_le (skipGap text)
    have hgap := length_skipGap_le text
    exact Or.inr (by omega)

/-! ## Texts in quotes -/

/-- The character that digits of a base spell. -/
def spelledChar? (digits : Text) : Option Char := do
  let code ← numeral? 16 digits
  if code.isValidChar then some (Char.ofNat code) else none

/-- The character that a letter behind a backslash stands for. -/
def escaped? : Char → Option Char
  | 'b' => some '\x08'
  | 't' => some '\t'
  | 'n' => some '\n'
  | 'f' => some '\x0c'
  | 'r' => some '\r'
  | '"' => some '"'
  | '\\' => some '\\'
  | _ => none

def readEscape? : Text → Option (Char × Text)
  | 'u' :: a :: b :: c :: d :: rest => (spelledChar? [a, b, c, d]).map (·, rest)
  | 'U' :: a :: b :: c :: d :: e :: f :: g :: h :: rest =>
    (spelledChar? [a, b, c, d, e, f, g, h]).map (·, rest)
  | c :: rest => (escaped? c).map (·, rest)
  | [] => none

theorem shortens_readEscape? : Shortens readEscape? := by
  intro text c rest hread
  unfold readEscape? at hread
  split at hread
  case h_4 => contradiction
  all_goals
    obtain ⟨_, _, heq⟩ := Option.map_eq_some_iff.1 hread
    obtain ⟨_, rfl⟩ := Prod.mk.inj heq
    simp only [List.length_cons]
    omega

/-- A text in double quotes on one line, given what follows the opening quote. -/
def readBasic? (text : Text) : Option (Text × Text) :=
  match text with
  | [] => none
  | '"' :: rest => some ([], rest)
  | '\\' :: rest =>
    match _ : readEscape? rest with
    | some (c, rest) => (readBasic? rest).map fun (more, rest) => (c :: more, rest)
    | none => none
  | c :: rest =>
    if isPlain c then
      (readBasic? rest).map fun (more, rest) => (c :: more, rest)
    else none
termination_by text.length
decreasing_by
  · have hlt := shortens_readEscape? _ _ _ ‹readEscape? _ = _›
    simp only [List.length_cons]
    omega
  · simp

theorem shortens_readBasic? : Shortens readBasic? := by
  intro text value rest hread
  fun_induction readBasic? text generalizing value with
  | case1 => contradiction
  | case2 =>
      obtain ⟨_, rfl⟩ := Prod.mk.inj (Option.some.inj hread)
      exact Nat.lt_succ_self _
  | case3 behind c later hescape ih =>
      obtain ⟨_, hlater⟩ := exists_read_of_map hread fun _ => rfl
      have hlt := ih _ hlater
      have hshort := shortens_readEscape? _ _ _ hescape
      simp only [List.length_cons]
      omega
  | case4 => contradiction
  | case5 c behind _ _ _ ih =>
      obtain ⟨_, hlater⟩ := exists_read_of_map hread fun _ => rfl
      exact Nat.lt_succ_of_lt (ih _ hlater)
  | case6 => contradiction

/-- A text in single quotes on one line, given what follows the opening quote. -/
def readLiteral? : Text → Option (Text × Text)
  | [] => none
  | '\'' :: rest => some ([], rest)
  | c :: rest =>
    if isPlain c then
      (readLiteral? rest).map fun (more, rest) => (c :: more, rest)
    else none

theorem shortens_readLiteral? : Shortens readLiteral? := by
  intro text value rest hread
  fun_induction readLiteral? text generalizing value with
  | case1 => contradiction
  | case2 =>
      obtain ⟨_, rfl⟩ := Prod.mk.inj (Option.some.inj hread)
      exact Nat.lt_succ_self _
  | case3 c behind _ _ ih =>
      obtain ⟨_, hlater⟩ := exists_read_of_map hread fun _ => rfl
      exact Nat.lt_succ_of_lt (ih _ hlater)
  | case4 => contradiction

/-- Whether the rest of a line is blank. -/
def isBlankLine (text : Text) : Bool :=
  (lineBreak? (skipGap text)).isSome

def isGapOrBreak (c : Char) : Bool :=
  isGap c || c == '\n' || c == '\r'

/-- A text of several lines in `quote` characters, given what follows the opening
ones. Up to two of them may stand before the three that end it. With escapes, a
backslash at the end of a line takes all blanks behind it away. -/
def readLines? (quote : Char) (escapes : Bool) (text : Text) :
    Option (Text × Text) :=
  match text with
  | [] => none
  | c :: rest =>
    if c = quote ∧ [quote, quote].isPrefixOf rest then
      let extra := min 2 (rest.drop 2 |>.takeWhile (· == quote)).length
      some (List.replicate extra quote, rest.drop (2 + extra))
    else if c = '\\' ∧ escapes then
      if isBlankLine rest then readLines? quote escapes (rest.dropWhile isGapOrBreak)
      else
        match _ : readEscape? rest with
        | some (c, rest) =>
          (readLines? quote escapes rest).map fun (more, rest) => (c :: more, rest)
        | none => none
    else if isPlain c || c == '\n' || (c == '\r' && rest.head? == some '\n') then
      (readLines? quote escapes rest).map fun (more, rest) =>
        (if c = '\r' then more else c :: more, rest)
    else none
termination_by text.length
decreasing_by
  · have hle := length_dropWhile_le isGapOrBreak rest
    simp only [List.length_cons]
    omega
  · have hlt := shortens_readEscape? _ _ _ ‹readEscape? _ = _›
    simp only [List.length_cons]
    omega
  · simp

/-- The lines of a text in three quotes end with those quotes, which are taken. -/
theorem shortens_readLines? (quote : Char) (escapes : Bool) :
    Shortens (readLines? quote escapes) := by
  intro text value rest hread
  fun_induction readLines? quote escapes text generalizing value with
  | case1 => contradiction
  | case2 c behind _ extra =>
      obtain ⟨_, rfl⟩ := Prod.mk.inj (Option.some.inj hread)
      simp only [List.length_drop, List.length_cons]
      omega
  | case3 c behind _ _ _ ih =>
      have hlt := ih _ hread
      have hle := length_dropWhile_le isGapOrBreak behind
      simp only [List.length_cons]
      omega
  | case4 c behind _ _ _ escaped later hescape ih =>
      obtain ⟨_, hlater⟩ := exists_read_of_map hread fun _ => rfl
      have hlt := ih _ hlater
      have hshort := shortens_readEscape? _ _ _ hescape
      simp only [List.length_cons]
      omega
  | case5 => contradiction
  | case6 c behind _ _ _ ih =>
      obtain ⟨_, hlater⟩ := exists_read_of_map hread fun _ => rfl
      exact Nat.lt_succ_of_lt (ih _ hlater)
  | case7 => contradiction

/-- The text behind the break that may follow the opening of several lines. -/
def skipBreak (text : Text) : Text :=
  (lineBreak? text).getD text

theorem length_skipBreak_le (text : Text) : (skipBreak text).length ≤ text.length := by
  unfold skipBreak
  cases hbreak : lineBreak? text with
  | none => exact Nat.le_refl _
  | some rest => exact Nat.le_of_lt (length_lineBreak? hbreak)

/-- A quoted text. Those of several lines are no names. -/
def readQuoted? : Text → Option (Text × Text)
  | '"' :: '"' :: '"' :: rest => readLines? '"' true (skipBreak rest)
  | '\'' :: '\'' :: '\'' :: rest => readLines? '\'' false (skipBreak rest)
  | '"' :: rest => readBasic? rest
  | '\'' :: rest => readLiteral? rest
  | _ => none

theorem shortens_readQuoted? : Shortens readQuoted? := by
  intro text value rest hread
  unfold readQuoted? at hread
  split at hread
  case h_1 behind =>
    have hlt := shortens_readLines? _ _ _ _ _ hread
    have hle := length_skipBreak_le behind
    simp only [List.length_cons]
    omega
  case h_2 behind =>
    have hlt := shortens_readLines? _ _ _ _ _ hread
    have hle := length_skipBreak_le behind
    simp only [List.length_cons]
    omega
  case h_3 => exact Nat.lt_succ_of_lt (shortens_readBasic? _ _ _ hread)
  case h_4 => exact Nat.lt_succ_of_lt (shortens_readLiteral? _ _ _ hread)
  case h_5 => contradiction

/-! ## Names -/

def isBareChar (c : Char) : Bool :=
  c.isAlphanum || c == '_' || c == '-'

def readName? (text : Text) : Option (Text × Text) :=
  match text with
  | '"' :: rest => readBasic? rest
  | '\'' :: rest => readLiteral? rest
  | _ =>
    let name := text.takeWhile isBareChar
    if name.isEmpty then none else some (name, text.dropWhile isBareChar)

theorem shortens_readName? : Shortens readName? := by
  intro text name rest hread
  unfold readName? at hread
  split at hread
  case h_1 => exact Nat.lt_succ_of_lt (shortens_readBasic? _ _ _ hread)
  case h_2 => exact Nat.lt_succ_of_lt (shortens_readLiteral? _ _ _ hread)
  case h_3 =>
    dsimp only at hread
    split at hread
    case isTrue => contradiction
    case isFalse hname =>
      obtain ⟨_, rfl⟩ := Prod.mk.inj (Option.some.inj hread)
      exact length_dropWhile_lt hname

/-- Names with points between them, each with blanks around it. -/
def readPath? (text : Text) : Option (List Text × Text) :=
  match _ : readName? (skipGap text) with
  | none => none
  | some (name, behind) =>
    match _ : skipGap behind with
    | '.' :: rest => (readPath? rest).map fun (names, rest) => (name :: names, rest)
    | rest => some ([name], rest)
termination_by text.length
decreasing_by
  have hname := shortens_readName? _ _ _ ‹readName? _ = _›
  have hbehind := length_skipGap_le behind
  have htext := length_skipGap_le text
  rw [‹skipGap behind = _›, List.length_cons] at hbehind
  omega

theorem shortens_readPath? : Shortens readPath? := by
  intro text path rest hread
  fun_induction readPath? text generalizing path with
  | case1 => contradiction
  | case2 text name behind hname later hpoint ih =>
      obtain ⟨_, hlater⟩ := exists_read_of_map hread fun _ => rfl
      have hlt := ih _ hlater
      have hshort := shortens_readName? _ _ _ hname
      have hbehind := length_skipGap_le behind
      have htext := length_skipGap_le text
      rw [hpoint, List.length_cons] at hbehind
      omega
  | case3 text name behind hname =>
      obtain ⟨_, rfl⟩ := Prod.mk.inj (Option.some.inj hread)
      have hshort := shortens_readName? _ _ _ hname
      have hbehind := length_skipGap_le behind
      have htext := length_skipGap_le text
      omega

/-- How deep lists and tables may stand in one another, and how many names lead to
a value at most. -/
def depthLimit : Nat := 79

/-- The names that lead to a value or a table. -/
def readKey? (text : Text) : Option (List Text × Text) :=
  (readPath? text).filter fun (path, _) => path.length ≤ depthLimit

theorem shortens_readKey? : Shortens readKey? := fun text path rest hread =>
  shortens_readPath? text path rest (Option.filter_eq_some_iff.1 hread).1

end PatternWorkbench.Settings.Toml
