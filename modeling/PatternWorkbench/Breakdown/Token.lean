import PatternWorkbench.Breakdown.Note

/-!
# Tokens of a pattern

Every pattern, finished or not, is a row of tokens whose texts make it up. Where
no lexeme begins, a single character becomes a token and reading goes on right
behind it.
-/

namespace PatternWorkbench.Breakdown

inductive TokenKind where
  | literal
  | escapedClass
  | quantifier
  | anchor
  | groupMarker
  | namedGroupMarker
  | characterClass
  | alternation
  | wildcard
  | error
  deriving DecidableEq, Repr

namespace TokenKind

def ofLexeme : Lexeme → TokenKind
  | .namedGroupOpen => namedGroupMarker
  | .nonCapturingOpen | .groupOpen | .groupClose => groupMarker
  | .escape => escapedClass
  | .characterClass => characterClass
  | .quantifier => quantifier
  | .anchor => anchor
  | .alternation => alternation
  | .wildcard => wildcard
  | .literal => literal

/-- The word under which a kind is reported. -/
def name : TokenKind → String
  | literal => "literal"
  | escapedClass => "escapedClass"
  | quantifier => "quantifier"
  | anchor => "anchor"
  | groupMarker => "groupMarker"
  | namedGroupMarker => "namedGroupMarker"
  | characterClass => "characterClass"
  | alternation => "alternation"
  | wildcard => "wildcard"
  | error => "error"

end TokenKind

structure Token where
  kind : TokenKind
  text : Text
  start : Nat
  note : Option Text
  deriving DecidableEq, Repr

namespace Token

def stop (token : Token) : Nat :=
  token.start + byteLength token.text

/-- The token for a character that begins no lexeme. An opening parenthesis
still opens a group. -/
def stray (start : Nat) (c : Char) (isLast : Bool) : Token :=
  match c with
  | '[' => ⟨.error, [c], start, some Note.unclosedClass⟩
  | '\\' =>
    if isLast then ⟨.error, [c], start, some Note.loneBackslash⟩
    else ⟨.literal, [c], start, none⟩
  | '(' => ⟨.groupMarker, [c], start, some Note.groupOpen⟩
  | _ => ⟨.literal, [c], start, none⟩

/-- The first token of a pattern that begins at byte `start`. -/
def first (start : Nat) (c : Char) (rest : Text) : Token :=
  match Lexeme.first? c rest with
  | some (lexeme, length) =>
    let text := (c :: rest).take length
    ⟨.ofLexeme lexeme, text, start, lexeme.note? text⟩
  | none => stray start c rest.isEmpty

theorem text_stray (start : Nat) (c : Char) (isLast : Bool) :
    (stray start c isLast).text = [c] := by
  unfold stray
  split <;> try split
  all_goals rfl

@[simp]
theorem start_first (start : Nat) (c : Char) (rest : Text) :
    (first start c rest).start = start := by
  unfold first
  split
  · rfl
  · unfold stray
    split <;> try split
    all_goals rfl

/-- Reading goes on behind a token, since none is empty. -/
theorem text_first_ne_nil (start : Nat) (c : Char) (rest : Text) :
    (first start c rest).text ≠ [] := by
  unfold first
  split
  · rename_i lexeme length hfirst
    have hpos := (Lexeme.first?_bounds hfirst).1
    obtain ⟨length, rfl⟩ := Nat.exists_eq_succ_of_ne_zero (Nat.ne_of_gt hpos)
    simp
  · simp [text_stray]

/-- The first token and the pattern behind it make up the pattern. -/
theorem text_first_append_drop (start : Nat) (c : Char) (rest : Text) :
    (first start c rest).text ++
      (c :: rest).drop (first start c rest).text.length = c :: rest := by
  unfold first
  split
  · rename_i lexeme length hfirst
    have hle := (Lexeme.first?_bounds hfirst).2
    have hlength : ((c :: rest).take length).length = length := by
      simp only [List.length_take, List.length_cons]
      omega
    rw [hlength, List.take_append_drop]
  · simp [text_stray]

end Token

/-- The tokens of a pattern that begins at byte `start`. -/
def tokenizeFrom (start : Nat) (pattern : Text) : List Token :=
  match pattern with
  | [] => []
  | c :: rest =>
    let token := Token.first start c rest
    token :: tokenizeFrom token.stop ((c :: rest).drop token.text.length)
termination_by pattern.length
decreasing_by
  have hpos := List.length_pos_iff.2 (Token.text_first_ne_nil start c rest)
  simp only [List.length_drop, List.length_cons]
  omega

def tokenize (pattern : Text) : List Token :=
  tokenizeFrom 0 pattern

/-- The pattern that tokens make up. -/
def detokenize (tokens : List Token) : Text :=
  tokens.flatMap (·.text)

end PatternWorkbench.Breakdown
