import Mathlib.Data.List.Chain
import PatternWorkbench.Breakdown.Token

/-!
# Tokens tile their pattern

The texts of the tokens, laid side by side, are the pattern, and every token
says where its own text stands.  The row of tokens is also what an outer loop
makes of the raw reader: its lexemes as far as they go, one stray character
where none begins, and a fresh reader behind it.
-/

namespace PatternWorkbench.Breakdown

/-- Tokens that lie side by side from byte `start` on and spell the pattern. -/
inductive Tiles : Nat → Text → List Token → Prop where
  | nil (start : Nat) : Tiles start [] []
  | cons (token : Token) (rest : Text) (tokens : List Token)
      (htext : token.text ≠ []) (hrest : Tiles token.stop rest tokens) :
      Tiles token.start (token.text ++ rest) (token :: tokens)

structure Tiling (pattern : Text) (tokens : List Token) : Prop where
  empty_iff : tokens = [] ↔ pattern = []
  begins : ∀ token ∈ tokens.head?, token.start = 0
  contiguous : tokens.IsChain fun left right => right.start = left.stop
  ends : ∀ token ∈ tokens.getLast?, token.stop = byteLength pattern
  text_ne_nil : ∀ token ∈ tokens, token.text ≠ []
  /-- Both offsets of a token are character boundaries, and its text is what
  the pattern has between them. -/
  placed : ∀ token ∈ tokens, ∃ before after,
    pattern = before ++ token.text ++ after ∧
      byteLength before = token.start ∧
      byteLength (before ++ token.text) = token.stop
  detokenize_eq : detokenize tokens = pattern

namespace Tiles

variable {start : Nat} {pattern : Text} {tokens : List Token}

theorem eq_nil_iff (htiles : Tiles start pattern tokens) :
    tokens = [] ↔ pattern = [] := by
  cases htiles with
  | nil => exact iff_of_true rfl rfl
  | cons token rest tokens htext hrest => simp [htext]

theorem start_eq (htiles : Tiles start pattern tokens) :
    ∀ token ∈ tokens.head?, token.start = start := by
  cases htiles with
  | nil => simp
  | cons token rest tokens htext hrest => simp

theorem isChain (htiles : Tiles start pattern tokens) :
    tokens.IsChain fun left right => right.start = left.stop := by
  induction htiles with
  | nil => exact .nil
  | cons token rest tokens htext hrest ih =>
      cases tokens with
      | nil => exact .singleton token
      | cons next later =>
          refine .cons_cons ?_ ih
          exact hrest.start_eq next rfl

theorem stop_eq (htiles : Tiles start pattern tokens) :
    ∀ token ∈ tokens.getLast?, token.stop = start + byteLength pattern := by
  induction htiles with
  | nil => simp
  | cons token rest tokens htext hrest ih =>
      intro last hlast
      rw [byteLength_append, ← Nat.add_assoc]
      cases tokens with
      | nil =>
          have hsame : token = last := by simpa using hlast
          rw [hrest.eq_nil_iff.1 rfl, ← hsame, byteLength_nil, Nat.add_zero,
            Token.stop]
      | cons next later =>
          rw [List.getLast?_cons_cons] at hlast
          exact ih last hlast

theorem text_ne_nil (htiles : Tiles start pattern tokens) :
    ∀ token ∈ tokens, token.text ≠ [] := by
  induction htiles with
  | nil => simp
  | cons token rest tokens htext hrest ih =>
      intro other hother
      rcases List.mem_cons.1 hother with rfl | hother
      · exact htext
      · exact ih other hother

theorem exists_before (htiles : Tiles start pattern tokens) :
    ∀ token ∈ tokens, ∃ before after,
      pattern = before ++ token.text ++ after ∧
        start + byteLength before = token.start := by
  induction htiles with
  | nil => simp
  | cons token rest tokens htext hrest ih =>
      intro other hother
      rcases List.mem_cons.1 hother with rfl | hother
      · exact ⟨[], rest, rfl, rfl⟩
      · obtain ⟨before, after, hsplit, hstart⟩ := ih other hother
        refine ⟨token.text ++ before, after, ?_, ?_⟩
        · rw [hsplit]
          simp only [List.append_assoc]
        · rw [byteLength_append, ← Nat.add_assoc]
          exact hstart

theorem detokenize_eq (htiles : Tiles start pattern tokens) :
    detokenize tokens = pattern := by
  induction htiles with
  | nil => rfl
  | cons token rest tokens htext hrest ih =>
      rw [← ih, detokenize, List.flatMap_cons, detokenize]

theorem tiling (htiles : Tiles 0 pattern tokens) : Tiling pattern tokens where
  empty_iff := htiles.eq_nil_iff
  begins := htiles.start_eq
  contiguous := htiles.isChain
  ends token htoken := by
    have hstop := htiles.stop_eq token htoken
    rwa [Nat.zero_add] at hstop
  text_ne_nil := htiles.text_ne_nil
  placed token htoken := by
    obtain ⟨before, after, hsplit, hstart⟩ := htiles.exists_before token htoken
    rw [Nat.zero_add] at hstart
    refine ⟨before, after, hsplit, hstart, ?_⟩
    rw [byteLength_append, hstart, Token.stop]
  detokenize_eq := htiles.detokenize_eq

end Tiles

/-- Reading token by token tiles the pattern, whatever the pattern is. -/
theorem tiles_tokenizeFrom (start : Nat) (pattern : Text) :
    Tiles start pattern (tokenizeFrom start pattern) := by
  induction hlength : pattern.length using Nat.strongRecOn
    generalizing start pattern with
  | ind length ih =>
      cases pattern with
      | nil =>
          rw [tokenizeFrom]
          exact .nil start
      | cons c rest =>
          have htext := Token.text_first_ne_nil start c rest
          have hwhole := Token.text_first_append_drop start c rest
          have hstart := Token.start_first start c rest
          rw [tokenizeFrom]
          generalize Token.first start c rest = token at htext hwhole hstart
          have hshorter : ((c :: rest).drop token.text.length).length < length := by
            have := List.length_pos_iff.2 htext
            rw [← hlength, List.length_drop, List.length_cons]
            omega
          have htiles := Tiles.cons token _ _ htext
            (ih _ hshorter token.stop _ rfl)
          rwa [hwhole, hstart] at htiles

/-- A token with what stands before it and behind it. -/
theorem exists_eq_first_of_tokenizeFrom {start : Nat} {pattern : Text} {token : Token}
    {earlier later : List Token}
    (htokens : tokenizeFrom start pattern = earlier ++ token :: later) :
    ∃ c rest, pattern = detokenize earlier ++ c :: rest ∧
      token = Token.first (start + byteLength (detokenize earlier)) c rest ∧
      later = tokenizeFrom token.stop ((c :: rest).drop token.text.length) := by
  induction earlier generalizing start pattern with
  | nil =>
      cases pattern with
      | nil => simp [tokenizeFrom] at htokens
      | cons c rest =>
          rw [tokenizeFrom] at htokens
          obtain ⟨rfl, rfl⟩ := List.cons.inj htokens
          exact ⟨c, rest, rfl, rfl, rfl⟩
  | cons first earlier ih =>
      cases pattern with
      | nil => simp [tokenizeFrom] at htokens
      | cons c rest =>
          rw [tokenizeFrom] at htokens
          obtain ⟨rfl, hlater⟩ := List.cons.inj htokens
          obtain ⟨d, left, hdrop, htoken, htail⟩ := ih hlater
          have hwhole := Token.text_first_append_drop start c rest
          refine ⟨d, left, ?_, ?_, htail⟩
          · rw [detokenize, List.flatMap_cons, List.append_assoc, ← detokenize, ← hdrop, hwhole]
          · rw [htoken, Token.stop, Token.start_first, detokenize, detokenize,
              List.flatMap_cons, byteLength_append, Nat.add_assoc]

/-- The tokens for lexemes that lie side by side from byte `base` on. -/
def recognized (base : Nat) : List (Lexeme × Text) → List Token
  | [] => []
  | (lexeme, text) :: later =>
    ⟨.ofLexeme lexeme, text, base, lexeme.note? text⟩ ::
      recognized (base + byteLength text) later

def spanned (lexemes : List (Lexeme × Text)) : Nat :=
  byteLength (lexemes.flatMap (·.2))

theorem Lexeme.length_readAll_le (pattern : Text) :
    (readAll pattern).2.length ≤ pattern.length := by
  fun_induction readAll pattern with
  | case1 => exact Nat.le_refl _
  | case2 c rest hnone => exact Nat.le_refl _
  | case3 c rest lexeme length hfound later left hlater ih =>
      rw [hlater, List.length_drop] at ih
      exact Nat.le_trans ih (Nat.sub_le _ _)

/-- The outer loop: the raw reader is run from byte `base` on, and where it finds
no lexeme one character becomes a token and the reader is started afresh behind
it. -/
def rescan (base : Nat) (pattern : Text) : List Token :=
  match _ : Lexeme.readAll pattern with
  | (lexemes, []) => recognized base lexemes
  | (lexemes, c :: rest) =>
    let start := base + spanned lexemes
    recognized base lexemes ++
      Token.stray start c rest.isEmpty :: rescan (start + c.utf8Size) rest
termination_by pattern.length
decreasing_by
  have hleft := Lexeme.length_readAll_le pattern
  simp_all only [List.length_cons]
  omega

section Rescan

variable {base : Nat} {pattern rest : Text} {c : Char}
  {lexemes : List (Lexeme × Text)}

/-- Where the lexemes reach the end, nothing is scanned again. -/
theorem rescan_of_readAll_nil (hread : Lexeme.readAll pattern = (lexemes, [])) :
    rescan base pattern = recognized base lexemes := by
  rw [rescan]
  split
  case h_1 others hothers =>
    rw [(Prod.mk.inj (hread.symm.trans hothers)).1]
  case h_2 hothers => simp [hread] at hothers

/-- Where the lexemes break off, a stray character is a token and the scan starts
afresh. -/
theorem rescan_of_readAll_cons
    (hread : Lexeme.readAll pattern = (lexemes, c :: rest)) :
    rescan base pattern = recognized base lexemes ++
      Token.stray (base + spanned lexemes) c rest.isEmpty ::
        rescan (base + spanned lexemes + c.utf8Size) rest := by
  rw [rescan]
  split
  case h_1 hothers => simp [hread] at hothers
  case h_2 others d later hothers =>
    obtain ⟨rfl, hleft⟩ := Prod.mk.inj (hread.symm.trans hothers)
    obtain ⟨rfl, rfl⟩ := List.cons.inj hleft
    rfl

theorem Lexeme.readAll_of_none (hnone : first? c rest = none) :
    readAll (c :: rest) = ([], c :: rest) := by
  rw [readAll]
  split
  case h_1 => rfl
  case h_2 hsome => simp [hnone] at hsome

theorem Lexeme.readAll_of_some {lexeme : Lexeme} {length : Nat}
    (hsome : first? c rest = some (lexeme, length)) :
    readAll (c :: rest) =
      ((lexeme, (c :: rest).take length) ::
          (readAll ((c :: rest).drop length)).1,
        (readAll ((c :: rest).drop length)).2) := by
  rw [readAll]
  split
  case h_1 hnone => simp [hsome] at hnone
  case h_2 other others hothers =>
    obtain ⟨rfl, rfl⟩ := Prod.mk.inj (Option.some.inj (hsome.symm.trans hothers))
    rfl

/-- The outer loop takes the first token of the pattern and goes on behind it,
whether a lexeme begins there or not. -/
theorem rescan_cons (base : Nat) (c : Char) (rest : Text) :
    rescan base (c :: rest) =
      Token.first base c rest ::
        rescan (Token.first base c rest).stop
          ((c :: rest).drop (Token.first base c rest).text.length) := by
  cases hfirst : Lexeme.first? c rest with
  | none =>
      have htoken : Token.first base c rest = Token.stray base c rest.isEmpty := by
        simp only [Token.first, hfirst]
      have hstop : (Token.first base c rest).stop = base + c.utf8Size := by
        rw [Token.stop, Token.start_first, htoken, Token.text_stray]
        rfl
      rw [rescan_of_readAll_cons (Lexeme.readAll_of_none hfirst), hstop, htoken,
        Token.text_stray]
      rfl
  | some found =>
      obtain ⟨lexeme, length⟩ := found
      have hread := Lexeme.readAll_of_some hfirst
      have hlength : ((c :: rest).take length).length = length := by
        have := (Lexeme.first?_bounds hfirst).2
        rw [List.length_take, List.length_cons]
        omega
      simp only [Token.first, hfirst, hlength, Token.stop]
      rcases hlater : Lexeme.readAll ((c :: rest).drop length) with ⟨later, left⟩
      rw [hlater] at hread
      cases left with
      | nil =>
          rw [rescan_of_readAll_nil hread, rescan_of_readAll_nil hlater]
          rfl
      | cons c' rest' =>
          rw [rescan_of_readAll_cons hread, rescan_of_readAll_cons hlater]
          simp only [recognized, spanned, List.flatMap_cons, byteLength_append,
            List.cons_append, Nat.add_assoc]

end Rescan

/-- The outer loop with its restarts and reading token by token agree. -/
theorem rescan_eq_tokenizeFrom (base : Nat) (pattern : Text) :
    rescan base pattern = tokenizeFrom base pattern := by
  induction hlength : pattern.length using Nat.strongRecOn
    generalizing base pattern with
  | ind length ih =>
      cases pattern with
      | nil =>
          have hread : Lexeme.readAll [] = ([], []) := by rw [Lexeme.readAll]
          rw [rescan_of_readAll_nil hread, tokenizeFrom, recognized]
      | cons c rest =>
          have := List.length_pos_iff.2 (Token.text_first_ne_nil base c rest)
          rw [rescan_cons, tokenizeFrom, ih _ ?_ _ _ rfl]
          rw [← hlength, List.length_drop, List.length_cons]
          omega

/-- Every pattern, the reader's failures and restarts included, is tiled by its
tokens. -/
theorem tokenize_tiling (pattern : Text) :
    tokenize pattern = rescan 0 pattern ∧ Tiling pattern (tokenize pattern) :=
  ⟨(rescan_eq_tokenizeFrom 0 pattern).symm, (tiles_tokenizeFrom 0 pattern).tiling⟩

end PatternWorkbench.Breakdown
