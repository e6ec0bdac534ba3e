import PatternWorkbench.Proofs.Breakdown.Continuation
import PatternWorkbench.Proofs.Breakdown.Errors

/-!
# Breakdowns side by side

A lexeme that is not an opening parenthesis on its own has its end in itself, so
a text of such lexemes is finished.  It is broken down the same way wherever it
stands, and its tokens lie before those of what follows.
-/

namespace PatternWorkbench.Breakdown

/-- A text that is one lexeme is one token. -/
theorem tokenizeFrom_lexeme {c : Char} {own : Text} {lexeme : Lexeme}
    (hfirst : Lexeme.first? c own = some (lexeme, own.length + 1)) (start : Nat) :
    tokenizeFrom start (c :: own) =
      [⟨.ofLexeme lexeme, c :: own, start, lexeme.note? (c :: own)⟩] := by
  have hnil (start : Nat) : tokenizeFrom start [] = [] := by rw [tokenizeFrom]
  obtain ⟨_, rfl, htokens⟩ := tokenizeFrom_of_some hfirst start
  rwa [List.take_of_length_le (by simp), List.drop_of_length_le (by simp), hnil] at htokens

/-! ## Firm texts -/

/-- A text of lexemes, each of which has its end in itself. -/
inductive Firm : Text → Prop where
  | nil : Firm []
  | lexeme {c : Char} {own rest : Text} {lexeme : Lexeme}
      (hfirst : Lexeme.first? c own = some (lexeme, own.length + 1))
      (hlexeme : lexeme ≠ .groupOpen) (hrest : Firm rest) : Firm (c :: (own ++ rest))

namespace Firm

variable {text left right : Text}

theorem append (hleft : Firm left) (hright : Firm right) : Firm (left ++ right) := by
  induction hleft with
  | nil => exact hright
  | lexeme hfirst hlexeme hrest ih =>
      rw [List.cons_append, List.append_assoc]
      exact .lexeme hfirst hlexeme ih

theorem flatMap {Item : Type} {items : List Item} {write : Item → Text}
    (hitems : ∀ item ∈ items, Firm (write item)) : Firm (items.flatMap write) := by
  induction items with
  | nil => exact .nil
  | cons item items ih =>
      rw [List.forall_mem_cons] at hitems
      rw [List.flatMap_cons]
      exact hitems.1.append (ih hitems.2)

/-- A single lexeme. -/
theorem of_first {c : Char} {own : Text} {lexeme : Lexeme}
    (hfirst : Lexeme.first? c own = some (lexeme, own.length + 1))
    (hlexeme : lexeme ≠ .groupOpen) : Firm (c :: own) := by
  have hfirm := Firm.lexeme hfirst hlexeme .nil
  rwa [List.append_nil] at hfirm

theorem of_isSingle {c : Char} (hsingle : Lexeme.IsSingle c) : Firm [c] := by
  obtain ⟨lexeme, hfirst, hneutral⟩ := hsingle []
  refine of_first hfirst ?_
  rintro rfl
  exact absurd hneutral.not_group.1 (by decide)

theorem faultless (hfirm : Firm text) : Faultless text := by
  induction hfirm with
  | nil => exact .nil
  | @lexeme c own rest lexeme hfirst hlexeme hrest ih =>
      refine .lexeme (Lexeme.first?_append hfirst hlexeme rest) ?_
      rw [List.drop_succ_cons, List.drop_left]
      exact ih

/-- Such a text is finished, so whatever follows it leaves its tokens alone. -/
theorem isFinishedFrom (hfirm : Firm text) (start : Nat) : IsFinishedFrom start text := by
  induction hfirm generalizing start with
  | nil => exact isFinishedFrom_nil start
  | @lexeme c own rest lexeme hfirst hlexeme hrest ih =>
      have hwhole (after : Text) := Lexeme.first?_append hfirst hlexeme after
      have htext : (Token.first start c (own ++ rest)).text = c :: own := by
        simp only [Token.first, hwhole, List.take_succ_cons, List.take_left]
      refine isFinishedFrom_cons_iff.2 ⟨Lexeme.not_isBegun_of_first? (hwhole rest) ?_, ?_⟩
      · intro after
        rw [List.append_assoc, hwhole, hwhole]
      · rw [htext, List.length_cons, List.drop_succ_cons, List.drop_left]
        exact ih _

/-- The tokens of a firm text lie before those of what follows it. -/
theorem tokenizeFrom_append (hfirm : Firm text) (start : Nat) (after : Text) :
    tokenizeFrom start (text ++ after) =
      tokenizeFrom start text ++ tokenizeFrom (start + byteLength text) after :=
  Breakdown.tokenizeFrom_append (hfirm.isFinishedFrom start) after

end Firm

/-! ## Texts one after the other -/

/-- The tokens of each text on its own, moved to where the text begins when all of
them stand side by side. -/
def tokenizeEach (start : Nat) : List Text → List Token
  | [] => []
  | text :: later =>
    (tokenize text).map (Token.shifted start) ++
      tokenizeEach (start + byteLength text) later

/-- Firm texts side by side are broken down one by one. -/
theorem tokenizeFrom_flatten {texts : List Text} (hfirm : ∀ text ∈ texts, Firm text)
    (start : Nat) : tokenizeFrom start texts.flatten = tokenizeEach start texts := by
  induction texts generalizing start with
  | nil => rw [List.flatten_nil, tokenizeFrom, tokenizeEach]
  | cons text texts ih =>
      rw [List.forall_mem_cons] at hfirm
      rw [List.flatten_cons, hfirm.1.tokenizeFrom_append, ih hfirm.2,
        tokenizeFrom_eq_shifted, tokenizeEach]

end PatternWorkbench.Breakdown
