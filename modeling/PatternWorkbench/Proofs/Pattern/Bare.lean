import PatternWorkbench.Proofs.Pattern.Combination

/-!
# Bare expressions

An expression without conditions and groups looks at the characters it passes
and at nothing else.  Ways to combine expressions keep them bare.
-/

namespace PatternWorkbench.Pattern

namespace Expr

/-- Whether an expression has neither conditions nor groups in it. -/
def isBare : Expr → Bool
  | empty | set _ => true
  | look _ | capture .. => false
  | seq first second | choice first second => first.isBare && second.isBare
  | repeated _ _ _ body => body.isBare

theorem captures_of_isBare {expr : Expr} (hbare : expr.isBare = true) :
    expr.captures = [] := by
  induction expr with
  | empty | set => rfl
  | look | capture => contradiction
  | seq first second ihFirst ihSecond | choice first second ihFirst ihSecond =>
      rw [isBare, Bool.and_eq_true] at hbare
      rw [captures, ihFirst hbare.1, ihSecond hbare.2, List.append_nil]
  | repeated least most greedy body ih => exact ih hbare

/-! ## Ways to combine -/

section Combine

variable {expr : Expr} {parts : List Expr}

theorem isBare_of_mem_items (hbare : expr.isBare = true) :
    ∀ item ∈ expr.items, item.isBare = true := by
  induction expr with
  | empty => simp [items]
  | seq first second ihFirst ihSecond =>
      rw [isBare, Bool.and_eq_true] at hbare
      intro item hitem
      rcases List.mem_append.1 hitem with hitem | hitem
      · exact ihFirst hbare.1 item hitem
      · exact ihSecond hbare.2 item hitem
  | set | look | choice | repeated | capture =>
      intro item hitem
      rw [List.mem_singleton.1 hitem]
      exact hbare

theorem isBare_of_mem_branches (hbare : expr.isBare = true) :
    ∀ branch ∈ expr.branches, branch.isBare = true := by
  induction expr with
  | choice first second ihFirst ihSecond =>
      rw [isBare, Bool.and_eq_true] at hbare
      intro branch hbranch
      rcases List.mem_append.1 hbranch with hbranch | hbranch
      · exact ihFirst hbare.1 branch hbranch
      · exact ihSecond hbare.2 branch hbranch
  | empty | set | look | seq | repeated | capture =>
      intro branch hbranch
      rw [List.mem_singleton.1 hbranch]
      exact hbare

theorem isBare_ofItems (hparts : ∀ part ∈ parts, part.isBare = true) :
    (ofItems parts).isBare = true := by
  fun_induction ofItems parts with
  | case1 => rfl
  | case2 part => exact hparts part (by simp)
  | case3 part rest hne ih =>
      rw [isBare, hparts part (by simp),
        ih fun other hother => hparts other (by simp [hother])]
      rfl

theorem isBare_ofBranches (hparts : ∀ part ∈ parts, part.isBare = true) :
    (ofBranches parts).isBare = true := by
  fun_induction ofBranches parts with
  | case1 => rfl
  | case2 part => exact hparts part (by simp)
  | case3 part rest hne ih =>
      rw [isBare, hparts part (by simp),
        ih fun other hother => hparts other (by simp [hother])]
      rfl

theorem isBare_flatMap {split : Expr → List Expr}
    (hsplit : ∀ part, part.isBare = true → ∀ piece ∈ split part, piece.isBare = true)
    (hparts : ∀ part ∈ parts, part.isBare = true) :
    ∀ piece ∈ parts.flatMap split, piece.isBare = true := by
  intro piece hpiece
  obtain ⟨part, hpart, hpiece⟩ := List.mem_flatMap.1 hpiece
  exact hsplit part (hparts part hpart) piece hpiece

theorem isBare_concat (hparts : ∀ part ∈ parts, part.isBare = true) :
    (concat parts).isBare = true :=
  isBare_ofItems (isBare_flatMap (fun _ => isBare_of_mem_items) hparts)

theorem isBare_choose (hparts : ∀ part ∈ parts, part.isBare = true) :
    (choose parts).isBare = true := by
  unfold choose
  split
  case h_1 => rfl
  case h_2 part => exact hparts part (by simp)
  case h_3 =>
    split
    · rfl
    · exact isBare_ofBranches hparts

/-- The words of a sequence are made of its items. -/
theorem isBare_of_mem_words (hparts : ∀ part ∈ parts, part.isBare = true) :
    ∀ word ∈ words parts, ∀ part ∈ word, part.isBare = true := by
  intro word hword part hpart
  apply hparts part
  rw [← flatten_words parts]
  exact List.mem_flatten.2 ⟨word, hword, hpart⟩

/-- Bare alternatives make a bare alternation, prefixes taken out or not. -/
theorem isBare_alternation (hparts : ∀ part ∈ parts, part.isBare = true) :
    (alternation parts).isBare = true := by
  have halternatives := isBare_flatMap (fun _ => isBare_of_mem_branches) hparts
  unfold alternation
  generalize parts.flatMap branches = alternatives at halternatives ⊢
  have hsequences : ∀ sequence ∈ alternatives.map (fun alternative =>
      words alternative.items), ∀ word ∈ sequence, ∀ part ∈ word,
        part.isBare = true := by
    intro sequence hsequence
    obtain ⟨alternative, halternative, rfl⟩ := List.mem_map.1 hsequence
    exact isBare_of_mem_words
      (isBare_of_mem_items (halternatives alternative halternative))
  dsimp only
  generalize alternatives.map (fun alternative => words alternative.items) =
    sequences at hsequences ⊢
  split
  case h_1 => exact isBare_choose halternatives
  case h_2 shared _ =>
    have hbeginning : ∀ part ∈ ((sequences.head?.getD []).take (shared + 1)).flatten,
        part.isBare = true := by
      intro part hpart
      obtain ⟨word, hword, hinside⟩ := List.mem_flatten.1 hpart
      cases sequences with
      | nil => simp at hword
      | cons first rest =>
          exact hsequences first (by simp) word (List.mem_of_mem_take hword) part
            hinside
    have hchoices : ∀ choice ∈ sequences.map (fun sequence =>
        ofItems (sequence.drop (shared + 1)).flatten), choice.isBare = true := by
      intro choice hchoice
      obtain ⟨sequence, hsequence, rfl⟩ := List.mem_map.1 hchoice
      apply isBare_ofItems
      intro part hpart
      obtain ⟨word, hword, hinside⟩ := List.mem_flatten.1 hpart
      exact hsequences sequence hsequence word (List.mem_of_mem_drop hword) part
        hinside
    apply isBare_concat
    intro part hpart
    rcases List.mem_append.1 hpart with hpart | hpart
    · exact hbeginning part hpart
    · rw [List.mem_singleton.1 hpart]
      exact isBare_choose (isBare_flatMap (fun _ => isBare_of_mem_branches) hchoices)

theorem isBare_repetition (least : Nat) (most : Option Nat) (greedy : Bool)
    (hbare : expr.isBare = true) :
    (repetition least most greedy expr).isBare = true := by
  unfold repetition
  extract_lets fewest highest
  split
  · rfl
  · split
    · exact hbare
    · exact hbare

end Combine

end Expr

end PatternWorkbench.Pattern
