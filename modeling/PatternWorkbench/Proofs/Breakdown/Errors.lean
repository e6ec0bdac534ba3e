import PatternWorkbench.Matching.Scan
import PatternWorkbench.Proofs.Breakdown.Lexing

/-!
# Errors of a breakdown are errors of its pattern

The token reader ends a class at the first bracket that is not escaped, and a
name at the first angle, so it may lose step with the pattern.  It stays in step
with the escape sequences, and behind an opening bracket that it sees there is
always a closing one.
-/

namespace PatternWorkbench.Breakdown

open Matching (Flags compile execute)
open Pattern (Accepted IsPaired Level Piece Tree isDelimiter standsAlone)

/-! ## Texts without errors -/

/-- The text is read to its end and every token on the way is in order. -/
inductive Faultless : Text → Prop where
  | nil : Faultless []
  | lexeme {c : Char} {rest : Text} {lexeme : Lexeme} {length : Nat}
      (hfirst : Lexeme.first? c rest = some (lexeme, length))
      (hlater : Faultless ((c :: rest).drop length)) : Faultless (c :: rest)
  | stray {c : Char} {rest : Text} (hfirst : Lexeme.first? c rest = none)
      (hc : c ≠ '[' ∧ c ≠ '\\') (hlater : Faultless rest) : Faultless (c :: rest)

theorem Faultless.kind_ne_error {text : Text} (hfaultless : Faultless text) (start : Nat) :
    ∀ token ∈ tokenizeFrom start text, token.kind ≠ .error := by
  induction hfaultless generalizing start with
  | nil =>
      rw [tokenizeFrom]
      simp
  | @lexeme c rest lexeme length hfirst hlater ih =>
      obtain ⟨text, _, htokens⟩ := tokenizeFrom_of_some hfirst start
      rw [htokens, List.forall_mem_cons]
      refine ⟨?_, ih _⟩
      cases lexeme <;> simp [TokenKind.ofLexeme]
  | @stray c rest hfirst hc hlater ih =>
      rw [tokenizeFrom_of_none hfirst, List.forall_mem_cons]
      refine ⟨?_, ih _⟩
      unfold Token.stray
      split
      case h_1 => exact absurd rfl hc.1
      case h_2 => exact absurd rfl hc.2
      case h_3 | h_4 => simp

section Faultless

variable {c : Char} {rest text after : Text} {lexeme : Lexeme} {length : Nat}

theorem Faultless.drop (hfaultless : Faultless (c :: rest))
    (hfirst : Lexeme.first? c rest = some (lexeme, length)) :
    Faultless ((c :: rest).drop length) := by
  cases hfaultless with
  | lexeme hfirst' hlater =>
      obtain ⟨rfl, rfl⟩ := Prod.mk.inj (Option.some.inj (hfirst.symm.trans hfirst'))
      exact hlater
  | stray hfirst' => simp [hfirst] at hfirst'

theorem Faultless.of_single (hfaultless : Faultless (text ++ after))
    (htext : ∀ c ∈ text, Lexeme.IsSingle c) : Faultless after := by
  induction text with
  | nil => exact hfaultless
  | cons c text ih =>
      rw [List.forall_mem_cons] at htext
      obtain ⟨lexeme, hfirst, _⟩ := htext.1 (text ++ after)
      exact ih (hfaultless.drop hfirst) htext.2

end Faultless

/-! ## Texts at which the token reader may go on -/

/-- The text is without errors, and so is what follows its first closing
angle. -/
structure Calm (text : Text) : Prop where
  faultless : Faultless text
  behindAngle : ∀ length, Lexeme.nameLength? text = some length →
    Faultless (text.drop length)

/-- Inside a class there is a closing bracket ahead, with no errors behind it. -/
structure CalmInside (text : Text) : Prop extends Calm text where
  behindBracket : ∃ length, Lexeme.classLength? text = some length ∧
    Faultless (text.drop length)

section Calm

variable {c : Char} {rest text after : Text}

theorem calm_nil : Calm [] :=
  ⟨.nil, by simp [Lexeme.nameLength?]⟩

theorem behindAngle_cons (hrest : Calm rest) :
    ∀ length, Lexeme.nameLength? (c :: rest) = some length →
      Faultless ((c :: rest).drop length) := by
  intro length hlength
  rw [Lexeme.nameLength?] at hlength
  split at hlength
  case isTrue =>
    rw [← Option.some.inj hlength]
    exact hrest.faultless
  case isFalse =>
    obtain ⟨others, hothers, rfl⟩ := Option.map_eq_some_iff.1 hlength
    exact hrest.behindAngle others hothers

/-- An opening parenthesis takes along a mark, or a name up to its angle. -/
theorem faultless_opening (hrest : Calm rest) : Faultless ('(' :: rest) := by
  have hfirst : Lexeme.first? '(' rest = Lexeme.groupOpener? rest := rfl
  have hopens := Lexeme.opens_groupOpener? rest
  generalize Lexeme.groupOpener? rest = found at hfirst hopens
  cases hopens with
  | nonCapturing after =>
      have hmark : ∀ d ∈ ['?', ':'], Lexeme.IsSingle d := by
        simpa using ⟨Lexeme.isSingle_of_standsAlone (by decide) (by decide),
          Lexeme.isSingle_of_standsAlone (by decide) (by decide)⟩
      exact .lexeme hfirst (Faultless.of_single hrest.faultless hmark)
  | @named sign d name hsign hbegins hname after =>
      have hnone := Lexeme.not_mem_opening hsign hbegins hname
      have hsplit : sign ++ d :: (name ++ '>' :: after) =
          (sign ++ d :: name) ++ '>' :: after := by simp
      have hlength : name.length + sign.length + 3 = (sign ++ d :: name).length + 1 + 1 := by
        rw [List.length_append, List.length_cons]
        omega
      refine .lexeme hfirst ?_
      rw [hlength, List.drop_succ_cons]
      rw [hsplit] at hrest ⊢
      exact hrest.behindAngle _ (Lexeme.nameLength?_append hnone after)
  | halfTyped => exact .stray hfirst (by decide) hrest.faultless
  | plain => exact .lexeme hfirst hrest.faultless

/-- A brace takes along the bounds of a repetition, if that is what follows. -/
theorem faultless_brace (hrest : Faultless rest) : Faultless ('{' :: rest) := by
  cases hbounds : Lexeme.boundsLength? rest with
  | none => exact .stray (Lexeme.first?_brace hbounds) (by decide) hrest
  | some length =>
      refine .lexeme (Lexeme.first?_bounds_of_some hbounds) ?_
      obtain ⟨bounds, after, rfl, rfl, hsingle⟩ := Lexeme.exists_of_boundsLength? hbounds
      rw [List.drop_succ_cons, List.drop_left]
      exact hrest.of_single hsingle

/-- Any character that begins neither a class nor an escape sequence may be put in
front. -/
theorem Calm.cons (hrest : Calm rest) (hc : c ≠ '[' ∧ c ≠ '\\') : Calm (c :: rest) := by
  refine ⟨?_, behindAngle_cons hrest⟩
  by_cases hopening : c = '('
  · rw [hopening]
    exact faultless_opening hrest
  by_cases hbrace : c = '{'
  · rw [hbrace]
    exact faultless_brace hrest.faultless
  by_cases hclosing : c = ')'
  · rw [hclosing]
    exact .lexeme rfl hrest.faultless
  · obtain ⟨lexeme, hfirst, _⟩ := Lexeme.isSingle_of_standsAlone
      (by simp [standsAlone, isDelimiter, hopening, hclosing, hc.1, hc.2, em]) hbrace rest
    exact .lexeme hfirst hrest.faultless

/-- Characters that open no class and escape nothing keep a text calm. -/
theorem Calm.append (hafter : Calm after) (htext : ∀ c ∈ text, c ≠ '[' ∧ c ≠ '\\') :
    Calm (text ++ after) := by
  induction text with
  | nil => exact hafter
  | cons c text ih =>
      rw [List.forall_mem_cons] at htext
      exact (ih htext.2).cons htext.1

theorem Calm.escape (hrest : Calm rest) (c : Char) : Calm ('\\' :: c :: rest) where
  faultless := .lexeme (Lexeme.first?_escape c rest) hrest.faultless
  behindAngle length hlength := by
    obtain ⟨others, hothers, rfl⟩ := Option.map_eq_some_iff.1 hlength
    exact behindAngle_cons hrest others hothers

/-! ## Classes -/

theorem calmInside_closing (hafter : Calm after) : CalmInside (']' :: after) where
  toCalm := hafter.cons (by decide)
  behindBracket := ⟨1, rfl, hafter.faultless⟩

theorem CalmInside.escape (hrest : CalmInside rest) (c : Char) :
    CalmInside ('\\' :: c :: rest) where
  toCalm := hrest.toCalm.escape c
  behindBracket := by
    obtain ⟨length, hlength, hbehind⟩ := hrest.behindBracket
    exact ⟨length + 2, by rw [Lexeme.classLength?, hlength]; rfl, hbehind⟩

/-- A bracket opens a class that is closed again, so the text is calm. -/
theorem CalmInside.opening (hrest : CalmInside rest) : Calm ('[' :: rest) where
  faultless := by
    obtain ⟨length, hlength, hbehind⟩ := hrest.behindBracket
    exact .lexeme (Lexeme.first?_class hlength) hbehind
  behindAngle := behindAngle_cons hrest.toCalm

theorem CalmInside.cons (hrest : CalmInside rest) (hc : c ≠ '\\') :
    CalmInside (c :: rest) := by
  by_cases hclosing : c = ']'
  · rw [hclosing]
    exact calmInside_closing hrest.toCalm
  refine ⟨?_, ?_⟩
  · by_cases hopening : c = '['
    · rw [hopening]
      exact hrest.opening
    · exact hrest.toCalm.cons ⟨hopening, hc⟩
  · obtain ⟨length, hlength, hbehind⟩ := hrest.behindBracket
    refine ⟨length + 1, ?_, hbehind⟩
    rw [Lexeme.classLength?, hlength]
    · rfl
    all_goals simp_all

theorem CalmInside.append (hafter : CalmInside after) (hpaired : IsPaired text) :
    CalmInside (text ++ after) := by
  induction hpaired with
  | nil => exact hafter
  | escape c hrest ih => exact ih.escape c
  | cons hc hrest ih => exact ih.cons hc

end Calm

/-! ## Pieces -/

theorem ne_of_standsAlone {c : Char} (hc : standsAlone c = true) :
    c ≠ '[' ∧ c ≠ '\\' := by
  constructor <;> rintro rfl <;> contradiction

/-- The opening of a named group is passed as a whole. -/
theorem calm_named {sign name after : Text}
    (hsign : sign = ['?', '<'] ∨ sign = ['?', 'P', '<'])
    (hname : Pattern.GroupReading.IsGroupName name) (hafter : Calm after) :
    Calm ('(' :: (sign ++ name ++ '>' :: after)) where
  faultless := by
    refine .lexeme (Lexeme.first?_named hsign hname after) ?_
    rw [List.drop_succ_cons, List.drop_length_add_append]
    exact hafter.faultless
  behindAngle length hlength := by
    have hnone : '>' ∉ '(' :: (sign ++ name) := by
      rcases hsign with rfl | rfl <;> simp [hname.not_mem]
    rw [← List.cons_append, Lexeme.nameLength?_append hnone] at hlength
    rw [← List.cons_append, ← Option.some.inj hlength, List.drop_length_add_append]
    exact hafter.faultless

/-- In front of a calm text a piece of an accepted pattern is calm. -/
theorem calm_of_piece {pos : Nat} {level next : Level} {text after : Text}
    {features : List Pattern.Feature} (hpiece : Piece pos level text after features next)
    (hafter : Calm after) : Calm (text ++ after) := by
  cases hpiece with
  | plain htext => exact hafter.append fun c hc => ne_of_standsAlone (htext c hc)
  | escape queries hlegible =>
      exact (hafter.append fun c hc =>
        ne_of_standsAlone (hlegible.standsAlone c hc)).escape _
  | bracketed queries hpaired hflat =>
      have hinside := (calmInside_closing hafter).append hpaired
      simpa using hinside.opening
  | numbered hmark => exact hafter.cons (by decide)
  | named hsign hname => simpa using calm_named hsign hname hafter
  | setFlags items hletters =>
      have hclosing := (hafter.cons (c := ')') (by decide)).append fun c hc =>
        ne_of_standsAlone (Pattern.standsAlone_of_isFlagLetter (hletters c hc))
      simpa using (hclosing.cons (c := '?') (by decide)).cons (c := '(') (by decide)
  | grouping items hletters =>
      have hcolon := (hafter.cons (c := ':') (by decide)).append fun c hc =>
        ne_of_standsAlone (Pattern.standsAlone_of_isFlagLetter (hletters c hc))
      simpa using (hcolon.cons (c := '?') (by decide)).cons (c := '(') (by decide)
  | close hlevel => exact hafter.cons (by decide)

/-- What the parser of patterns accepts holds no errors for the reader of tokens. -/
theorem calm_of_accepted {pos : Nat} {level : Level} {text : Text}
    {features : List Pattern.Feature} (haccepted : Accepted pos level text features) :
    Calm text := by
  induction haccepted with
  | done pos captures => exact calm_nil
  | piece hpiece hafter ih => exact calm_of_piece hpiece ih

/-! ## Patterns -/

/-- A flag group of the pattern switches verbose mode on. -/
def TurnsOnVerbose (pattern : Text) : Prop :=
  ∃ tree items, Tree.read pattern = .ok tree ∧ .flags items ∈ tree.features ∧
    items.setting? .ignoreWhitespace = some true

theorem features_of_map {pattern : Text} {tree : Tree} {features : List Pattern.Feature}
    (hfeatures : (Tree.read pattern).map Tree.features = .ok features)
    (htree : Tree.read pattern = .ok tree) : tree.features = features := by
  rw [htree] at hfeatures
  exact Except.ok.inj hfeatures

/-- A pattern without flag groups never turns verbose mode on. -/
theorem not_turnsOnVerbose {pattern : Text} {features : List Pattern.Feature}
    (hfeatures : (Tree.read pattern).map Tree.features = .ok features)
    (hquiet : ∀ items, .flags items ∉ features) : ¬ TurnsOnVerbose pattern := by
  rintro ⟨tree, items, htree, hitems, -⟩
  rw [features_of_map hfeatures htree] at hitems
  exact hquiet items hitems

/-- The pieces of a pattern that has a meaning. -/
theorem accepted_of_expr {modes : Pattern.Modes} {pattern : Text} {expr : Pattern.Expr}
    (hverbose : ¬ TurnsOnVerbose pattern)
    (hread : Pattern.Expr.read modes pattern = .ok expr) :
    ∃ tree after, Tree.read pattern = .ok tree ∧
      Pattern.Meaning.tree modes tree = .ok (expr, after) ∧
      Accepted 0 ⟨0, 0⟩ pattern tree.features := by
  obtain ⟨tree, htree, hread⟩ := bind_eq_ok_iff.1 hread
  obtain ⟨⟨other, after⟩, hmeaning, hsame⟩ := bind_eq_ok_iff.1 hread
  obtain rfl := Except.ok.inj hsame
  refine ⟨tree, after, htree, hmeaning, Pattern.accepted_of_tree htree ⟨?_, ?_⟩⟩
  · exact fun items hitems hon => hverbose ⟨tree, items, htree, hitems, hon⟩
  · exact Pattern.Meaning.isKnown_of_tree hmeaning

/-- A compilation that finds nothing wrong with the pattern has read it. -/
theorem compile_ne_badPattern_iff {pattern : Text} {flags : Flags} {sizeLimit : Nat} :
    (∀ diagnostic, compile pattern flags sizeLimit ≠
        .error (.badPattern pattern diagnostic)) ↔
      ∃ expr, Pattern.Expr.read flags.modes pattern = .ok expr := by
  unfold compile
  cases Pattern.Expr.read flags.modes pattern with
  | error diagnostic => simp
  | ok expr =>
      simp only [Except.ok.injEq, exists_eq', iff_true]
      intro diagnostic
      split <;> simp

/-- Outside verbose mode a pattern that nothing is wrong with has no error among
its tokens, and a pattern with an error among its tokens cannot be run. -/
theorem error_of_tokenize {pattern : Text} {flags : Flags}
    (hverbose : ¬ TurnsOnVerbose pattern) :
    (∀ sizeLimit, (∀ diagnostic, compile pattern flags sizeLimit ≠
        .error (.badPattern pattern diagnostic)) →
      ∀ token ∈ tokenize pattern, token.kind ≠ .error) ∧
    ((∃ token ∈ tokenize pattern, token.kind = .error) → ∀ sample budget,
      ∃ diagnostic, execute pattern flags sample budget =
        .error (.badPattern pattern diagnostic)) := by
  have hfaultless (sizeLimit : Nat) (hcompile : ∀ diagnostic,
      compile pattern flags sizeLimit ≠ .error (.badPattern pattern diagnostic)) :
      ∀ token ∈ tokenize pattern, token.kind ≠ .error := by
    obtain ⟨expr, hread⟩ := compile_ne_badPattern_iff.1 hcompile
    obtain ⟨tree, after, _, _, haccepted⟩ := accepted_of_expr hverbose hread
    exact (calm_of_accepted haccepted).faultless.kind_ne_error 0
  refine ⟨hfaultless, fun ⟨token, htoken, hkind⟩ sample budget => ?_⟩
  have hbad : ∃ diagnostic, compile pattern flags budget.sizeLimit =
      .error (.badPattern pattern diagnostic) := by
    by_contra hnone
    exact hfaultless budget.sizeLimit (not_exists.1 hnone) token htoken hkind
  obtain ⟨diagnostic, hcompile⟩ := hbad
  have hne : pattern.isEmpty = false := by
    cases pattern with
    | nil => simp [tokenize, tokenizeFrom] at htoken
    | cons c rest => rfl
  refine ⟨diagnostic, ?_⟩
  rw [execute, hne, hcompile]
  rfl

/-- A nested class, where the reader loses step with the pattern, and a class that
is not closed. -/
theorem error_of_tokenize_classes :
    (∀ token ∈ tokenize "[a[b](?<]c>".toList, token.kind ≠ .error) ∧
    ∃ diagnostic, execute "[a".toList {} "a".toList {} =
      .error (.badPattern "[a".toList diagnostic) := by
  have hfeatures : (Tree.read "[a[b](?<]c>".toList).map Tree.features =
      .ok [.bracketed ⟨0, 9⟩] := by decide +kernel
  have hnested : ¬ TurnsOnVerbose "[a[b](?<]c>".toList :=
    not_turnsOnVerbose hfeatures (by simp)
  have hread : ∃ expr, Pattern.Expr.read ({} : Flags).modes "[a[b](?<]c>".toList =
      .ok expr := by
    have hok : (Pattern.Expr.read ({} : Flags).modes "[a[b](?<]c>".toList).isOk = true := by
      decide +kernel
    cases hexpr : Pattern.Expr.read ({} : Flags).modes "[a[b](?<]c>".toList with
    | error diagnostic =>
        rw [hexpr] at hok
        contradiction
    | ok expr => exact ⟨expr, rfl⟩
  have hunclosed : ¬ TurnsOnVerbose "[a".toList := by
    rintro ⟨tree, items, htree, -, -⟩
    have hbad : (Tree.read "[a".toList).isOk = false := by decide +kernel
    rw [htree] at hbad
    contradiction
  have herror : ⟨.error, ['['], 0, some Note.unclosedClass⟩ ∈ tokenize "[a".toList :=
    List.mem_of_mem_head? (by decide +kernel)
  exact ⟨(error_of_tokenize hnested).1 0 (compile_ne_badPattern_iff.2 hread),
    (error_of_tokenize hunclosed).2 ⟨_, herror, rfl⟩ _ _⟩

end PatternWorkbench.Breakdown
