import PatternWorkbench.Proofs.Breakdown.Errors
import PatternWorkbench.Proofs.Matching.GlobalScan
import PatternWorkbench.Proofs.Pattern.KeptGroups

/-!
# Groups of a breakdown are groups of its pattern

Where no class is nested, the token reader keeps step with the pattern piece by
piece.  Its tokens then open and close groups as the pattern does, and they name
the named groups in the order in which these open.
-/

namespace PatternWorkbench.Breakdown

open Machine (Footprint)
open Matching (Flags compile slice)
open Pattern (Accepted Feature IsPaired Level Piece Tree standsAlone unescaped)
open Pattern.ClassReading (IsFlat)
open Pattern.Reading (State)
open Unicode (CharSet)

/-! ## Tokens of groups -/

namespace Token

/-- The parenthesis that opens a group, with what belongs to it. -/
def opensGroup (token : Token) : Bool :=
  token.kind = .namedGroupMarker || (token.kind = .groupMarker && token.text != [')'])

def closesGroup (token : Token) : Bool :=
  token.kind = .groupMarker && token.text == [')']

end Token

def namedNote (name : Text) : Text :=
  "start of named group '".toList ++ name ++ ['\'']

def namedNotes (tokens : List Token) : List (Option Text) :=
  (tokens.filter (·.kind = .namedGroupMarker)).map (·.note)

/-- Tokens that leave no group open if `depth` groups are open before them, and
the names of the named groups among them. -/
inductive Balanced : Nat → List Text → List Token → Prop where
  | nil : Balanced 0 [] []
  | neutral {depth : Nat} {names : List Text} {token : Token} {later : List Token}
      (hopens : token.opensGroup = false) (hcloses : token.closesGroup = false)
      (hlater : Balanced depth names later) : Balanced depth names (token :: later)
  | opening {depth : Nat} {names : List Text} {token : Token} {later : List Token}
      (hopens : token.opensGroup = true) (hkind : token.kind = .groupMarker)
      (hlater : Balanced (depth + 1) names later) : Balanced depth names (token :: later)
  | named {depth : Nat} {name : Text} {names : List Text} {token : Token}
      {later : List Token} (hkind : token.kind = .namedGroupMarker)
      (hnote : token.note = some (namedNote name))
      (hlater : Balanced (depth + 1) names later) :
      Balanced depth (name :: names) (token :: later)
  | closing {depth : Nat} {names : List Text} {token : Token} {later : List Token}
      (hcloses : token.closesGroup = true) (hlater : Balanced depth names later) :
      Balanced (depth + 1) names (token :: later)

namespace Token

variable {token : Token}

theorem kind_of_not_opensGroup (hopens : token.opensGroup = false) :
    token.kind ≠ .namedGroupMarker := by
  intro hkind
  simp [opensGroup, hkind] at hopens

theorem closesGroup_of_named (hkind : token.kind = .namedGroupMarker) :
    token.opensGroup = true ∧ token.closesGroup = false := by
  simp [opensGroup, closesGroup, hkind]

theorem closesGroup_eq_not (hkind : token.kind = .groupMarker) :
    token.closesGroup = !token.opensGroup := by
  simp [opensGroup, closesGroup, hkind, bne]

theorem opensGroup_of_closesGroup (hcloses : token.closesGroup = true) :
    token.opensGroup = false ∧ token.kind ≠ .namedGroupMarker := by
  simp only [closesGroup, Bool.and_eq_true, decide_eq_true_eq] at hcloses
  simp [opensGroup, hcloses.1, bne, hcloses.2]

end Token

namespace Balanced

variable {depth : Nat} {names : List Text} {tokens early : List Token}

/-- As many groups are opened as closed, but for those that were open before. -/
theorem count_eq (hbalanced : Balanced depth names tokens) :
    tokens.countP Token.opensGroup + depth = tokens.countP Token.closesGroup := by
  induction hbalanced with
  | nil => rfl
  | neutral hopens hcloses hlater ih =>
      simpa [List.countP_cons, hopens, hcloses] using ih
  | opening hopens hkind hlater ih =>
      have hcloses := Token.closesGroup_eq_not hkind
      simp [hopens, hcloses]
      omega
  | named hkind hnote hlater ih =>
      obtain ⟨hopens, hcloses⟩ := Token.closesGroup_of_named hkind
      simp [hopens, hcloses]
      omega
  | closing hcloses hlater ih =>
      obtain ⟨hopens, _⟩ := Token.opensGroup_of_closesGroup hcloses
      simp [hopens, hcloses]
      omega

/-- No beginning of the tokens closes more groups than are open. -/
theorem count_prefix_le (hbalanced : Balanced depth names tokens)
    (hearly : early <+: tokens) :
    early.countP Token.closesGroup ≤ early.countP Token.opensGroup + depth := by
  induction hbalanced generalizing early with
  | nil => simp [List.prefix_nil.1 hearly]
  | @neutral depth names token later hopens hcloses hlater ih =>
      rcases List.prefix_cons_iff.1 hearly with rfl | ⟨few, rfl, hfew⟩
      · simp
      · simpa [List.countP_cons, hopens, hcloses] using ih hfew
  | @opening depth names token later hopens hkind hlater ih =>
      rcases List.prefix_cons_iff.1 hearly with rfl | ⟨few, rfl, hfew⟩
      · simp
      · have hcloses := Token.closesGroup_eq_not hkind
        have := ih hfew
        simp [hopens, hcloses]
        omega
  | @named depth name names token later hkind hnote hlater ih =>
      rcases List.prefix_cons_iff.1 hearly with rfl | ⟨few, rfl, hfew⟩
      · simp
      · obtain ⟨hopens, hcloses⟩ := Token.closesGroup_of_named hkind
        have := ih hfew
        simp [hopens, hcloses]
        omega
  | @closing depth names token later hcloses hlater ih =>
      rcases List.prefix_cons_iff.1 hearly with rfl | ⟨few, rfl, hfew⟩
      · simp
      · obtain ⟨hopens, _⟩ := Token.opensGroup_of_closesGroup hcloses
        have := ih hfew
        simp [hopens, hcloses]
        omega

/-- The notes on named groups tell their names in the order in which they open. -/
theorem namedNotes_eq (hbalanced : Balanced depth names tokens) :
    namedNotes tokens = names.map fun name => some (namedNote name) := by
  induction hbalanced with
  | nil => rfl
  | neutral hopens hcloses hlater ih =>
      simpa [namedNotes, Token.kind_of_not_opensGroup hopens] using ih
  | opening hopens hkind hlater ih => simpa [namedNotes, hkind] using ih
  | named hkind hnote hlater ih => simpa [namedNotes, hkind, hnote] using ih
  | closing hcloses hlater ih =>
      simpa [namedNotes, (Token.opensGroup_of_closesGroup hcloses).2] using ih

end Balanced

/-! ## Texts of groups -/

/-- A text whose lexemes leave no group open if `depth` groups are open before it,
and the names of the named groups that it opens. -/
inductive Nested : Nat → List Text → Text → Prop where
  | nil : Nested 0 [] []
  | neutral {depth : Nat} {names : List Text} {c : Char} {rest : Text} {lexeme : Lexeme}
      {length : Nat} (hfirst : Lexeme.first? c rest = some (lexeme, length))
      (hopens : lexeme.opensGroup = false) (hcloses : lexeme ≠ .groupClose)
      (hlater : Nested depth names ((c :: rest).drop length)) :
      Nested depth names (c :: rest)
  | stray {depth : Nat} {names : List Text} {rest : Text}
      (hbounds : Lexeme.boundsLength? rest = none) (hlater : Nested depth names rest) :
      Nested depth names ('{' :: rest)
  | opening {depth : Nat} {names : List Text} {rest : Text} {lexeme : Lexeme}
      {length : Nat} (hfirst : Lexeme.first? '(' rest = some (lexeme, length))
      (hopens : lexeme = .nonCapturingOpen ∨ lexeme = .groupOpen)
      (hlater : Nested (depth + 1) names (('(' :: rest).drop length)) :
      Nested depth names ('(' :: rest)
  | named {depth : Nat} {names : List Text} {rest : Text} {length : Nat}
      (hfirst : Lexeme.first? '(' rest = some (.namedGroupOpen, length))
      (hlater : Nested (depth + 1) names (('(' :: rest).drop length)) :
      Nested depth (Note.groupName (('(' :: rest).take length) :: names) ('(' :: rest)
  | closing {depth : Nat} {names : List Text} {rest : Text}
      (hlater : Nested depth names rest) : Nested (depth + 1) names (')' :: rest)

theorem Nested.balanced {depth : Nat} {names : List Text} {text : Text}
    (hnested : Nested depth names text) (start : Nat) :
    Balanced depth names (tokenizeFrom start text) := by
  induction hnested generalizing start with
  | nil =>
      rw [tokenizeFrom]
      exact .nil
  | @neutral depth names c rest lexeme length hfirst hopens hcloses hlater ih =>
      obtain ⟨text, _, htokens⟩ := tokenizeFrom_of_some hfirst start
      rw [htokens]
      refine .neutral ?_ ?_ (ih _) <;>
        cases lexeme <;>
        simp_all [Lexeme.opensGroup, Token.opensGroup, Token.closesGroup, TokenKind.ofLexeme]
  | @stray depth names rest hbounds hlater ih =>
      rw [tokenizeFrom_of_none (Lexeme.first?_brace hbounds)]
      exact .neutral rfl rfl (ih _)
  | @opening depth names rest lexeme length hfirst hopens hlater ih =>
      obtain ⟨text, htext, htokens⟩ := tokenizeFrom_of_some hfirst start
      have hparenthesis : text ≠ [')'] := by
        obtain ⟨hpos, _⟩ := Lexeme.first?_bounds hfirst
        obtain ⟨length, rfl⟩ := Nat.exists_eq_succ_of_ne_zero (Nat.ne_of_gt hpos)
        simp [htext]
      rw [htokens]
      rcases hopens with rfl | rfl <;>
        exact .opening (by simp [Token.opensGroup, TokenKind.ofLexeme, hparenthesis]) rfl
          (ih _)
  | @named depth names rest length hfirst hlater ih =>
      obtain ⟨text, rfl, htokens⟩ := tokenizeFrom_of_some hfirst start
      rw [htokens]
      exact .named rfl rfl (ih _)
  | @closing depth names rest hlater ih =>
      have hfirst : Lexeme.first? ')' rest = some (.groupClose, 1) := rfl
      obtain ⟨text, rfl, htokens⟩ := tokenizeFrom_of_some hfirst start
      rw [htokens]
      exact .closing rfl (ih _)

section Nested

variable {depth : Nat} {names : List Text} {c : Char} {text after : Text}

theorem Nested.of_single (hnested : Nested depth names (text ++ after))
    (htext : ∀ c ∈ text, Lexeme.IsSingle c) : Nested depth names after := by
  induction text with
  | nil => exact hnested
  | cons c text ih =>
      rw [List.forall_mem_cons] at htext
      obtain ⟨lexeme, hfirst, hneutral⟩ := htext.1 (text ++ after)
      refine ih ?_ htext.2
      cases hnested with
      | neutral hfirst' hopens hcloses hlater =>
          obtain ⟨rfl, rfl⟩ := Prod.mk.inj (Option.some.inj (hfirst.symm.trans hfirst'))
          exact hlater
      | stray hbounds hlater =>
          have hnone : Lexeme.first? '{' (text ++ after) = none :=
            Lexeme.first?_brace hbounds
          simp [hnone] at hfirst
      | opening hfirst' hopens hlater =>
          obtain ⟨rfl, rfl⟩ := Prod.mk.inj (Option.some.inj (hfirst.symm.trans hfirst'))
          rcases hopens with rfl | rfl <;> exact absurd hneutral.not_group.1 (by decide)
      | named hfirst' hlater =>
          obtain ⟨rfl, rfl⟩ := Prod.mk.inj (Option.some.inj (hfirst.symm.trans hfirst'))
          exact absurd hneutral.not_group.1 (by decide)
      | closing hlater =>
          obtain ⟨rfl, _⟩ := Prod.mk.inj (Option.some.inj hfirst)
          exact absurd rfl hneutral.not_group.2

theorem Nested.cons (hafter : Nested depth names after) (hc : standsAlone c = true) :
    Nested depth names (c :: after) := by
  by_cases hbrace : c = '{'
  · subst hbrace
    cases hbounds : Lexeme.boundsLength? after with
    | none => exact .stray hbounds hafter
    | some length =>
        refine .neutral (Lexeme.first?_bounds_of_some hbounds) rfl (by decide) ?_
        obtain ⟨bounds, behind, rfl, rfl, hsingle⟩ := Lexeme.exists_of_boundsLength? hbounds
        rw [List.drop_succ_cons, List.drop_left]
        exact hafter.of_single hsingle
  · obtain ⟨lexeme, hfirst, hneutral⟩ := Lexeme.isSingle_of_standsAlone hc hbrace after
    exact .neutral hfirst hneutral.not_group.1 hneutral.not_group.2 hafter

/-- Characters that stand alone in front change nothing about groups. -/
theorem Nested.append (hafter : Nested depth names after)
    (htext : ∀ c ∈ text, standsAlone c = true) : Nested depth names (text ++ after) := by
  induction text with
  | nil => exact hafter
  | cons c text ih =>
      rw [List.forall_mem_cons] at htext
      exact (ih htext.2).cons htext.1

end Nested

/-! ## Pieces -/

theorem groupName_named {sign name : Text}
    (hsign : sign = ['?', '<'] ∨ sign = ['?', 'P', '<']) :
    Note.groupName ('(' :: (sign ++ name ++ ['>'])) = name := by
  rcases hsign with rfl | rfl <;> simp [Note.groupName]

def namesAmong (features : List Feature) : List Text :=
  (features.filterMap Feature.group?).filterMap (·.2)

theorem namesAmong_append (left right : List Feature) :
    namesAmong (left ++ right) = namesAmong left ++ namesAmong right := by
  simp only [namesAmong, List.filterMap_append]

theorem namesAmong_queries (queries : List Pattern.PropertyQuery) :
    namesAmong (queries.map .query) = [] := by
  have hnone : (queries.map Feature.query).filterMap Feature.group? = [] := by
    simp [Feature.group?]
  rw [namesAmong, hnone, List.filterMap_nil]

def classInside (pattern : Text) (span : Pattern.Span) : Text :=
  slice pattern (span.start + 1) (span.stop - 1)

theorem classInside_bracketed (before inside after : Text) :
    classInside (before ++ ('[' :: (inside ++ [']']) ++ after))
      ⟨before.length, before.length + (inside.length + 2)⟩ = inside := by
  have hlength : before.length + (inside.length + 2) - 1 - (before.length + 1) =
      inside.length := by omega
  rw [classInside, slice]
  simp only [hlength, List.drop_length_add_append]
  simp

/-- The pieces of a pattern without nested classes are groups and what is in
them. -/
theorem nested_of_piece {level next : Level} {names : List Text}
    {before text after : Text} {features : List Feature}
    (hpiece : Piece before.length level text after features next)
    (hflat : ∀ span, .bracketed span ∈ features →
      IsFlat (classInside (before ++ (text ++ after)) span))
    (hafter : Nested next.depth names after) :
    Nested level.depth (namesAmong features ++ names) (text ++ after) := by
  cases hpiece with
  | plain htext => exact hafter.append htext
  | escape queries hlegible =>
      rw [namesAmong_queries]
      exact .neutral (Lexeme.first?_escape _ _) rfl (by decide)
        (hafter.append hlegible.standsAlone)
  | @bracketed inside _ queries hpaired hclosing =>
      have hinside := hflat _ List.mem_cons_self
      rw [classInside_bracketed] at hinside
      have hlength := Lexeme.classLength?_append ⟨hpaired, hclosing hinside⟩ after
      have hnames : namesAmong (.bracketed ⟨before.length, before.length +
          (inside.length + 2)⟩ :: queries.map .query) = [] := namesAmong_queries queries
      rw [hnames, List.cons_append, List.append_assoc, List.singleton_append]
      refine .neutral (Lexeme.first?_class hlength) rfl (by decide) ?_
      rw [List.drop_succ_cons, List.drop_length_add_append]
      exact hafter
  | numbered hmark =>
      exact .opening (Lexeme.first?_unmarked hmark) (Or.inr rfl) hafter
  | @named sign name _ hsign hname =>
      have hsplit : '(' :: (sign ++ name ++ ['>']) ++ after =
          '(' :: (sign ++ name ++ '>' :: after) := by simp
      have htext : ('(' :: (sign ++ name ++ '>' :: after)).take
          ((sign ++ name).length + 2) = '(' :: (sign ++ name ++ ['>']) := by
        rw [List.take_succ_cons, List.take_length_add_append]
        rfl
      have hinside : Nested (level.depth + 1) names
          (('(' :: (sign ++ name ++ '>' :: after)).drop ((sign ++ name).length + 2)) := by
        rw [List.drop_succ_cons, List.drop_length_add_append]
        exact hafter
      have hnested := Nested.named (Lexeme.first?_named hsign hname after) hinside
      rw [htext, groupName_named hsign] at hnested
      rw [hsplit]
      exact hnested
  | @setFlags letters _ items hletters =>
      have hinside : Nested (level.depth + 1) names ('?' :: (letters ++ ')' :: after)) :=
        (hafter.closing.append fun c hc =>
          Pattern.standsAlone_of_isFlagLetter (hletters c hc)).cons (by decide)
      have hsplit : '(' :: '?' :: (letters ++ [')']) ++ after =
          '(' :: '?' :: (letters ++ ')' :: after) := by simp
      rw [hsplit]
      cases letters with
      | nil => exact .opening (Lexeme.first?_flags (by decide) after) (Or.inr rfl) hinside
      | cons c letters =>
          have hc := Lexeme.ne_of_isFlagLetter (hletters c List.mem_cons_self)
          exact .opening (Lexeme.first?_flags hc _) (Or.inr rfl) hinside
  | @grouping letters _ items hletters =>
      have hsplit : '(' :: '?' :: (letters ++ [':']) ++ after =
          '(' :: '?' :: (letters ++ ':' :: after) := by simp
      rw [hsplit]
      cases letters with
      | nil =>
          have hfirst : Lexeme.first? '(' ('?' :: ':' :: after) =
              some (.nonCapturingOpen, 3) := rfl
          exact .opening hfirst (Or.inl rfl) hafter
      | cons c letters =>
          have hc := Lexeme.ne_of_isFlagLetter (hletters c List.mem_cons_self)
          refine .opening (Lexeme.first?_flags hc _) (Or.inr rfl) ?_
          exact ((hafter.cons (c := ':') (by decide)).append fun c hc =>
            Pattern.standsAlone_of_isFlagLetter (hletters c hc)).cons (c := '?') (by decide)
  | close hlevel =>
      subst hlevel
      exact .closing hafter

/-- Where the classes of a pattern are flat, its pieces are groups and what is in
them. -/
theorem nested_of_accepted {pos : Nat} {level : Level} {text before : Text}
    {features : List Feature} (haccepted : Accepted pos level text features)
    (hpos : before.length = pos)
    (hflat : ∀ span, .bracketed span ∈ features →
      IsFlat (classInside (before ++ text) span)) :
    Nested level.depth (namesAmong features) text := by
  induction haccepted generalizing before with
  | done pos captures => exact .nil
  | @piece pos level next text after features later hpiece hafter ih =>
      subst hpos
      have hlater : Nested next.depth (namesAmong later) after := by
        have hlength : (before ++ text).length = before.length + text.length :=
          List.length_append
        refine ih hlength fun span hspan => ?_
        rw [List.append_assoc]
        exact hflat span (List.mem_append_right _ hspan)
      rw [namesAmong_append]
      exact nested_of_piece hpiece
        (fun span hspan => hflat span (List.mem_append_left _ hspan)) hlater

/-! ## Patterns -/

/-- No class of the pattern has another one inside, and none begins with a closing
bracket. -/
def HasFlatClasses (pattern : Text) : Prop :=
  ∀ tree span, Tree.read pattern = .ok tree → .bracketed span ∈ tree.features →
    IsFlat (classInside pattern span)

theorem hasFlatClasses_of_map {pattern : Text} {features : List Feature}
    (hfeatures : (Tree.read pattern).map Tree.features = .ok features)
    (hflat : ∀ span, .bracketed span ∈ features → IsFlat (classInside pattern span)) :
    HasFlatClasses pattern := by
  intro tree span htree hspan
  rw [features_of_map hfeatures htree] at hspan
  exact hflat span hspan

/-- The notes of a breakdown name the named groups of the pattern in the order in
which they open, and those that are not in a part repeated zero times are the
names that can be captured.  The tokens open as many groups as they close, and
never close one that is not open. -/
theorem brackets_of_compile {pattern : Text} {flags : Flags} {sizeLimit : Nat}
    {program : Machine.Program} (hcompile : compile pattern flags sizeLimit = .ok program)
    (hverbose : ¬ TurnsOnVerbose pattern) (hflat : HasFlatClasses pattern) :
    (∃ tree, Tree.read pattern = .ok tree ∧
      namedNotes (tokenize pattern) =
        (tree.groups.filterMap (·.2)).map (fun name => some (namedNote name)) ∧
      program.groups = tree.keptGroups ∧
      (tree.keepsAll = true → namedNotes (tokenize pattern) =
        (program.groups.filterMap (·.2)).map fun name => some (namedNote name))) ∧
    (tokenize pattern).countP Token.opensGroup =
      (tokenize pattern).countP Token.closesGroup ∧
    ∀ early, early <+: tokenize pattern →
      early.countP Token.closesGroup ≤ early.countP Token.opensGroup := by
  obtain ⟨expr, hread, _, rfl⟩ := Matching.compile_eq_ok hcompile
  obtain ⟨tree, after, htree, hmeaning, haccepted⟩ := accepted_of_expr hverbose hread
  have hkept := Pattern.captures_of_accepted haccepted hmeaning
  have hinsides : ∀ span, .bracketed span ∈ tree.features →
      IsFlat (classInside ([] ++ pattern) span) :=
    fun span hspan => hflat tree span htree hspan
  have hbalanced := (nested_of_accepted haccepted List.length_nil hinsides).balanced 0
  refine ⟨⟨tree, htree, hbalanced.namedNotes_eq, hkept, fun hkeeps => ?_⟩,
    hbalanced.count_eq, fun early hearly => hbalanced.count_prefix_le hearly⟩
  rw [Machine.Program.ofExpr, hkept, Tree.keptGroups_eq hkeeps]
  exact hbalanced.namedNotes_eq

/-- A named group, and a class with a parenthesis that opens no group. -/
theorem brackets_of_compile_class :
    let tokens := tokenize "(?<a>)[(]".toList
    namedNotes tokens = [some (namedNote ['a'])] ∧
    tokens.countP Token.opensGroup = tokens.countP Token.closesGroup ∧
    ∀ early, early <+: tokens →
      early.countP Token.closesGroup ≤ early.countP Token.opensGroup := by
  have hname : Pattern.GroupReading.isName ['a'] = true := by decide +kernel
  have hclass : Pattern.Reading.atom false 6 '[' ("(]".toList ++ []) =
      .ok (.bracketed ⟨6, 9⟩ false (.literal ⟨⟨7, 8⟩, '(', false⟩), 9) := by
    calc
      _ = Pattern.ClassReading.inside false (.start 6 false 7) [] 7 "(]".toList :=
        Pattern.ClassReading.read_plain (by decide)
      _ = _ := Pattern.ClassReading.inside_literal (by decide) (by decide) (.inl (by decide))
      _ = _ := Pattern.ClassReading.inside_bracket _ 8 []
  have htree : Tree.read "(?<a>)[(]".toList = .ok (.concat ⟨0, 9⟩
      [.group ⟨0, 6⟩ (.capture 1 (some ['a'])) (.nothing ⟨5, 5⟩),
      .bracketed ⟨6, 9⟩ false (.literal ⟨⟨7, 8⟩, '(', false⟩)]) := by
    have hwhole := calc
      State.initial.read 0 "(?<a>)[(]".toList
      _ = _ := State.read_named rfl 0 ")[(]".toList hname List.not_mem_nil
      _ = _ := State.read_close rfl rfl 5 "[(]".toList
      _ = _ := State.read_atom rfl rfl hclass
      _ = _ := State.read_nil rfl 9
    rw [Tree.read, hwhole]
    rfl
  have hread : Pattern.Expr.read ({} : Flags).modes "(?<a>)[(]".toList =
      .ok (.seq (.capture 1 (some ['a']) .empty) (.set (.single '('))) := by
    rw [Pattern.Expr.read, htree]
    rfl
  have hsize : Machine.exceeds ({} : Matching.Budget).sizeLimit
      (.seq (.capture 1 (some ['a']) .empty) (.set (.single '('))) = false := by
    apply Matching.exceeds_of_bytes_le <;>
      simp only [Footprint.ofExpr, Footprint.addExpr, Footprint.addSet,
        CharSet.single?_single (c := '(') (by decide) (by decide)] <;>
      decide
  have hfeatures : (Tree.read "(?<a>)[(]".toList).map Tree.features =
      .ok [.group 1 (some ['a']), .bracketed ⟨6, 9⟩] := by
    rw [htree]
    rfl
  have hflat : HasFlatClasses "(?<a>)[(]".toList := by
    refine hasFlatClasses_of_map hfeatures fun span hspan => ?_
    obtain rfl : span = ⟨6, 9⟩ := by simpa using hspan
    decide
  obtain ⟨⟨tree, htree, hnotes, _⟩, hbrackets⟩ :=
    brackets_of_compile (Matching.compile_of_read hread hsize)
      (not_turnsOnVerbose hfeatures (by simp)) hflat
  refine ⟨?_, hbrackets⟩
  rw [hnotes, Tree.groups, features_of_map hfeatures htree]
  rfl

/-- A group in a part that is repeated zero times is named in the notes, but
cannot be captured. -/
theorem namedNotes_ne_of_dropped_group :
    let pattern := "(?<a>x)\x7b0\x7d".toList
    ∃ program, compile pattern {} ({} : Matching.Budget).sizeLimit = .ok program ∧
      ¬ TurnsOnVerbose pattern ∧ HasFlatClasses pattern ∧
      namedNotes (tokenize pattern) ≠
        (program.groups.filterMap (·.2)).map fun name => some (namedNote name) := by
  have hname : Pattern.GroupReading.isName ['a'] = true := by decide +kernel
  have htree : Tree.read "(?<a>x)\x7b0\x7d".toList = .ok
      (.repetition ⟨0, 10⟩ ⟨0, some 0⟩ true (.group ⟨0, 7⟩ (.capture 1 (some ['a']))
        (Pattern.Escape.literal 5 6 'x' false))) := by
    have hwhole := calc
      State.initial.read 0 "(?<a>x)\x7b0\x7d".toList
      _ = _ := State.read_named rfl 0 "x)\x7b0\x7d".toList hname List.not_mem_nil
      _ = _ := State.read_char rfl (by decide) 5 ")\x7b0\x7d".toList
      _ = _ := State.read_close rfl rfl 6 "\x7b0\x7d".toList
      _ = _ := State.read_counted rfl 7 0 [] (by decide) (by decide) rfl
      _ = _ := State.read_nil rfl 10
    rw [Tree.read, hwhole]
    rfl
  have hread : Pattern.Expr.read ({} : Flags).modes "(?<a>x)\x7b0\x7d".toList =
      .ok .empty := by
    rw [Pattern.Expr.read, htree]
    rfl
  have hsize : Machine.exceeds ({} : Matching.Budget).sizeLimit .empty = false := by decide
  have hfeatures : (Tree.read "(?<a>x)\x7b0\x7d".toList).map Tree.features =
      .ok [.group 1 (some ['a'])] := by
    rw [htree]
    rfl
  have hfirst : Lexeme.first? '(' "?<a>x)\x7b0\x7d".toList = some (.namedGroupOpen, 5) := rfl
  have hletter : Lexeme.first? 'x' ")\x7b0\x7d".toList = some (.literal, 1) := rfl
  have hbounds : Lexeme.first? '{' "0\x7d".toList = some (.quantifier, 3) := rfl
  have hend : Nested 0 [] "\x7b0\x7d".toList := .neutral hbounds rfl (by decide) .nil
  have hinside : Nested 1 [] "x)\x7b0\x7d".toList :=
    .neutral hletter rfl (by decide) hend.closing
  have hnested : Nested 0 [Note.groupName "(?<a>".toList] "(?<a>x)\x7b0\x7d".toList :=
    .named hfirst hinside
  refine ⟨_, Matching.compile_of_read hread hsize, not_turnsOnVerbose hfeatures (by simp),
    hasFlatClasses_of_map hfeatures (by simp), ?_⟩
  rw [tokenize, (hnested.balanced 0).namedNotes_eq]
  exact List.cons_ne_nil _ _

end PatternWorkbench.Breakdown
