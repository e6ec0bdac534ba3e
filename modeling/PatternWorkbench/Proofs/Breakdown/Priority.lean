import PatternWorkbench.Proofs.Breakdown.LongestMatch

/-!
# Priority of rules and longest match

A pattern can be read by trying ten rules in a fixed order at each position, or by
taking the longest lexeme there.  Both give the tokens of the breakdown.  Where
the reader of lexemes fails on a name that is half typed, the token is that of a
capturing group and reading goes on behind the parenthesis.
-/

namespace PatternWorkbench.Breakdown

/-! ## Rules -/

inductive ScanRule where
  | namedGroupOpener
  | nonCapturingOpener
  | escape
  | characterClass
  | groupDelimiter
  | quantifier
  | anchor
  | alternation
  | wildcard
  | anyCharacter
  deriving DecidableEq, Repr

namespace ScanRule

def rank : ScanRule → Nat
  | namedGroupOpener => 1
  | nonCapturingOpener => 2
  | escape => 3
  | characterClass => 4
  | groupDelimiter => 5
  | quantifier => 6
  | anchor => 7
  | alternation => 8
  | wildcard => 9
  | anyCharacter => 10

/-- What a rule takes. -/
def language : ScanRule → Language Char
  | namedGroupOpener => Lexeme.namedGroupOpen.language
  | nonCapturingOpener => Lexeme.nonCapturingOpen.language
  | escape => Lexeme.escape.language
  | characterClass => Lexeme.characterClass.language
  | groupDelimiter => Lexeme.groupOpen.language + Lexeme.groupClose.language
  | quantifier => Lexeme.quantifier.language
  | anchor => Lexeme.anchor.language
  | alternation => Lexeme.alternation.language
  | wildcard => Lexeme.wildcard.language
  | anyCharacter => oneOf fun _ => true

/-- The kind of the token that a rule takes from the beginning of a pattern.  A
class that is not closed and a backslash at the very end are errors. -/
def kind : ScanRule → Text → TokenKind
  | namedGroupOpener, _ => .namedGroupMarker
  | nonCapturingOpener, _ => .groupMarker
  | escape, _ => .escapedClass
  | characterClass, _ => .characterClass
  | groupDelimiter, _ => .groupMarker
  | quantifier, _ => .quantifier
  | anchor, _ => .anchor
  | alternation, _ => .alternation
  | wildcard, _ => .wildcard
  | anyCharacter, pattern =>
    if pattern.head? = some '[' ∨ pattern = ['\\'] then .error else .literal

/-- The rule is the first one that takes anything from the beginning of the
pattern, and the token is what it takes. -/
structure Takes (rule : ScanRule) (pattern : Text) (token : Token) : Prop where
  begins : token.text <+: pattern
  accepted : token.text ∈ rule.language
  only : ∀ text, text <+: pattern → text ∈ rule.language → text = token.text
  kind_eq : token.kind = rule.kind pattern
  earlier : ∀ other : ScanRule, other.rank < rule.rank → ∀ text, text <+: pattern →
    text ∉ other.language

end ScanRule

namespace Lexeme

def rule : Lexeme → ScanRule
  | namedGroupOpen => .namedGroupOpener
  | nonCapturingOpen => .nonCapturingOpener
  | groupOpen | groupClose => .groupDelimiter
  | escape => .escape
  | characterClass => .characterClass
  | quantifier => .quantifier
  | anchor => .anchor
  | alternation => .alternation
  | wildcard => .wildcard
  | literal => .anyCharacter

variable {c : Char} {text rest : Text} {lexeme : Lexeme} {length : Nat}

theorem mem_language_rule (hmem : text ∈ lexeme.language) :
    text ∈ lexeme.rule.language := by
  cases lexeme with
  | groupOpen => exact Or.inl hmem
  | groupClose => exact Or.inr hmem
  | literal =>
      obtain ⟨c, -, rfl⟩ := hmem
      exact ⟨c, rfl, rfl⟩
  | _ => exact hmem

/-- A lexeme at a parenthesis is taken by one of the first five rules, and it is
the parenthesis alone if it is not taken by an earlier one than the fifth. -/
theorem rank_rule_opening (hfirst : first? '(' rest = some (lexeme, length)) :
    lexeme.rule.rank ≤ 5 ∧ (lexeme.rule.rank = 5 → length = 1) := by
  have hopens := opens_groupOpener? rest
  rw [show groupOpener? rest = some (lexeme, length) from hfirst] at hopens
  cases hopens with
  | nonCapturing | named => exact ⟨by decide, fun hrank => absurd hrank (by decide)⟩
  | plain => exact ⟨Nat.le_refl 5, fun _ => rfl⟩

theorem rank_rule_le (lexeme : Lexeme) : lexeme.rule.rank ≤ 10 := by
  cases lexeme <;> decide

/-- Only literals are left to the last rule. -/
theorem eq_literal_of_rank (hrank : ¬lexeme.rule.rank < 10) : lexeme = literal := by
  cases lexeme with
  | literal => rfl
  | _ => exact absurd (by decide) hrank

theorem kind_rule {after : Text} (hmem : text ∈ lexeme.language) :
    lexeme.rule.kind (text ++ after) = .ofLexeme lexeme := by
  cases lexeme with
  | literal =>
      obtain ⟨c, hc, rfl⟩ := hmem
      have hfree : c ≠ '[' ∧ c ≠ '\\' := by
        constructor <;> rintro rfl <;> exact absurd hc (by decide)
      simp [rule, ScanRule.kind, TokenKind.ofLexeme, hfree]
  | _ => rfl

end Lexeme

namespace ScanRule

variable {c : Char} {text rest : Text} {lexeme : Lexeme} {length : Nat} {rule : ScanRule}

/-- The rules before the last one take lexemes. -/
theorem exists_lexeme (hmem : text ∈ rule.language) (hrule : rule.rank < 10) :
    ∃ lexeme : Lexeme, lexeme.rule = rule ∧ text ∈ lexeme.language := by
  cases rule with
  | namedGroupOpener => exact ⟨.namedGroupOpen, rfl, hmem⟩
  | nonCapturingOpener => exact ⟨.nonCapturingOpen, rfl, hmem⟩
  | escape => exact ⟨.escape, rfl, hmem⟩
  | characterClass => exact ⟨.characterClass, rfl, hmem⟩
  | groupDelimiter =>
      rcases hmem with hmem | hmem
      · exact ⟨.groupOpen, rfl, hmem⟩
      · exact ⟨.groupClose, rfl, hmem⟩
  | quantifier => exact ⟨.quantifier, rfl, hmem⟩
  | anchor => exact ⟨.anchor, rfl, hmem⟩
  | alternation => exact ⟨.alternation, rfl, hmem⟩
  | wildcard => exact ⟨.wildcard, rfl, hmem⟩
  | anyCharacter => exact absurd hrule (by decide)

/-- A rule before the last one takes the lexeme that is read, or a parenthesis
alone. -/
theorem first?_of_mem (hmem : text ∈ rule.language) (hrule : rule.rank < 10)
    (hbegins : text <+: c :: rest) :
    (∃ lexeme : Lexeme, lexeme.rule = rule ∧
        Lexeme.first? c rest = some (lexeme, text.length)) ∨
      (rule = .groupDelimiter ∧ text = ['('] ∧ c = '(') := by
  obtain ⟨lexeme, rfl, hlexeme⟩ := exists_lexeme hmem hrule
  rcases Lexeme.first?_or_opening hlexeme hbegins with hfirst | ⟨rfl, htext, hc⟩
  · exact Or.inl ⟨lexeme, rfl, hfirst⟩
  · exact Or.inr ⟨rfl, htext, hc⟩

/-- Beginnings of the same length are equal. -/
theorem eq_of_begins {left right pattern : Text} (hleft : left <+: pattern)
    (hright : right <+: pattern) (hlength : left.length = right.length) : left = right :=
  List.IsPrefix.eq_of_length (List.prefix_of_prefix_length_le hleft hright hlength.le) hlength

theorem length_of_mem (hfirst : Lexeme.first? c rest = some (lexeme, length))
    (hmem : text ∈ lexeme.rule.language) (hbegins : text <+: c :: rest) :
    text.length = length := by
  by_cases hrank : lexeme.rule.rank < 10
  · rcases first?_of_mem hmem hrank hbegins with ⟨other, _, hother⟩ | ⟨hrule, rfl, rfl⟩
    · rw [hfirst] at hother
      exact (Prod.mk.inj (Option.some.inj hother)).2.symm
    · exact ((Lexeme.rank_rule_opening hfirst).2 (by rw [hrule]; rfl)).symm
  · obtain rfl := Lexeme.eq_literal_of_rank hrank
    obtain ⟨_, _, _, rfl, ⟨_, _, rfl⟩⟩ := Lexeme.exists_mem_language hfirst
    obtain ⟨_, _, rfl⟩ := hmem
    rfl

/-- A lexeme is taken by its rule. -/
theorem takes_of_some (hfirst : Lexeme.first? c rest = some (lexeme, length))
    (start : Nat) : lexeme.rule.Takes (c :: rest) (Token.first start c rest) := by
  obtain ⟨text, after, hwhole, rfl, hmem, htoken⟩ := Token.exists_text_first hfirst start
  have hbegins : text <+: c :: rest := ⟨after, hwhole.symm⟩
  rw [htoken]
  exact {
    begins := hbegins
    accepted := Lexeme.mem_language_rule hmem
    only := fun other hother hmem' =>
      eq_of_begins hother hbegins (length_of_mem hfirst hmem' hother)
    kind_eq := by rw [hwhole, Lexeme.kind_rule hmem]
    earlier := fun other hrank early hearly hmem' => by
      -- An earlier rule would take the same lexeme, or a parenthesis alone, and no
      -- lexeme at a parenthesis is left to a rule behind that one.
      have hten := lexeme.rank_rule_le
      rcases first?_of_mem hmem' (by omega) hearly with ⟨kind, rfl, hkind⟩ | ⟨rfl, _, rfl⟩
      · rw [hfirst] at hkind
        obtain ⟨rfl, _⟩ := Prod.mk.inj (Option.some.inj hkind)
        exact absurd hrank (lt_irrefl _)
      · exact absurd hrank (Lexeme.rank_rule_opening hfirst).1.not_gt }

/-- Where no lexeme is read, no rule before the last one takes anything but a
parenthesis alone. -/
theorem not_mem_of_none (hfirst : Lexeme.first? c rest = none) (hrule : rule.rank < 10)
    (hopening : rule = .groupDelimiter → c ≠ '(') (hbegins : text <+: c :: rest) :
    text ∉ rule.language := by
  intro hmem
  rcases first?_of_mem hmem hrule hbegins with ⟨lexeme, _, hsome⟩ | ⟨hdelimiter, _, hc⟩
  · simp [hfirst] at hsome
  · exact hopening hdelimiter hc

theorem length_of_mem_groupDelimiter (hmem : text ∈ groupDelimiter.language) :
    text.length = 1 := by
  rcases hmem with hmem | hmem
  · rw [mem_word.1 hmem, List.length_singleton]
  · rw [mem_word.1 hmem, List.length_singleton]

/-- A parenthesis that opens nothing else is a group delimiter. -/
theorem takes_opening (hfirst : Lexeme.first? '(' rest = none) (start : Nat) :
    groupDelimiter.Takes ('(' :: rest) (Token.first start '(' rest) := by
  rw [Token.first_of_none hfirst]
  have hbegins : ['('] <+: '(' :: rest := ⟨rest, rfl⟩
  exact {
    begins := hbegins
    accepted := Or.inl rfl
    only := fun other hother hmem =>
      eq_of_begins hother hbegins (length_of_mem_groupDelimiter hmem)
    kind_eq := rfl
    earlier := fun other hrank early hearly => by
      refine not_mem_of_none hfirst (hrank.trans (by decide)) ?_ hearly
      rintro rfl
      exact absurd hrank (lt_irrefl _) }

theorem kind_stray (hfirst : Lexeme.first? c rest = none) (hc : c ≠ '(') (start : Nat) :
    (Token.stray start c rest.isEmpty).kind = anyCharacter.kind (c :: rest) := by
  unfold Token.stray
  split
  case h_1 => rfl
  case h_2 =>
    cases rest with
    | nil => rfl
    | cons d rest => simp [Lexeme.first?_escape] at hfirst
  case h_3 => contradiction
  case h_4 hclass hescape _ =>
    have hfree : c ≠ '[' ∧ c ≠ '\\' := ⟨hclass, hescape⟩
    simp [kind, hfree]

/-- A character that begins no lexeme is taken by the last rule. -/
theorem takes_stray (hfirst : Lexeme.first? c rest = none) (hc : c ≠ '(') (start : Nat) :
    anyCharacter.Takes (c :: rest) (Token.first start c rest) := by
  rw [Token.first_of_none hfirst]
  have htext := Token.text_stray start c rest.isEmpty
  have hbegins : [c] <+: c :: rest := ⟨rest, rfl⟩
  refine ⟨by rwa [htext], ?_, ?_, ?_, ?_⟩
  · rw [htext]
    exact ⟨c, rfl, rfl⟩
  · rintro other hother ⟨d, -, rfl⟩
    rw [htext]
    exact eq_of_begins hother hbegins rfl
  · rw [kind_stray hfirst hc]
  · exact fun other hrank early hearly => not_mem_of_none hfirst hrank (fun _ => hc) hearly

/-- There is always a rule that takes something, since the last one takes any character.
-/
theorem exists_takes (start : Nat) (c : Char) (rest : Text) :
    ∃ rule : ScanRule, rule.Takes (c :: rest) (Token.first start c rest) := by
  cases hfirst : Lexeme.first? c rest with
  | some found => exact ⟨_, takes_of_some hfirst start⟩
  | none =>
      by_cases hc : c = '('
      · subst hc
        exact ⟨_, takes_opening hfirst start⟩
      · exact ⟨_, takes_stray hfirst hc start⟩

end ScanRule

/-! ## Names that are half typed -/

/-- The reader of lexemes fails exactly where a name is half typed.  Then the
token is that of any capturing group, and reading goes on behind it. -/
structure Recovers (after : Text) (token : Token) (later : List Token) : Prop where
  fails_iff : Lexeme.readAll ('(' :: after) = ([], '(' :: after) ↔ Lexeme.HalfTyped after
  isPlain : Lexeme.HalfTyped after → ∀ plain,
    Lexeme.first? '(' plain = some (.groupOpen, 1) →
      token = Token.first token.start '(' plain
  goesOn : Lexeme.HalfTyped after → later = tokenizeFrom (token.start + 1) after

/-! ## Tokens of a pattern -/

structure IsScanned (pattern : Text) (token : Token) (later : List Token) : Prop where
  taken : ∃ rule : ScanRule, rule.Takes pattern token
  longest : IsLongest pattern token.text
  recovers : ∀ after, pattern = '(' :: after → Recovers after token later

theorem Lexeme.readAll_opening_iff (after : Text) :
    readAll ('(' :: after) = ([], '(' :: after) ↔ HalfTyped after := by
  rw [← first?_opening_eq_none_iff]
  constructor
  · intro hread
    cases hfirst : first? '(' after with
    | none => rfl
    | some found =>
        rw [readAll_of_some hfirst] at hread
        simp at hread
  · exact readAll_of_none

/-- At a half-typed name the reading goes on behind the parenthesis. -/
theorem recovers_first (start : Nat) (after : Text) :
    Recovers after (Token.first start '(' after)
      (tokenizeFrom (Token.first start '(' after).stop
        (('(' :: after).drop (Token.first start '(' after).text.length)) := by
  have hplain (htyped : Lexeme.HalfTyped after) :
      Token.first start '(' after = ⟨.groupMarker, ['('], start, some Note.groupOpen⟩ :=
    Token.first_of_none (Lexeme.first?_opening_eq_none_iff.2 htyped) start
  refine ⟨Lexeme.readAll_opening_iff after, fun htyped plain hfirst => ?_, fun htyped => ?_⟩
  · rw [hplain htyped, Token.first, hfirst]
    rfl
  · rw [hplain htyped]
    rfl

theorem isScanned_first (start : Nat) (c : Char) (rest : Text) :
    IsScanned (c :: rest) (Token.first start c rest)
      (tokenizeFrom (Token.first start c rest).stop
        ((c :: rest).drop (Token.first start c rest).text.length)) where
  taken := ScanRule.exists_takes start c rest
  longest := Token.isLongest_first start c rest
  recovers after hafter := by
    obtain ⟨rfl, rfl⟩ := List.cons.inj hafter
    exact recovers_first start rest

/-- What holds of the first token holds of each token in its place. -/
theorem isScanned_of_tokenizeFrom {start : Nat} {pattern : Text} {token : Token}
    {earlier later : List Token}
    (htokens : tokenizeFrom start pattern = earlier ++ token :: later) :
    ∃ before rest, pattern = before ++ rest ∧ token.start = start + byteLength before ∧
      IsScanned rest token later := by
  obtain ⟨c, rest, hpattern, rfl, rfl⟩ := exists_eq_first_of_tokenizeFrom htokens
  exact ⟨detokenize earlier, c :: rest, hpattern, Token.start_first _ c rest,
    isScanned_first _ c rest⟩

/-- Each token of a pattern is what the first rule that applies takes there, and the
longest lexeme.  Where a name is half typed the token is that of a capturing
group. -/
theorem tokenize_isScanned {pattern : Text} {token : Token} {earlier later : List Token}
    (htokens : tokenize pattern = earlier ++ token :: later) :
    ∃ before rest, pattern = before ++ rest ∧ token.start = byteLength before ∧
      IsScanned rest token later := by
  obtain ⟨before, rest, hpattern, hstart, hscanned⟩ := isScanned_of_tokenizeFrom htokens
  exact ⟨before, rest, hpattern, by rwa [Nat.zero_add] at hstart, hscanned⟩

/-- The parenthesis of a name that is half typed. -/
theorem tokenize_isScanned_halfTyped :
    let token : Token := ⟨.groupMarker, ['('], 1, some Note.groupOpen⟩
    let later := tokenizeFrom 2 "?<b".toList
    tokenize "a(?<b".toList = [⟨.literal, ['a'], 0, none⟩] ++ token :: later ∧
    ∃ before rest, "a(?<b".toList = before ++ rest ∧ 1 = byteLength before ∧
      IsScanned rest token later := by
  have hletter : Lexeme.first? 'a' "(?<b".toList = some (.literal, 1) := rfl
  have hopening : Lexeme.first? '(' "?<b".toList = none := rfl
  obtain ⟨_, rfl, hfirst⟩ := tokenizeFrom_of_some hletter 0
  have htokens : tokenize "a(?<b".toList = [⟨.literal, ['a'], 0, none⟩] ++
      ⟨.groupMarker, ['('], 1, some Note.groupOpen⟩ :: tokenizeFrom 2 "?<b".toList :=
    hfirst.trans (congrArg _ (tokenizeFrom_of_none hopening 1))
  exact ⟨htokens, tokenize_isScanned htokens⟩

end PatternWorkbench.Breakdown
