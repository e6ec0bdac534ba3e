import Mathlib.Algebra.GroupWithZero.Nat
import PatternWorkbench.Proofs.Breakdown.Notes
import PatternWorkbench.Proofs.Report.Listing
import PatternWorkbench.Proofs.Report.Trimming

/-!
# Rows of tokens

The text of a token and its note are shown as they are, so a token has a line of
its own unless its text has line feeds.  They are shown with the text and once more
with the note, where those at the very end are trimmed.  A literal line feed is
trimmed as well.
-/

namespace PatternWorkbench.Breakdown

open Unicode (isBlank)

/-! ## Characters of notes -/

theorem head?_escape (c : Char) : (Note.escape c).head?.any Char.isAlphanum = true := by
  unfold Note.escape
  split
  case h_1 phrase hknown => exact (letterOf?_of_knownEscape? hknown).2.1
  case h_2 => split <;> rfl

theorem feed_notMem_escape {c : Char} (hc : c ≠ '\n') : '\n' ∉ Note.escape c := by
  unfold Note.escape
  split
  case h_1 phrase hknown => exact (letterOf?_of_knownEscape? hknown).2.2.2
  case h_2 => split <;> simp [Ne.symm hc]

theorem head?_characterClass (inside : Text) :
    (Note.characterClass inside).head?.any Char.isAlphanum = true := by
  unfold Note.characterClass
  split <;> simp

theorem feed_notMem_characterClass {inside : Text} (hinside : '\n' ∉ inside) :
    '\n' ∉ Note.characterClass inside := by
  unfold Note.characterClass
  split
  case h_1 excluded =>
    rw [List.mem_cons, not_or] at hinside
    simp [hinside.2]
  case h_2 => simp [hinside]

namespace TellsBounds

variable {inside note : Text}

theorem head?_note (htells : TellsBounds inside note) :
    note.head?.any Char.isAlphanum = true := by
  cases htells with
  | exactly => simp
  | atLeast hne hlow =>
      obtain ⟨d, low, rfl⟩ := List.exists_cons_of_ne_nil hne
      have hdigit : d.isDigit = true := hlow d List.mem_cons_self
      simp [Char.isAlphanum, hdigit]
  | between => simp

theorem feed_notMem (htells : TellsBounds inside note) (hinside : '\n' ∉ inside) :
    '\n' ∉ note := by
  cases htells <;> simpa using hinside

end TellsBounds

namespace Tells

variable {kind : TokenKind} {text note : Text}

/-- A note begins with a letter or a digit. -/
theorem head?_note (htells : Tells kind text note) :
    note.head?.any Char.isAlphanum = true := by
  cases htells with
  | fixed hfixed =>
      have hheads : ∀ entry ∈ fixedNotes, entry.2.2.head?.any Char.isAlphanum = true := by
        decide
      exact hheads _ hfixed
  | named =>
      unfold namedNote
      simp
  | escape c => exact head?_escape c
  | characterClass inside => exact head?_characterClass inside
  | bounds htells => exact htells.head?_note

/-- Nothing is trimmed off the beginning of a note. -/
theorem exists_cons (htells : Tells kind text note) :
    ∃ c rest, note = c :: rest ∧ isBlank c = false := by
  obtain ⟨c, hc, halphanum⟩ := (Option.any_eq_true _ _).1 htells.head?_note
  obtain ⟨rest, rfl⟩ := List.head?_eq_some_iff.1 hc
  refine ⟨c, rest, rfl, ?_⟩
  by_contra hblank
  have hword := Unicode.isWord_of_isAlphanum halphanum
  rw [Unicode.not_isWord_of_isBlank (Bool.eq_true_of_not_eq_false hblank)] at hword
  contradiction

/-- A line feed in a note is one of the text. -/
theorem feed_notMem (htells : Tells kind text note) (htext : '\n' ∉ text) : '\n' ∉ note := by
  cases htells with
  | fixed hfixed =>
      have hnone : ∀ entry ∈ fixedNotes, '\n' ∉ entry.2.2 := by decide
      exact hnone _ hfixed
  | @named _ name =>
      have hname : '\n' ∉ name := fun hfeed => htext (by simp [hfeed])
      unfold namedNote
      simp [hname]
  | escape c => exact feed_notMem_escape fun hfeed => htext (by simp [hfeed])
  | characterClass inside => exact feed_notMem_characterClass fun hfeed => htext (by simp [hfeed])
  | bounds htells => exact htells.feed_notMem fun hfeed => htext (by simp [hfeed])

end Tells

end PatternWorkbench.Breakdown

namespace PatternWorkbench.Report

open Breakdown (Noted Tells Token TokenKind tokenize)
open Unicode (isBlank)

/-! ## A row -/

def placeOf (token : Token) : Text :=
  padLeft 4 (decimal token.start) ++ "..".toList ++ decimal token.stop

/-- What is shown between the offsets of a token and its text. -/
def headingOf (token : Token) : Text :=
  List.replicate (4 - (decimal token.stop).length) ' ' ++ [' '] ++
    padRight 18 (kindTitle token.kind) ++ [' ']

theorem tokenLine_eq (token : Token) :
    tokenLine token = trimEnd (placeOf token ++ (headingOf token ++
      (padRight 14 token.text ++ ' ' :: token.note.getD []))) := by
  unfold tokenLine placeOf headingOf
  rw [padRight.eq_1 4]
  simp only [List.append_assoc, List.cons_append, List.nil_append]

theorem feed_notMem_placeOf (token : Token) : '\n' ∉ placeOf token := by
  simp [placeOf, padLeft, feed_notMem_decimal]

theorem endsBlank_placeOf (token : Token) : endsBlank (placeOf token) = false := by
  have hne : decimal token.stop ≠ [] := Nat.toDigits_ne_nil
  rw [placeOf, endsBlank_append hne, endsBlank, List.getLast?_eq_some_getLast hne]
  exact Unicode.isBlank_of_isDigit (isDigit_of_mem_decimal (List.getLast_mem hne))

theorem feed_notMem_headingOf (token : Token) : '\n' ∉ headingOf token := by
  have htitle : '\n' ∉ kindTitle token.kind := by cases token.kind <;> decide
  simp [headingOf, padRight, htitle]

/-- What is behind something to be seen is trimmed on its own. -/
theorem trimEnd_append_cons {c : Char} (hc : isBlank c = false) (before after : Text) :
    trimEnd (before ++ c :: after) = before ++ trimEnd (c :: after) := by
  have hend : endsBlank [c] = false := by simp [endsBlank, hc]
  have hwhole : endsBlank (before ++ [c]) = false := by rw [endsBlank_concat, hc]
  calc trimEnd (before ++ c :: after)
      = trimEnd ((before ++ [c]) ++ after) := by simp
    _ = before ++ ([c] ++ trimEnd after) := by
      rw [trimEnd_append hwhole, List.append_assoc]
    _ = before ++ trimEnd (c :: after) := by
      rw [← trimEnd_append hend, List.singleton_append]

/-- How many line feeds are shown in the row of a token. -/
def feedsShown (token : Token) : Nat :=
  token.note.elim 0 fun note => token.text.count '\n' + (trimEnd note).count '\n'

theorem count_padRight (width : Nat) (text : Text) :
    (padRight width text).count '\n' = text.count '\n' := by
  rw [padRight, List.count_append, List.count_replicate]
  simp

theorem isBlank_space : isBlank ' ' = true := by
  rw [Unicode.isBlank_eq_has]
  decide

/-- A literal is trimmed if it is blank, and a line feed is. -/
theorem feed_notMem_literal {before : Text} (hbefore : '\n' ∉ before) (c : Char) :
    '\n' ∉ trimEnd (before ++ (padRight 14 [c] ++ [' '])) := by
  by_cases hfeed : c = '\n'
  · have hblanks : ∀ d ∈ padRight 14 [c] ++ [' '], isBlank d = true := by
      intro d hd
      simp only [padRight, List.mem_append, List.mem_singleton, List.mem_replicate] at hd
      rcases hd with (rfl | ⟨_, rfl⟩) | rfl
      · rw [hfeed, Yaml.isBlank_feed]
      · exact isBlank_space
      · exact isBlank_space
    rw [trimEnd_append_of_isBlank hblanks]
    exact fun hmem => hbefore (mem_of_mem_trimEnd hmem)
  · intro hmem
    have hshown := mem_of_mem_trimEnd hmem
    simp [padRight, hbefore, Ne.symm hfeed] at hshown

/-- A text and its note are shown whole but for the blanks behind the note. -/
theorem count_noted {before : Text} (hbefore : '\n' ∉ before) {kind : TokenKind}
    {text note : Text} (htells : Tells kind text note) :
    (trimEnd (before ++ (padRight 14 text ++ ' ' :: note))).count '\n' =
      text.count '\n' + (trimEnd note).count '\n' := by
  obtain ⟨c, rest, rfl, hc⟩ := htells.exists_cons
  rw [List.append_cons, ← List.append_assoc, trimEnd_append_cons hc, List.count_append,
    List.count_append, List.count_append, List.count_eq_zero.2 hbefore, count_padRight]
  simp

/-- The row of a token breaks where a line feed is shown raw, and nowhere else. -/
theorem count_tokenLine {token : Token} (hnoted : Noted token) :
    (tokenLine token).count '\n' = feedsShown token := by
  have hbefore : '\n' ∉ placeOf token ++ headingOf token := by
    rw [List.mem_append, not_or]
    exact ⟨feed_notMem_placeOf token, feed_notMem_headingOf token⟩
  rw [tokenLine_eq, ← List.append_assoc]
  cases hnoted with
  | plain c start => exact List.count_eq_zero.2 (feed_notMem_literal hbefore c)
  | @told kind text note start htells =>
      rw [Option.getD_some, count_noted hbefore htells]
      rfl

/-- Only literals are shown without their line feeds. -/
theorem feedsShown_eq_zero_iff {token : Token} (hnoted : Noted token) :
    feedsShown token = 0 ↔ (token.kind ≠ .literal → '\n' ∉ token.text) := by
  cases hnoted with
  | plain c start => simp [feedsShown]
  | @told kind text note start htells =>
      have hkind : kind ≠ .literal := by
        cases htells with
        | fixed hfixed => exact (Tells.ne_of_mem_fixedNotes _ hfixed).1
        | _ => decide
      constructor
      · intro hzero _
        rw [feedsShown, Option.elim_some, Nat.add_eq_zero_iff] at hzero
        exact List.count_eq_zero.1 hzero.1
      · intro hnone
        have hnote := htells.feed_notMem (hnone hkind)
        rw [feedsShown, Option.elim_some, List.count_eq_zero.2 (hnone hkind), Nat.zero_add]
        exact List.count_eq_zero.2 fun hmem => hnote (mem_of_mem_trimEnd hmem)

/-- The row of a token begins with its offsets and goes on for a line more with each
line feed. -/
theorem lines_tokenLine {token : Token} (hnoted : Noted token) :
    ∃ line later, lines (tokenLine token) = line :: later ∧ placeOf token <+: line ∧
      later.length = feedsShown token := by
  have hlength := length_lines (tokenLine token)
  rw [count_tokenLine hnoted, tokenLine_eq, trimEnd_append (endsBlank_placeOf token),
    lines_append (feed_notMem_placeOf token)] at hlength
  rw [tokenLine_eq, trimEnd_append (endsBlank_placeOf token),
    lines_append (feed_notMem_placeOf token)]
  cases hlines : lines (trimEnd (headingOf token ++
      (padRight 14 token.text ++ ' ' :: token.note.getD []))) with
  | nil => exact absurd hlines (lines_ne_nil _)
  | cons line later =>
      rw [hlines, List.modifyHead_cons, List.length_cons] at hlength
      exact ⟨_, later, rfl, List.prefix_append _ _, Nat.succ.inj hlength⟩

/-! ## The listing -/

/-- Every token has one line, which begins with its offsets. -/
def IsLineEach (found : List Token) (shown : List Text) : Prop :=
  List.Forall₂ (fun token line => placeOf token <+: line) found shown

def FeedsAreLiterals (found : List Token) : Prop :=
  ∀ token ∈ found, token.kind ≠ .literal → '\n' ∉ token.text

def rowsOf (found : List Token) : List Text :=
  found.flatMap fun token => lines (tokenLine token)

section Rows

variable {found : List Token}

/-- There is one line for each token, and one more for each line feed that is shown. -/
theorem length_rowsOf (hnoted : ∀ token ∈ found, Noted token) :
    (rowsOf found).length = found.length + (found.map feedsShown).sum := by
  induction found with
  | nil => rfl
  | cons token found ih =>
      obtain ⟨htoken, hfound⟩ := List.forall_mem_cons.1 hnoted
      rw [rowsOf, List.flatMap_cons, List.length_append, length_lines, count_tokenLine htoken,
        ← rowsOf, ih hfound, List.map_cons, List.sum_cons, List.length_cons]
      omega

theorem isLineEach_rowsOf (hnoted : ∀ token ∈ found, Noted token)
    (hliterals : FeedsAreLiterals found) : IsLineEach found (rowsOf found) := by
  induction found with
  | nil => exact .nil
  | cons token found ih =>
      obtain ⟨htoken, hfound⟩ := List.forall_mem_cons.1 hnoted
      obtain ⟨hplain, hrest⟩ := List.forall_mem_cons.1 hliterals
      obtain ⟨line, later, hlines, hplace, hlength⟩ := lines_tokenLine htoken
      have hzero := (feedsShown_eq_zero_iff htoken).2 hplain
      obtain rfl : later = [] := List.length_eq_zero_iff.1 (hlength.trans hzero)
      rw [rowsOf, List.flatMap_cons, hlines]
      exact .cons hplace (ih hfound hrest)

/-- There are as many lines as tokens exactly where only literals hold line feeds. -/
theorem length_rowsOf_eq_iff (hnoted : ∀ token ∈ found, Noted token) :
    (rowsOf found).length = found.length ↔ FeedsAreLiterals found := by
  rw [length_rowsOf hnoted, Nat.add_eq_left, List.sum_eq_zero_iff_forall_eq_nat,
    List.forall_mem_map]
  exact forall₂_congr fun token htoken => feedsShown_eq_zero_iff (hnoted token htoken)

end Rows

/-- The row of a token begins with its offsets and has a line more for each line feed
that is shown.  There is one line for each token if and only if every line feed is a
literal. -/
theorem lines_tokens {pattern : Text} (hne : pattern ≠ []) :
    lines (tokens (tokenize pattern)) = rowsOf (tokenize pattern) ∧
      (∀ token ∈ tokenize pattern, ∃ line later, lines (tokenLine token) = line :: later ∧
        placeOf token <+: line ∧ later.length = feedsShown token) ∧
      ((lines (tokens (tokenize pattern))).length = (tokenize pattern).length ↔
        FeedsAreLiterals (tokenize pattern)) ∧
      (IsLineEach (tokenize pattern) (lines (tokens (tokenize pattern))) ↔
        FeedsAreLiterals (tokenize pattern)) := by
  have hnoted : ∀ token ∈ tokenize pattern, Noted token :=
    fun _ htoken => Breakdown.noted_of_mem_tokenize htoken
  have hrows : (tokenize pattern).map tokenLine ≠ [] := by
    obtain ⟨c, rest, rfl⟩ := List.exists_cons_of_ne_nil hne
    rw [tokenize, Breakdown.tokenizeFrom, List.map_cons]
    exact List.cons_ne_nil _ _
  rw [tokens, lines_joinLines hrows, List.flatMap_map, ← rowsOf]
  refine ⟨rfl, fun token htoken => lines_tokenLine (hnoted token htoken),
    length_rowsOf_eq_iff hnoted, fun heach => ?_, isLineEach_rowsOf hnoted⟩
  exact (length_rowsOf_eq_iff hnoted).1 heach.length_eq.symm

/-- A line feed in a class is shown twice, and the only token has three lines. -/
theorem lines_tokens_class :
    lines (tokens (tokenize "[a\nb]".toList)) =
        ["   0..5    CharacterClass     [a".toList, "b]          one of a".toList, ['b']] ∧
      ¬ IsLineEach (tokenize "[a\nb]".toList) (lines (tokens (tokenize "[a\nb]".toList))) := by
  have hclass : tokenize "[a\nb]".toList =
      [⟨.characterClass, "[a\nb]".toList, 0, some "one of a\nb".toList⟩] := by
    have hfirst : Breakdown.Lexeme.first? '[' "a\nb]".toList = some (.characterClass, 5) := rfl
    have hend : Breakdown.tokenizeFrom 5 [] = [] := by rw [Breakdown.tokenizeFrom]
    obtain ⟨_, rfl, htokens⟩ := Breakdown.tokenizeFrom_of_some hfirst 0
    exact htokens.trans (congrArg _ hend)
  have hend : isBlank 'b' = false := by
    rw [Unicode.isBlank_eq_has]
    decide
  have hline : tokenLine ⟨.characterClass, "[a\nb]".toList, 0, some "one of a\nb".toList⟩ =
      "   0..5    CharacterClass     [a\nb]          one of a\n".toList ++ ['b'] :=
    (congrArg trimEnd (by decide +kernel)).trans
      (trimEnd_of_endsBlank ((endsBlank_concat _ 'b').trans hend))
  have hlines : lines (tokens (tokenize "[a\nb]".toList)) =
      ["   0..5    CharacterClass     [a".toList, "b]          one of a".toList, ['b']] := by
    rw [hclass, tokens, List.map_singleton, hline, lines_eq_splitOn]
    decide +kernel
  refine ⟨hlines, fun heach => ?_⟩
  have hliterals := (lines_tokens (by decide)).2.2.2.1 heach
  rw [hclass] at hliterals
  exact hliterals _ List.mem_cons_self (by decide) (by decide)

end PatternWorkbench.Report
