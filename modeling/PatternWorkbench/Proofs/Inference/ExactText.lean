import PatternWorkbench.Proofs.Inference.Probe
import PatternWorkbench.Proofs.Matching.AllOrNothing

/-!
# The exact text is searched for

The fragment for an exact text finds the text and nothing else.  Its global run
reports what a plain search reports that takes the first place where the text
stands, goes on behind it, and looks at no character of a match again, even if
the text overlaps itself.
-/

namespace PatternWorkbench.Inference

open Machine (Footprint Program)
open Matching (Budget Flags Record allFrom compile completeFrom completeRecords execute
  lineAt resumeAt slice wholeName)
open Pattern (Expr)
open Unicode (CharSet)

/-! ## The plain search -/

section Search

variable (text sample : Text)

/-- The first position from `start` on at which the text stands in the sample. -/
def firstFrom? (start : Nat) : Option Nat :=
  (List.range' start (sample.length + 1 - start)).find? fun position =>
    text.isPrefixOf (sample.drop position)

variable {text sample} {start position : Nat}

/-- The first position is one where the text stands, and it stands at none before. -/
theorem firstFrom?_eq_some_iff :
    firstFrom? text sample start = some position ↔
      (start ≤ position ∧ position ≤ sample.length) ∧ text <+: sample.drop position ∧
        ∀ earlier, start ≤ earlier → earlier < position → ¬text <+: sample.drop earlier := by
  have hrange : position ∈ List.range' start (sample.length + 1 - start) ↔
      start ≤ position ∧ position ≤ sample.length := by
    rw [List.mem_range'_1]
    omega
  rw [firstFrom?, List.find?_range'_eq_some, List.isPrefixOf_iff_prefix, hrange,
    and_left_comm]
  simp only [Bool.not_eq_true', ← Bool.not_eq_true, List.isPrefixOf_iff_prefix]

theorem firstFrom?_eq_none_iff :
    firstFrom? text sample start = none ↔
      ∀ position, start ≤ position → position ≤ sample.length →
        ¬text <+: sample.drop position := by
  have hrange (position : Nat) :
      position < start + (sample.length + 1 - start) ↔
        position < start ∨ position ≤ sample.length := by omega
  rw [firstFrom?, List.find?_range'_eq_none]
  simp only [Bool.not_eq_true', ← Bool.not_eq_true, List.isPrefixOf_iff_prefix]
  apply forall_congr'
  intro position
  apply forall_congr'
  intro hstart
  rw [hrange, or_iff_right (Nat.not_lt.2 hstart)]

variable (text sample)

/-- The positions of a text in the part of a sample from `start` on: the first one,
and those behind the end of what stands there. -/
def occurrencesFrom (htext : text ≠ []) (start : Nat) : List Nat :=
  match _ : firstFrom? text sample start with
  | none => []
  | some position => position :: occurrencesFrom htext (position + text.length)
termination_by sample.length + 1 - start
decreasing_by
  have hbounds := (firstFrom?_eq_some_iff.1 ‹firstFrom? text sample start = _›).1
  have hlength := List.length_pos_iff.2 htext
  omega

/-- What is reported of a text that stands at a position. -/
def occurrence (position : Nat) : Record where
  matchedText := text
  startOffset := byteLength (sample.take position)
  lineNumber := lineAt sample position
  captures := [⟨wholeName, text⟩]

end Search

/-! ## The search of the engine -/

section Engine

variable {text sample : Text}

/-- What a text is read as passes the text and saves nothing. -/
theorem course_letters_iff {start stop : Nat} {marks : Machine.Marks}
    (hstart : start ≤ sample.length) :
    (Expr.joined (letters {} text)).course sample.toArray start stop marks ↔
      text <+: sample.drop start ∧ stop = start + text.length ∧ marks = [] := by
  have hbefore : (sample.take start).length = start := List.length_take_of_le hstart
  have hbare : ∀ expr ∈ letters {} text, expr.isBare = true := isBare_letters
  have hcourse := Pattern.denotes_inOrder sample hbare (sample.take start)
    (sample.drop start) stop marks (List.take_append_drop start sample).symm
  simp only [List.length_append, hbefore] at hcourse
  rw [Expr.course_joined, hcourse]
  constructor
  · rintro ⟨hmarks, taken, after, hrest, htaken, hstop⟩
    rw [mem_languageOf_letters_iff] at htaken
    subst htaken
    exact ⟨⟨after, hrest.symm⟩, hstop, hmarks⟩
  · rintro ⟨⟨after, hrest⟩, hstop, hmarks⟩
    exact ⟨hmarks, text, after, hrest.symm, mem_languageOf_letters_iff.2 rfl, hstop⟩

/-- A word matches where it stands in the sample. -/
theorem matchesAt_letters_iff {start : Nat} (hstart : start ≤ sample.length) :
    (Expr.joined (letters {} text)).MatchesAt sample.toArray start ↔
      text <+: sample.drop start := by
  simp only [Expr.MatchesAt, course_letters_iff hstart]
  constructor
  · rintro ⟨_, _, hstands, _⟩
    exact hstands
  · intro hstands
    exact ⟨_, _, hstands, rfl, rfl⟩

/-- The engine and the plain search find the same places. -/
theorem search?_letters (text sample : Text) (start : Nat) :
    (Program.ofExpr (.joined (letters {} text))).search? sample.toArray start =
      (firstFrom? text sample start).map fun position =>
        ⟨position, position + text.length, []⟩ := by
  cases hsearch : (Program.ofExpr (.joined (letters {} text))).search? sample.toArray start with
  | none =>
      have hnone : firstFrom? text sample start = none := by
        apply firstFrom?_eq_none_iff.2
        intro position hle hsize hstands
        apply Program.search?_ofExpr_eq_none _ _ hsearch hle (by simpa using hsize)
        exact (matchesAt_letters_iff hsize).2 hstands
      rw [hnone, Option.map_none]
  | some found =>
      obtain ⟨⟨hle, hsize⟩, hcourse, hleftmost⟩ :=
        Program.search?_ofExpr_eq_some _ _ hsearch
      rw [List.size_toArray] at hsize
      obtain ⟨hstands, hstop, hmarks⟩ := (course_letters_iff hsize).1 hcourse
      have hfirst : firstFrom? text sample start = some found.start := by
        refine firstFrom?_eq_some_iff.2 ⟨⟨hle, hsize⟩, hstands, fun earlier hfrom hbefore => ?_⟩
        have hinside : earlier ≤ sample.length := by omega
        rw [← matchesAt_letters_iff hinside]
        exact hleftmost earlier hfrom hbefore
      rw [hfirst, Option.map_some, ← hstop, ← hmarks]

theorem allFrom_letters (htext : text ≠ []) (start : Nat) :
    allFrom (.ofExpr (.joined (letters {} text))) sample.toArray start =
      (occurrencesFrom text sample htext start).map fun position =>
        ⟨position, position + text.length, []⟩ := by
  fun_induction occurrencesFrom text sample htext start with
  | case1 start hnone =>
      have hsearch := search?_letters text sample start
      rw [hnone, Option.map_none] at hsearch
      rw [Matching.allFrom_of_none hsearch, List.map_nil]
  | case2 start position hfirst ih =>
      have hsearch := search?_letters text sample start
      rw [hfirst, Option.map_some] at hsearch
      have hlength := List.length_pos_iff.2 htext
      have hresume : resumeAt ⟨position, position + text.length, []⟩ =
          position + text.length := by
        rw [resumeAt, if_neg (by simpa using htext)]
      rw [Matching.allFrom_of_some hsearch, hresume, ih, List.map_cons]

theorem mem_occurrencesFrom {htext : text ≠ []} {start position : Nat}
    (hmem : position ∈ occurrencesFrom text sample htext start) :
    text <+: sample.drop position := by
  fun_induction occurrencesFrom text sample htext start with
  | case1 => exact absurd hmem List.not_mem_nil
  | case2 start first hfirst ih =>
      rcases List.mem_cons.1 hmem with rfl | hlater
      · exact (firstFrom?_eq_some_iff.1 hfirst).2.1
      · exact ih hlater

theorem ofFound_occurrence {position : Nat} (hstands : text <+: sample.drop position) :
    Record.ofFound [] sample ⟨position, position + text.length, []⟩ =
      occurrence text sample position := by
  have hslice : slice sample position (position + text.length) = text := by
    rw [slice, Nat.add_sub_cancel_left]
    exact (List.prefix_iff_eq_take.1 hstands).symm
  rw [Record.ofFound, Matching.capturesOf, hslice]
  rfl

/-- The records of a search for a text are its occurrences. -/
theorem completeRecords_letters (htext : text ≠ []) (sample : Text) :
    completeRecords (.ofExpr (.joined (letters {} text))) true sample =
      (occurrencesFrom text sample htext 0).map (occurrence text sample) := by
  have hgroups : (Program.ofExpr (.joined (letters {} text))).groups = [] :=
    Expr.captures_of_isBare (Expr.isBare_joined isBare_letters)
  rw [completeRecords, hgroups, completeFrom, if_pos rfl, allFrom_letters htext, List.map_map]
  apply List.map_congr_left
  intro position hposition
  exact ofFound_occurrence (mem_occurrencesFrom hposition)

end Engine

/-! ## The exact text -/

def everywhere : Flags :=
  { global := true }

/-- The fragment for an exact text is well formed, and with room for its matches and
some time its run reports the occurrences that a plain search finds. -/
theorem execute_exactText {text : Text} (htext : text ≠ []) :
    ∃ fragment, classifyWith? "literal".toList text = some fragment ∧
      (∀ sizeLimit pattern diagnostic, compile fragment everywhere sizeLimit ≠
        .error (.badPattern pattern diagnostic)) ∧
      ∀ (sample : Text) (budget : Budget) (program : Program), 0 < budget.timeLimitMs →
        compile fragment everywhere budget.sizeLimit = .ok program →
          execute fragment everywhere sample budget =
            if (occurrencesFrom text sample htext 0).length ≤ budget.maxMatches then
              .ok ((occurrencesFrom text sample htext 0).map (occurrence text sample))
            else .error (.overBudget (.matchCount budget.maxMatches)) := by
  have hread : Expr.read everywhere.modes (quoted text) = .ok (.joined (letters {} text)) :=
    Pattern.read_spelling (by decide)
      ((reads_quoted everywhere text).spells.spellsFrom ⟨0, []⟩)
  have hquoted : quoted text ≠ [] := by
    obtain ⟨c, rest, rfl⟩ := List.exists_cons_of_ne_nil htext
    rw [quoted, List.flatMap_cons]
    split <;> simp
  refine ⟨quoted text, rfl, not_badPattern_of_read hread, ?_⟩
  intro sample budget program htime hcompile
  obtain ⟨expr, hexpr, _, rfl⟩ := Matching.compile_eq_ok hcompile
  obtain rfl := Except.ok.inj (hexpr.symm.trans hread)
  have hglobal : everywhere.global = true := rfl
  rw [Matching.execute_of_inTime (fun _ => htime) hquoted hcompile, hglobal,
    completeRecords_letters htext, List.length_map]

/-- Of two number signs the middle one of three is the second of the first match, so
it does not begin another. -/
theorem execute_exactText_hashes :
    execute "\\#\\#".toList everywhere "###".toList {} =
      .ok [⟨"##".toList, 0, 1, [⟨wholeName, "##".toList⟩]⟩] := by
  have htext : "##".toList ≠ [] := by decide
  obtain ⟨fragment, hnamed, _, hexecute⟩ := execute_exactText htext
  obtain rfl : "\\#\\#".toList = fragment := Option.some.inj hnamed
  have hread : Expr.read everywhere.modes "\\#\\#".toList =
      .ok (.seq (.set (.single '#')) (.set (.single '#'))) :=
    Pattern.read_spelling (by decide)
      ((reads_quoted everywhere "##".toList).spells.spellsFrom ⟨0, []⟩)
  have hsize : Machine.exceeds ({} : Budget).sizeLimit
      (.seq (.set (.single '#')) (.set (.single '#'))) = false := by
    apply Matching.exceeds_of_bytes_le <;>
      simp only [Footprint.ofExpr, Footprint.addExpr, Footprint.addSet,
        CharSet.single?_single (c := '#') (by decide) (by decide)] <;>
      decide
  have hoccurrences : occurrencesFrom "##".toList "###".toList htext 0 = [0] := by cbv
  rw [hexecute "###".toList {} _ (by decide) (Matching.compile_of_read hread hsize),
    hoccurrences]
  rfl

end PatternWorkbench.Inference
