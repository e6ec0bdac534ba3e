import PatternWorkbench.Proofs.Inference.Generalization
import PatternWorkbench.Proofs.Inference.Tiles

/-!
# Inferred patterns mean their segments

A text is accepted by the pattern inferred from a sample if it can be cut into
pieces, one for each segment, and each piece is accepted by the fragment of its
segment.  Any other text has no match at all.  No fragment reaches into its
neighbours: the language of fragments side by side is the product of theirs.
-/

namespace PatternWorkbench.Inference

open Machine (Program)
open Matching (Budget Flags Record compile execute)
open Pattern (Expr Spells languageOf)
open Unicode (CharSet)

/-! ## Fragments and their expressions -/

/-- Fragments side by side are read one after the other. -/
theorem reads_flatten {flags : Flags} {fragments : List Text} {rows : List (List Expr)}
    (hrows : List.Forall₂ (Reads flags) fragments rows) :
    Reads flags fragments.flatten rows.flatten := by
  induction hrows with
  | nil => exact ⟨by simp, Spells.nil _ _, by simp⟩
  | cons hfirst _ ih => exact hfirst.append ih

/-! ## Accepted texts -/

/-- As a pattern for whole texts, and under some budget, the fragment has exactly
one match in the text, which is all of it. -/
def Accepts (flags : Flags) (fragment text : Text) : Prop :=
  ∃ budget record, execute (anchored fragment) flags text budget = .ok [record] ∧
    record.startOffset = 0 ∧ record.matchedText = text

section Accepts

variable {flags : Flags} {fragment text : Text} {exprs : List Expr}
  {budget : Budget} {program : Program}

/-- A text of the language is the only match in itself. -/
theorem Reads.execute_of_mem (hreads : Reads flags fragment exprs)
    (hmultiline : flags.multiline = false) (hallows : budget.Allows flags)
    (hcompile : compile (anchored fragment) flags budget.sizeLimit = .ok program)
    (hmem : text ∈ languageOf exprs) :
    ∃ record, execute (anchored fragment) flags text budget = .ok [record] ∧
      record.startOffset = 0 ∧ record.matchedText = text := by
  have hmatches := matchesExactly_of_mem hmultiline hreads.spells hreads.bare hmem
  exact hmatches.only budget program hallows hcompile

/-- Another text has no match. -/
theorem Reads.execute_of_not_mem (hreads : Reads flags fragment exprs)
    (hmultiline : flags.multiline = false)
    (hcompile : compile (anchored fragment) flags budget.sizeLimit = .ok program)
    (hmem : text ∉ languageOf exprs) :
    execute (anchored fragment) flags text budget = .ok [] := by
  apply Matching.execute_whole_eq_nil (by simp [anchored])
    (hreads.read_anchored hmultiline) hcompile
  rintro ⟨marks, hcourse⟩
  rw [Expr.course_joined, (Pattern.denotes_inOrder text hreads.bare).whole] at hcourse
  exact hmem hcourse.2

/-- A fragment accepts the texts of its language, and no others. -/
theorem Reads.accepts_iff (hreads : Reads flags fragment exprs)
    (hmultiline : flags.multiline = false) :
    Accepts flags fragment text ↔ text ∈ languageOf exprs := by
  constructor
  · -- A run that found the text compiled, so it would have found nothing else.
    rintro ⟨budget, record, hrun, _⟩
    by_contra hmem
    have hpattern : anchored fragment ≠ [] := by simp [anchored]
    obtain ⟨program, hcompile⟩ := Matching.exists_compile_of_execute hpattern hrun
    rw [hreads.execute_of_not_mem hmultiline hcompile hmem] at hrun
    simp at hrun
  · intro hmem
    obtain ⟨budget, program, hallows, hcompile⟩ := hreads.exists_budget hmultiline
    exact ⟨budget, hreads.execute_of_mem hmultiline hallows hcompile hmem⟩

/-- What fits a text accepts it. -/
theorem Fits.accepts (hfits : Fits flags fragment text)
    (hmultiline : flags.multiline = false) : Accepts flags fragment text := by
  obtain ⟨budget, program, hallows, hcompile⟩ := hfits.exists_budget hmultiline
  exact ⟨budget, (hfits.matchesExactly hmultiline).only budget program hallows hcompile⟩

end Accepts

/-! ## Split texts -/

/-- The text can be cut into pieces, one for each segment of the sample, so that
the fragment of each segment accepts its piece. -/
def Splits (flags : Flags) (sample text : Text) : Prop :=
  ∃ pieces : List Text, text = pieces.flatten ∧
    List.Forall₂ (Accepts flags) ((segments sample).map Segment.fragment) pieces

section Splits

variable {flags : Flags} {sample text : Text}

theorem fits_of_mem_segmentsFrom (flags : Flags) (start : Nat) (sample : Text) :
    ∀ segment ∈ segmentsFrom start sample,
      Fits flags segment.fragment segment.text := by
  fun_induction segmentsFrom start sample with
  | case1 => simp
  | case2 start c rest segment ih =>
      exact List.forall_mem_cons.2 ⟨fits_first flags start c rest, ih⟩

theorem exists_reads {segments : List Segment}
    (hfits : ∀ segment ∈ segments, Fits flags segment.fragment segment.text) :
    ∃ rows, List.Forall₂ (Reads flags) (segments.map Segment.fragment) rows := by
  induction segments with
  | nil => exact ⟨[], .nil⟩
  | cons segment later ih =>
      obtain ⟨hfirst, hlater⟩ := List.forall_mem_cons.1 hfits
      obtain ⟨exprs, hreads⟩ := hfirst.exists_reads
      obtain ⟨rows, hrows⟩ := ih hlater
      exact ⟨exprs :: rows, .cons hreads hrows⟩

theorem generalize_eq_flatten (sample : Text) :
    generalize sample = ((segments sample).map Segment.fragment).flatten := by
  rw [generalize, List.flatMap_def]

/-- Accepting piece by piece is a text of the product of the languages. -/
theorem forall₂_accepts_iff {fragments : List Text} {rows : List (List Expr)}
    (hmultiline : flags.multiline = false)
    (hrows : List.Forall₂ (Reads flags) fragments rows) (pieces : List Text) :
    List.Forall₂ (Accepts flags) fragments pieces ↔
      List.Forall₂ (fun row piece => piece ∈ languageOf row) rows pieces := by
  induction hrows generalizing pieces with
  | nil => constructor <;> (intro hpieces; cases hpieces; exact .nil)
  | cons hreads _ ih =>
      cases pieces with
      | nil => constructor <;> (intro hpieces; cases hpieces)
      | cons piece pieces =>
          rw [List.forall₂_cons, List.forall₂_cons, hreads.accepts_iff hmultiline, ih]

theorem splits_iff {rows : List (List Expr)} (hmultiline : flags.multiline = false)
    (hrows : List.Forall₂ (Reads flags) ((segments sample).map Segment.fragment) rows) :
    Splits flags sample text ↔ text ∈ languageOf rows.flatten := by
  rw [Pattern.mem_languageOf_flatten_iff]
  exact exists_congr fun pieces =>
    and_congr_right fun _ => forall₂_accepts_iff hmultiline hrows pieces

/-- A sample is split into the texts of its segments. -/
theorem splits_self (hmultiline : flags.multiline = false) (sample : Text) :
    Splits flags sample sample := by
  refine ⟨(segments sample).map Segment.text,
    (flatten_text_segmentsFrom 0 sample).symm, ?_⟩
  rw [List.forall₂_map_left_iff, List.forall₂_map_right_iff, List.forall₂_same]
  intro segment hsegment
  exact (fits_of_mem_segmentsFrom flags 0 sample segment hsegment).accepts hmultiline

/-- The pattern inferred from a sample, as a pattern for whole texts, has a text
for its only match if the text can be split among the segments, and no match in
it otherwise. -/
theorem execute_generalize {budget : Budget} {program : Program}
    (hmultiline : flags.multiline = false) (hallows : budget.Allows flags)
    (hcompile :
      compile (anchored (generalize sample)) flags budget.sizeLimit = .ok program)
    (text : Text) :
    (Splits flags sample text →
      ∃ record, execute (anchored (generalize sample)) flags text budget = .ok [record] ∧
        record.startOffset = 0 ∧ record.matchedText = text) ∧
    (¬Splits flags sample text →
      execute (anchored (generalize sample)) flags text budget = .ok []) := by
  obtain ⟨rows, hrows⟩ := exists_reads (fits_of_mem_segmentsFrom flags 0 sample)
  have hreads : Reads flags (generalize sample) rows.flatten := by
    rw [generalize_eq_flatten]
    exact reads_flatten hrows
  rw [splits_iff hmultiline hrows]
  exact ⟨hreads.execute_of_mem hmultiline hallows hcompile,
    hreads.execute_of_not_mem hmultiline hcompile⟩

/-- A quoted character accepts the characters of its set, each on its own. -/
theorem accepts_quoted_singleton_iff (hmultiline : flags.multiline = false) {c : Char} :
    Accepts flags (quoted [c]) text ↔
      ∃ d, (Pattern.charSet flags.modes c).mem d = true ∧ text = [d] := by
  have hone : languageOf (letters flags [c]) =
      (Expr.set (Pattern.charSet flags.modes c)).language := List.prod_singleton
  rw [(reads_quoted flags [c]).accepts_iff hmultiline, hone]
  rfl

/-- A text that splits begins like the sample, as far as case matters, if no rule covers
the first character. -/
theorem Splits.exists_eq_cons (hmultiline : flags.multiline = false) {c : Char} {rest : Text}
    (huncovered : Uncovered c rest) (hsplits : Splits flags (c :: rest) text) :
    ∃ d behind, (Pattern.charSet flags.modes c).mem d = true ∧ text = d :: behind := by
  obtain ⟨pieces, rfl, hpieces⟩ := hsplits
  have hfirst : Segment.first 0 c rest = ⟨none, [c], 0⟩ := by
    rw [Segment.first, coveringRule?_eq_none_iff.2 huncovered]
  rw [segments, segmentsFrom, hfirst, List.map_cons, List.forall₂_cons_left_iff] at hpieces
  obtain ⟨piece, later, haccepts, _, rfl⟩ := hpieces
  obtain ⟨d, hd, rfl⟩ := (accepts_quoted_singleton_iff hmultiline).1 haccepts
  exact ⟨d, later.flatten, hd, rfl⟩

/-- The line of a log splits like itself, and without its number sign it does not. -/
theorem execute_generalize_request :
    let flags : Flags := { global := true, caseInsensitive := true }
    let line := "#GET /a 200\n".toList
    ∃ (budget : Budget) (program : Program), budget.Allows flags ∧
      compile (anchored (generalize line)) flags budget.sizeLimit = .ok program ∧
      (∃ record, execute (anchored (generalize line)) flags line budget = .ok [record] ∧
        record.startOffset = 0 ∧ record.matchedText = line) ∧
      execute (anchored (generalize line)) flags "GET /a 200\n".toList budget = .ok [] := by
  intro flags line
  have huncovered : Uncovered '#' "GET /a 200\n".toList := by
    refine ⟨?_, ?_, by decide, by simp⟩
    · rw [Unicode.isWord, CharSet.word, CharSet.mem_ofTables]
      decide +kernel
    · rw [Unicode.isBlank_eq_has]
      decide
  have hcaseless : ∀ orbit ∈ Unicode.caseOrbits,
      orbit.any (CharSet.single '#').ranges.has = false := by
    rw [CharSet.ranges_single (by decide) (by decide)]
    decide +kernel
  have hsplits : ¬ Splits flags line "GET /a 200\n".toList := by
    intro hsplits
    obtain ⟨d, behind, hd, htext⟩ := hsplits.exists_eq_cons rfl huncovered
    obtain rfl : 'G' = d := (List.cons.inj htext).1
    rcases CharSet.mem_folded.1 hd with hsame | ⟨orbit, horbit, _, hmeets⟩
    · rw [CharSet.mem_single] at hsame
      contradiction
    · rw [hcaseless orbit horbit] at hmeets
      contradiction
  obtain ⟨budget, program, hallows, hcompile⟩ :=
    (fits_generalize flags line).exists_budget rfl
  exact ⟨budget, program, hallows, hcompile,
    (execute_generalize rfl hallows hcompile line).1 (splits_self rfl line),
    (execute_generalize rfl hallows hcompile _).2 hsplits⟩

end Splits

end PatternWorkbench.Inference
