import PatternWorkbench.Inference.Segment
import PatternWorkbench.Inference.Selection
import PatternWorkbench.Proofs.Inference.Fallback
import PatternWorkbench.Proofs.Inference.Fragment
import PatternWorkbench.Proofs.Machine.Room
import PatternWorkbench.Proofs.Matching.Whole
import PatternWorkbench.Proofs.Pattern.Language

/-!
# Inferred patterns accept their samples

Every segment of a sample has a fragment that fits it: what a rule covers has
the rule's shape, and a character that no rule covers is quoted.  So the
inferred pattern, taken as a pattern for whole texts, has the sample for its
only match.
-/

namespace PatternWorkbench.Inference

open Machine (Footprint Program)
open Matching (Budget Fault Flags Record compile execute)
open Pattern (Expr)
open Pattern.Escape (isMeta)
open Unicode (CharSet)

/-! ## Segments fit -/

section Segments

variable (flags : Flags)

theorem reads_char {c : Char} {spelling : Text} (hhead : spelling.head? ≠ some '?')
    (hpart : Pattern.IsPart flags.modes 2 spelling
      (.set (Pattern.charSet flags.modes c))) :
    Reads flags spelling (letters flags [c]) where
  begins := hhead
  spells := hpart.spells.mono (by omega)
  bare := isBare_letters

theorem standsForItself_of_not_isMeta {c : Char} (hmeta : isMeta c = false) :
    Pattern.standsForItself c = true := by
  simp only [isMeta, Pattern.Escape.metaCharacters, List.contains_eq_mem, List.mem_cons,
    List.not_mem_nil, or_false, decide_eq_false_iff_not, not_or] at hmeta
  simp [Pattern.standsForItself, Pattern.Reading.beginsAtom, hmeta]

/-- A quoted text is read letter by letter. -/
theorem reads_quoted (text : Text) : Reads flags (quoted text) (letters flags text) := by
  induction text with
  | nil => exact ⟨by simp, Pattern.Spells.nil _ _, isBare_letters⟩
  | cons c text ih =>
      have hfirst : Reads flags (quoted [c]) (letters flags [c]) := by
        cases hmeta : isMeta c with
        | true =>
            have hquoted : quoted [c] = ['\\', c] := by simp [quoted, hmeta]
            rw [hquoted]
            exact reads_char flags (by simp) (Pattern.isPart_escaped rfl hmeta)
        | false =>
            have hquoted : quoted [c] = [c] := by simp [quoted, hmeta]
            have hitself := standsForItself_of_not_isMeta hmeta
            rw [hquoted]
            apply reads_char flags _ (Pattern.isPart_char rfl hitself)
            exact head?_ne_of_standsForItself (by simpa using hitself)
      have happend := hfirst.append ih
      rwa [← quoted_append] at happend

/-- A quoted text is a pattern for itself. -/
theorem fits_quoted (text : Text) : Fits flags (quoted text) text :=
  (reads_quoted flags text).fits takes_letters

theorem isLegible_shape (rule : Rule) : rule.shape.isLegible = true := by
  cases rule <;> decide

/-- What a rule covers, its fragment fits. -/
theorem fits_of_ruleCover? {rule : Rule} {text : Text} {length : Nat}
    (hcover : rule.cover? text = some length) :
    Fits flags (rule.fragment (text.take length)) (text.take length) := by
  have hpasses := Shape.passes_of_cover? (Rule.cover?_eq_some_iff.1 hcover).1
  unfold Rule.fragment
  split
  case isTrue hspace =>
    rw [hspace.2]
    exact fits_quoted flags [' ']
  case isFalse => exact Shape.fits_of_passes flags (isLegible_shape rule) hpasses

/-- The fragment of the first segment fits its text. -/
theorem fits_first (start : Nat) (c : Char) (rest : Text) :
    Fits flags (Segment.first start c rest).fragment
      (Segment.first start c rest).text := by
  unfold Segment.first
  split
  case h_1 rule length hcovered =>
    exact fits_of_ruleCover? flags (Segment.cover?_of_coveringRule? hcovered)
  case h_2 => exact fits_quoted flags [c]

/-- The fragments of all segments fit the sample. -/
theorem fits_segmentsFrom (start : Nat) (text : Text) :
    Fits flags ((segmentsFrom start text).flatMap Segment.fragment) text := by
  fun_induction segmentsFrom start text with
  | case1 => exact Fits.nil
  | case2 start c rest segment ih =>
      have hwhole : segment.text ++ (c :: rest).drop segment.text.length = c :: rest :=
        Segment.text_first_append_drop start c rest
      have happend := (fits_first flags start c rest).append ih
      rw [List.flatMap_cons]
      rwa [hwhole] at happend

/-- The pattern inferred from a sample fits the sample. -/
theorem fits_generalize (text : Text) : Fits flags (generalize text) text :=
  fits_segmentsFrom flags 0 text

end Segments

/-! ## Whole texts -/

/-- As a pattern for whole texts the fragment is well formed, and unless its size
is over the limit it has exactly one match in the sample, which is all of it. -/
structure MatchesExactly (flags : Flags) (fragment sample : Text) : Prop where
  wellFormed : ∀ sizeLimit pattern diagnostic,
    compile (anchored fragment) flags sizeLimit ≠
      .error (.badPattern pattern diagnostic)
  only : ∀ (budget : Budget) (program : Program), budget.Allows flags →
    compile (anchored fragment) flags budget.sizeLimit = .ok program →
    ∃ record, execute (anchored fragment) flags sample budget = .ok [record] ∧
      record.startOffset = 0 ∧ record.matchedText = sample

/-- A pattern that can be read is never said to be malformed. -/
theorem not_badPattern_of_read {pattern : Text} {flags : Flags} {expr : Expr}
    (hread : Expr.read flags.modes pattern = .ok expr) (sizeLimit : Nat)
    (other : Text) (diagnostic : Pattern.Diagnostic) :
    compile pattern flags sizeLimit ≠ .error (.badPattern other diagnostic) := by
  rw [compile, hread]
  dsimp only
  split <;> simp

theorem slice_whole (sample : Text) :
    Matching.slice sample 0 sample.length = sample := by
  simp [Matching.slice]

/-- A fragment whose parts run from the start to the end of a sample has the
whole sample for its only match. -/
theorem matchesExactly_of_course {flags : Flags} {fragment sample : Text}
    {exprs : List Expr} {marks : Machine.Marks}
    (hmultiline : flags.multiline = false)
    (hspells : Pattern.Spells flags.modes 5 fragment exprs)
    (hcourse : (Expr.joined exprs).course sample.toArray 0 sample.length marks) :
    MatchesExactly flags fragment sample := by
  have hread : Expr.read flags.modes (anchored fragment) =
      .ok (.whole (.joined exprs)) :=
    Pattern.read_whole hmultiline (by decide) (hspells.spellsFrom ⟨0, []⟩)
  constructor
  · exact not_badPattern_of_read hread
  · intro budget program hallows hcompile
    obtain ⟨found, hstart, hstop, _, hexecute⟩ :=
      Matching.execute_whole hallows (by simp [anchored]) hread hcompile hcourse
    refine ⟨_, hexecute, ?_, ?_⟩
    · simp [Record.ofFound, hstart]
    · rw [Record.ofFound, hstart, hstop]
      exact slice_whole sample

/-- Bare parts match exactly the texts of their language. -/
theorem matchesExactly_of_mem {flags : Flags} {fragment text : Text}
    {exprs : List Expr} (hmultiline : flags.multiline = false)
    (hspells : Pattern.Spells flags.modes 5 fragment exprs)
    (hbare : ∀ expr ∈ exprs, expr.isBare = true)
    (hmem : text ∈ Pattern.languageOf exprs) : MatchesExactly flags fragment text := by
  apply matchesExactly_of_course hmultiline hspells
  rw [Expr.course_joined, (Pattern.denotes_inOrder text hbare).whole]
  exact ⟨rfl, hmem⟩

/-- A fragment that fits a text has it as a whole for its only match. -/
theorem Fits.matchesExactly {flags : Flags} {fragment text : Text}
    (hfits : Fits flags fragment text) (hmultiline : flags.multiline = false) :
    MatchesExactly flags fragment text := by
  obtain ⟨exprs, hspells, _, htakes⟩ := hfits.takes
  apply matchesExactly_of_course hmultiline hspells
  rw [Expr.course_joined]
  simpa using htakes [] []

theorem Fits.exists_reads {flags : Flags} {fragment text : Text}
    (hfits : Fits flags fragment text) : ∃ exprs, Reads flags fragment exprs := by
  obtain ⟨exprs, hspells, hbare, _⟩ := hfits.takes
  exact ⟨exprs, hfits.begins, hspells, hbare⟩

theorem Reads.read_anchored {flags : Flags} {fragment : Text} {exprs : List Expr}
    (hreads : Reads flags fragment exprs) (hmultiline : flags.multiline = false) :
    Expr.read flags.modes (anchored fragment) = .ok (.whole (.joined exprs)) :=
  Pattern.read_whole hmultiline (by decide) (hreads.spells.spellsFrom ⟨0, []⟩)

/-- Under some budget the fragment compiles as a pattern for whole texts. -/
theorem Reads.exists_budget {flags : Flags} {fragment : Text} {exprs : List Expr}
    (hreads : Reads flags fragment exprs) (hmultiline : flags.multiline = false) :
    ∃ (budget : Budget) (program : Machine.Program), budget.Allows flags ∧
      compile (anchored fragment) flags budget.sizeLimit = .ok program := by
  obtain ⟨limit, hlimit⟩ := Machine.Footprint.exists_limit (.whole (.joined exprs))
  have hallows : ({ sizeLimit := limit } : Budget).Allows flags :=
    ⟨Nat.succ_pos _, fun _ => Nat.succ_pos _⟩
  have hcompile := Matching.compile_of_read (hreads.read_anchored hmultiline)
    (Matching.exceeds_of_bytes_le (hlimit .forward) (hlimit .backward))
  exact ⟨{ sizeLimit := limit }, _, hallows, hcompile⟩

/-- What fits a text compiles as a pattern for whole texts, under some budget. -/
theorem Fits.exists_budget {flags : Flags} {fragment text : Text}
    (hfits : Fits flags fragment text) (hmultiline : flags.multiline = false) :
    ∃ (budget : Budget) (program : Machine.Program), budget.Allows flags ∧
      compile (anchored fragment) flags budget.sizeLimit = .ok program := by
  obtain ⟨exprs, hreads⟩ := hfits.exists_reads
  exact hreads.exists_budget hmultiline

/-- Whatever the sample, the pattern inferred from it matches the whole sample
and nothing else. -/
theorem generalize_matchesExactly {flags : Flags}
    (hmultiline : flags.multiline = false) (text : Text) :
    MatchesExactly flags (generalize text) text :=
  (fits_generalize flags text).matchesExactly hmultiline

/-- A request with its status, as the line of a log, ignoring case. -/
theorem generalize_matchesExactly_request :
    let flags : Flags := { global := true, caseInsensitive := true }
    let line := "GET /a 200\n".toList
    ∃ (budget : Budget) (program : Machine.Program) (record : Record),
      budget.Allows flags ∧
      compile (anchored (generalize line)) flags budget.sizeLimit = .ok program ∧
      execute (anchored (generalize line)) flags line budget = .ok [record] ∧
      record.startOffset = 0 ∧ record.matchedText = line := by
  intro flags line
  obtain ⟨budget, program, hallows, hcompile⟩ :=
    (fits_generalize flags line).exists_budget rfl
  obtain ⟨record, hexecute⟩ :=
    (generalize_matchesExactly rfl line).only budget program hallows hcompile
  exact ⟨budget, program, record, hallows, hcompile, hexecute⟩

end PatternWorkbench.Inference
