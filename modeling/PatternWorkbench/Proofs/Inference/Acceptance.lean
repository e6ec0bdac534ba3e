import PatternWorkbench.Proofs.Inference.Pieces
import PatternWorkbench.Proofs.Inference.Probe
import PatternWorkbench.Proofs.Inference.Selection

/-!
# What entries accept

A shape of the catalogue accepts the texts that its fragment, as a pattern for
whole texts, matches as a whole, and no others.  The fragment that an entry gives
for a text it accepts has the text for its only match, under all flags for which
a text is one line.
-/

namespace PatternWorkbench.Inference

open Machine (Course)
open Matching (Budget Flags execute)
open Pattern (Expr languageOf)

/-! ## Shapes and their fragments -/

def entryShapes : List Shape :=
  [.ipv4, .statusCode, .httpMethod, .path, .time, .manyOf .decimal, .manyOf .word,
    .manyOf .nonBlank, .manyOf .any] ++ dateShapes

/-- The shapes of entries take no more than they should. -/
theorem isPlain_of_mem_entryShapes {shape : Shape} (hshape : shape ∈ entryShapes) :
    shape.IsPlain := by
  have hday {low high : Nat} {runs : List Run} :
      (⟨.decimal, .between low high⟩ : Run).EndsBefore (.one (.exact '/') :: runs) :=
    Or.inr ⟨Nat.le_refl 1, fun _ hc => Kind.not_holds_of_isDecimal (by decide) hc⟩
  have hmany (kind : Kind) : (Shape.manyOf kind).IsPlain := ⟨trivial, trivial⟩
  simp only [entryShapes, dateShapes, List.cons_append, List.nil_append, List.mem_cons,
    List.not_mem_nil, or_false] at hshape
  rcases hshape with rfl | rfl | rfl | rfl | rfl | rfl | rfl | rfl | rfl | rfl | rfl | rfl
  · exact Rule.isPlain_shape .ipv4
  · exact Rule.isPlain_shape .status
  · exact Rule.isPlain_shape .method
  · exact Rule.isPlain_shape .path
  · exact Rule.isPlain_shape .time
  · exact hmany .decimal
  · exact hmany .word
  · exact hmany .nonBlank
  · exact hmany .any
  · exact Rule.isPlain_shape .date
  · exact Rule.isPlain_shape .isoDate
  · exact ⟨hday, Or.inl rfl, hday, Or.inl rfl, trivial, trivial⟩

/-- Without flags the fragment of a shape is read as the texts of the shape. -/
theorem Shape.mem_languageOf_exprs_iff {shape : Shape} {text : Text}
    (hlegible : shape.isLegible = true) (hne : shape ≠ .oneOf []) :
    text ∈ languageOf (shape.exprs {}) ↔ shape.Passes text := by
  have hbare := (Shape.reads {} hlegible hne).bare
  calc text ∈ languageOf (shape.exprs {})
    _ ↔ Course.inOrder ((shape.exprs {}).map (Expr.course text.toArray))
          0 text.length [] := by
        rw [(Pattern.denotes_inOrder text hbare).whole, and_iff_right rfl]
    _ ↔ shape.Passes text := by
        rw [(Shape.denotes text hlegible).whole, and_iff_right rfl]
        rfl

/-- A shape accepts the texts that its fragment matches as a whole, and no others. -/
theorem accepts_iff_of_mem_entryShapes {shape : Shape} (hshape : shape ∈ entryShapes)
    (text : Text) : shape.accepts text = true ↔ Accepts {} shape.fragment text := by
  have htable : ∀ shape ∈ entryShapes, shape.isLegible = true ∧ shape ≠ .oneOf [] := by
    decide
  obtain ⟨hlegible, hne⟩ := htable shape hshape
  calc shape.accepts text = true
    _ ↔ shape.Passes text := Shape.accepts_iff (isPlain_of_mem_entryShapes hshape)
    _ ↔ text ∈ languageOf (shape.exprs {}) :=
        (Shape.mem_languageOf_exprs_iff hlegible hne).symm
    _ ↔ Accepts {} shape.fragment text := ((Shape.reads {} hlegible hne).accepts_iff rfl).symm

/-! ## Entries and their fragments -/

theorem named?_id (entry : Entry) : named? entry.id.toList = some entry := by
  cases entry <;> rfl

/-- The fragment that an entry gives for a text it accepts, asked for by name or not,
has the text for its only match. -/
theorem entry_matchesExactly {flags : Flags} (hmultiline : flags.multiline = false)
    {entry : Entry} {text : Text} (haccepts : entry.accepts text = true) :
    MatchesExactly flags (entry.fragment text) text ∧
      Accepts flags (entry.fragment text) text ∧
        classifyWith? entry.id.toList text = some (entry.fragment text) := by
  have hfits := fits_entry flags haccepts
  refine ⟨hfits.matchesExactly hmultiline, hfits.accepts hmultiline, ?_⟩
  rw [classifyWith?, named?_id, Option.map_some]

/-- The name of a method and a line of a log, ignoring case. -/
theorem entry_matchesExactly_request :
    let flags : Flags := { caseInsensitive := true, dotAll := true }
    let line := "GET /a 200\n".toList
    (classifyWith? "method".toList "GET".toList = some (Entry.method.fragment "GET".toList) ∧
      MatchesExactly flags (Entry.method.fragment "GET".toList) "GET".toList ∧
      Accepts flags (Entry.method.fragment "GET".toList) "GET".toList) ∧
    classifyWith? "literal".toList line = some (quoted line) ∧
      MatchesExactly flags (quoted line) line ∧ Accepts flags (quoted line) line := by
  intro flags line
  obtain ⟨hmethod, hget, hnamed⟩ :=
    @entry_matchesExactly flags rfl .method "GET".toList (by decide)
  obtain ⟨hliteral, hline, hexact⟩ :=
    @entry_matchesExactly flags rfl .literal line (by decide)
  exact ⟨⟨hnamed, hmethod, hget⟩, hexact, hliteral, hline⟩

end PatternWorkbench.Inference
