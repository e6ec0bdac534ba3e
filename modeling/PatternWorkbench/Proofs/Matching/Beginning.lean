import PatternWorkbench.Proofs.Machine.Room
import PatternWorkbench.Proofs.Matching.Whole
import PatternWorkbench.Proofs.Pattern.Beginning
import PatternWorkbench.Proofs.Pattern.Preference

/-!
# What a pattern finds at the beginning

Behind the start of the text a body matches at the first position or nowhere.
Without flags a scan ends with that match, which is the one that the body
prefers.
-/

namespace PatternWorkbench.Matching

open Machine (Course Flow Footprint Program)
open Pattern (Expr)

section Search

variable {body : Expr} {chars : Array Char} {start stop : Nat} {marks : Machine.Marks}

theorem course_beginning_iff (hstart : start ≤ chars.size) :
    (Expr.beginning body).course chars start stop marks ↔
      start = 0 ∧ body.course chars 0 stop marks := by
  rw [Expr.beginning, Expr.course_concat]
  simp only [List.map_cons, List.map_nil, Course.inOrder_cons, Course.inOrder_nil,
    Course.andThen_stay]
  constructor
  · rintro ⟨middle, _, _, ⟨hbegin, hmiddle, rfl⟩, hcourse, rfl⟩
    subst middle
    have hzero : start = 0 := by
      rw [← before?_eq_none_iff hstart, ← Option.isNone_iff_eq_none]
      exact hbegin
    subst hzero
    exact ⟨rfl, by simpa using hcourse⟩
  · rintro ⟨rfl, hcourse⟩
    exact ⟨0, [], marks, ⟨rfl, rfl, rfl⟩, hcourse, by simp⟩

theorem course_of_search?_beginning {found : Machine.Found}
    (hsearch : (Program.ofExpr (.beginning body)).search? chars 0 = some found) :
    found.start = 0 ∧ body.course chars 0 found.stop found.marks := by
  obtain ⟨⟨_, hsize⟩, hcourse, _⟩ :=
    Program.search?_ofExpr_eq_some (.beginning body) chars hsearch
  exact (course_beginning_iff hsize).1 hcourse

theorem exists_search?_beginning (hbody : body.course chars 0 stop marks) :
    ∃ found, (Program.ofExpr (.beginning body)).search? chars 0 = some found := by
  cases hsearch : (Program.ofExpr (.beginning body)).search? chars 0 with
  | some found => exact ⟨found, rfl⟩
  | none =>
      have hnone := Program.search?_ofExpr_eq_none (.beginning body) chars hsearch
        (Nat.le_refl 0) (Nat.zero_le _)
      exact absurd ⟨_, _, (course_beginning_iff (Nat.zero_le _)).2 ⟨rfl, hbody⟩⟩ hnone

/-- The match is where the body's preferred course ends. -/
theorem search?_beginning_of_prefers
    (hprefers : (Flow.ofExpr body).prefers chars (fun _ => True) 0 stop marks) :
    (Program.ofExpr (.beginning body)).search? chars 0 = some ⟨0, stop, marks⟩ := by
  apply Program.search?_of_prefers _ (Nat.zero_le _)
  rw [Expr.beginning, Pattern.prefers_concat]
  refine ⟨0, [], marks, ⟨rfl, rfl, rfl⟩, ?_, by simp⟩
  rwa [Pattern.prefersInOrder_singleton]

end Search

/-- Without flags, and under some budget, the pattern has its first match at the
beginning of the text, and the match is the piece. -/
def FindsFirst (pattern text piece : Text) : Prop :=
  ∃ budget record, execute pattern {} text budget = .ok [record] ∧
    record.startOffset = 0 ∧ record.matchedText = piece

theorem findsFirst_iff {pattern text piece : Text} {body : Expr} (hpattern : pattern ≠ [])
    (hread : Expr.read ({} : Flags).modes pattern = .ok (.beginning body)) :
    FindsFirst pattern text piece ↔
      ∃ found, (Program.ofExpr (.beginning body)).search? text.toArray 0 = some found ∧
        piece = text.take found.stop := by
  constructor
  · rintro ⟨budget, record, hrun, _, rfl⟩
    obtain ⟨program, hcompile⟩ := exists_compile_of_execute hpattern hrun
    obtain ⟨expr, hexpr, _, rfl⟩ := compile_eq_ok hcompile
    obtain rfl := Except.ok.inj (hexpr.symm.trans hread)
    rw [execute_eq_scan hpattern hcompile, scan] at hrun
    cases hsearch : (Program.ofExpr (.beginning body)).search? text.toArray 0 with
    | none =>
        rw [scanFrom_of_none hsearch] at hrun
        simp at hrun
    | some found =>
        refine ⟨found, rfl, ?_⟩
        rw [scanFrom_of_some hsearch] at hrun
        by_cases hfull : 0 = budget.maxMatches
        · rw [if_pos hfull] at hrun
          contradiction
        · rw [if_neg hfull] at hrun
          obtain rfl : Record.ofFound _ text found = record := by simpa using hrun
          simp [Record.ofFound, slice, (course_of_search?_beginning hsearch).1]
  · rintro ⟨found, hsearch, rfl⟩
    obtain ⟨limit, hlimit⟩ := Footprint.exists_limit (.beginning body)
    have hsize : Machine.exceeds ({ sizeLimit := limit } : Budget).sizeLimit
        (.beginning body) = false :=
      exceeds_of_bytes_le (hlimit .forward) (hlimit .backward)
    have hstart := (course_of_search?_beginning hsearch).1
    exact ⟨{ sizeLimit := limit }, _,
      execute_of_search? hpattern rfl (by simp) hread hsize hsearch,
      by simp [Record.ofFound, hstart], by simp [Record.ofFound, slice, hstart]⟩

end PatternWorkbench.Matching
