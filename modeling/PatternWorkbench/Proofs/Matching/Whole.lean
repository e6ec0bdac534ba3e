import PatternWorkbench.Proofs.Matching.GlobalScan
import PatternWorkbench.Proofs.Pattern.Groups

/-!
# Patterns for whole texts

A body between the start and the end of the text has one match at most, and that
match is the whole sample.  The scan finds it under every flag, the global one
included, as long as it is allowed one match and some time.
-/

namespace PatternWorkbench.Matching

open Machine (Course Found Program)
open Pattern (Expr)

/-- A scan under the budget may keep one match and go on behind it. -/
structure Budget.Allows (budget : Budget) (flags : Flags) : Prop where
  oneMatch : 1 ≤ budget.maxMatches
  someTime : flags.global = true → 0 < budget.timeLimitMs

section Whole

variable {body : Expr} {chars : Array Char}

theorem before?_eq_none_iff {position : Nat} (hposition : position ≤ chars.size) :
    Machine.before? chars position = none ↔ position = 0 := by
  unfold Machine.before?
  split
  case isTrue hzero => simp [hzero]
  case isFalse hzero =>
    rw [Array.getElem?_eq_none_iff]
    omega

/-- A body between both ends runs from the one to the other. -/
theorem course_whole_iff {start stop : Nat} {marks : Machine.Marks}
    (hstart : start ≤ chars.size) :
    (Expr.whole body).course chars start stop marks ↔
      start = 0 ∧ stop = chars.size ∧ body.course chars 0 chars.size marks := by
  rw [Expr.whole, Expr.course_concat]
  simp only [List.map_cons, List.map_nil, Course.inOrder_cons, Course.inOrder_nil,
    Course.andThen_stay]
  constructor
  · rintro ⟨first, _, _, ⟨hbegin, hfirst, rfl⟩,
      ⟨last, early, _, hcourse, ⟨hend, hlast, rfl⟩, rfl⟩, rfl⟩
    subst hfirst hlast
    have hbefore : first = 0 := by
      rw [← before?_eq_none_iff hstart, ← Option.isNone_iff_eq_none]
      exact hbegin
    have hafter : chars.size ≤ stop := by
      rw [← Array.getElem?_eq_none_iff, ← Option.isNone_iff_eq_none]
      exact hend
    have hwithin := (body.course_within chars _ _ _ hcourse).2 hstart
    obtain rfl : stop = chars.size := by omega
    subst hbefore
    exact ⟨rfl, rfl, by simpa using hcourse⟩
  · rintro ⟨rfl, rfl, hcourse⟩
    have hbegin : Pattern.Look.textStart.holds (Machine.before? chars 0) chars[0]? =
        true := rfl
    have hend : Pattern.Look.textEnd.holds (Machine.before? chars chars.size)
        chars[chars.size]? = true := by
      simp [Pattern.Look.holds]
    exact ⟨0, [], marks, ⟨hbegin, rfl, rfl⟩,
      ⟨chars.size, marks, [], hcourse, ⟨hend, rfl, rfl⟩, rfl⟩, by simp⟩

/-- The groups of a body are the groups of its pattern. -/
theorem captures_whole (body : Expr) : (Expr.whole body).captures = body.captures := by
  rw [Expr.whole, Expr.captures_concat]
  simp [Expr.captures]

/-- Behind a match of a whole text there is no other. -/
theorem search?_whole_eq_none (body : Expr) (chars : Array Char) {position : Nat}
    (hposition : 0 < position) :
    (Program.ofExpr (.whole body)).search? chars position = none := by
  cases hsearch : (Program.ofExpr (.whole body)).search? chars position with
  | none => rfl
  | some found =>
      obtain ⟨⟨hle, hsize⟩, hcourse, _⟩ :=
        Program.search?_ofExpr_eq_some (.whole body) chars hsearch
      have := ((course_whole_iff hsize).1 hcourse).1
      omega

/-- The only match of a body that can pass the whole sample. -/
theorem exists_search?_whole {marks : Machine.Marks}
    (hbody : body.course chars 0 chars.size marks) :
    ∃ found, (Program.ofExpr (.whole body)).search? chars 0 = some found ∧
      found.start = 0 ∧ found.stop = chars.size ∧
      body.course chars 0 chars.size found.marks := by
  cases hsearch : (Program.ofExpr (.whole body)).search? chars 0 with
  | none =>
      have hnone := Program.search?_ofExpr_eq_none (.whole body) chars hsearch
        (Nat.le_refl 0) (Nat.zero_le _)
      exact absurd ⟨_, _, (course_whole_iff (Nat.zero_le _)).2 ⟨rfl, rfl, hbody⟩⟩ hnone
  | some found =>
      obtain ⟨⟨_, hsize⟩, hcourse, _⟩ :=
        Program.search?_ofExpr_eq_some (.whole body) chars hsearch
      obtain ⟨hstart, hstop, hinner⟩ := (course_whole_iff hsize).1 hcourse
      exact ⟨found, rfl, hstart, hstop, hinner⟩

end Whole

/-- A pattern for whole texts finds the whole sample and nothing else. -/
theorem execute_whole {pattern : Text} {flags : Flags} {sample : Text}
    {budget : Budget} {program : Program} {body : Expr} {marks : Machine.Marks}
    (hallows : budget.Allows flags) (hpattern : pattern ≠ [])
    (hread : Expr.read flags.modes pattern = .ok (.whole body))
    (hcompile : compile pattern flags budget.sizeLimit = .ok program)
    (hbody : body.course sample.toArray 0 sample.length marks) :
    ∃ found, found.start = 0 ∧ found.stop = sample.length ∧
      body.course sample.toArray 0 sample.length found.marks ∧
      execute pattern flags sample budget =
        .ok [Record.ofFound body.captures sample found] := by
  obtain ⟨expr, hexpr, _, rfl⟩ := compile_eq_ok hcompile
  obtain rfl := Except.ok.inj (hexpr.symm.trans hread)
  rw [← List.size_toArray] at hbody
  obtain ⟨found, hsearch, hstart, hstop, hinner⟩ := exists_search?_whole hbody
  rw [List.size_toArray] at hstop hinner
  have hscan : scanFrom budget flags.global (.ofExpr (.whole body)) sample.toArray 0 0 =
      .ok [found] := by
    have hcount : 0 ≠ budget.maxMatches := by
      have := hallows.oneMatch
      omega
    rw [scanFrom_of_some hsearch, if_neg hcount]
    cases hglobal : flags.global with
    | false => rfl
    | true =>
        have htime := hallows.someTime hglobal
        have hbehind := search?_whole_eq_none body sample.toArray
          (Nat.zero_lt_of_lt (lt_resumeAt hsearch))
        rw [if_neg (by simp), if_neg (by omega), scanFrom_of_none hbehind]
        rfl
  refine ⟨found, hstart, hstop, hinner, ?_⟩
  rw [execute_eq_scan hpattern hcompile, scan, hscan, ← captures_whole]
  rfl

/-- Where the body does not run through the sample, there is no match. -/
theorem execute_whole_eq_nil {pattern : Text} {flags : Flags} {sample : Text}
    {budget : Budget} {program : Program} {body : Expr} (hpattern : pattern ≠ [])
    (hread : Expr.read flags.modes pattern = .ok (.whole body))
    (hcompile : compile pattern flags budget.sizeLimit = .ok program)
    (hbody : ¬ ∃ marks, body.course sample.toArray 0 sample.length marks) :
    execute pattern flags sample budget = .ok [] := by
  obtain ⟨expr, hexpr, _, rfl⟩ := compile_eq_ok hcompile
  obtain rfl := Except.ok.inj (hexpr.symm.trans hread)
  have hnone : (Program.ofExpr (.whole body)).search? sample.toArray 0 = none := by
    cases hsearch : (Program.ofExpr (.whole body)).search? sample.toArray 0 with
    | none => rfl
    | some found =>
        obtain ⟨⟨_, hsize⟩, hcourse, _⟩ :=
          Program.search?_ofExpr_eq_some (.whole body) sample.toArray hsearch
        have hinner := ((course_whole_iff hsize).1 hcourse).2.2
        rw [List.size_toArray] at hinner
        exact absurd ⟨_, hinner⟩ hbody
  rw [execute_eq_scan hpattern hcompile, scan, scanFrom_of_none hnone]
  rfl

end PatternWorkbench.Matching
