import PatternWorkbench.Proofs.Machine.Path

/-!
# Exploration

The depth-first run marks configurations and never returns to one.  What it has
marked in vain stays closed under the moves of the program, so nothing that was
passed over can lead to acceptance, not even from a later start.  A search
therefore finds the leftmost start from which the expression has a course, and
finds nothing only if there is none.
-/

namespace PatternWorkbench.Machine

open Pattern (Expr)

variable {program : Program} {sample : Array Char}

namespace Instr

/-- Where an instruction leads does not depend on the marks made before. -/
theorem exists_mem_follow_of_eq {thread other next : Thread} {instr : Instr}
    (haddress : other.address = thread.address)
    (hposition : other.position = thread.position)
    (hnext : next ∈ instr.follow sample other) :
    ∃ twin ∈ instr.follow sample thread, twin.address = next.address ∧
      twin.position = next.position := by
  obtain ⟨address, position, marks⟩ := thread
  obtain ⟨_, _, earlier⟩ := other
  obtain rfl := haddress
  obtain rfl := hposition
  cases instr <;> simp only [follow] at hnext ⊢
  case jump => simp_all
  case take =>
    split at hnext
    case h_1 => split at hnext <;> simp_all
    case h_2 => simp at hnext
  case check => split at hnext <;> simp_all
  case split =>
    simp only [List.mem_cons, List.not_mem_nil, or_false] at hnext ⊢
    rcases hnext with rfl | rfl
    · exact ⟨_, Or.inl rfl, rfl, rfl⟩
    · exact ⟨_, Or.inr rfl, rfl, rfl⟩
  case save => simp_all
  case accept => simp at hnext

theorem position_le_size_of_mem_follow {thread next : Thread} {instr : Instr}
    (hthread : thread.position ≤ sample.size)
    (hnext : next ∈ instr.follow sample thread) :
    next.position ≤ sample.size := by
  cases instr <;> simp only [follow] at hnext
  case jump => simp_all
  case take =>
    split at hnext
    case h_1 c hc =>
      have hlt := (Array.getElem?_eq_some_iff.1 hc).1
      split at hnext
      case isTrue =>
        obtain rfl := List.mem_singleton.1 hnext
        exact hlt
      case isFalse => simp at hnext
    case h_2 => simp at hnext
  case check => split at hnext <;> simp_all
  case split =>
    simp only [List.mem_cons, List.not_mem_nil, or_false] at hnext
    rcases hnext with rfl | rfl <;> exact hthread
  case save => simp_all
  case accept => simp at hnext

end Instr

/-- A path from the thread comes to acceptance. -/
def Succeeds (program : Program) (sample : Array Char) (thread : Thread) : Prop :=
  ∃ length last, Path program sample length thread last ∧ Accepting program last

/-- No marked configuration accepts, and each move from a marked configuration
leads to a marked one, to one that waits on the stack, or out of the code. -/
structure Closed (program : Program) (sample : Array Char) (visited : Visited)
    (stack : List Thread) : Prop where
  vain : ∀ thread : Thread, visited.has thread.address thread.position = true →
    ¬ Accepting program thread
  follow : ∀ (thread next : Thread) (instr : Instr),
    visited.has thread.address thread.position = true →
    program.code[thread.address]? = some instr →
    next ∈ instr.follow sample thread →
    visited.has next.address next.position = true ∨
      (∃ waiting ∈ stack, waiting.address = next.address ∧
        waiting.position = next.position) ∨
      program.code.size ≤ next.address

namespace Closed

variable {visited : Visited} {stack : List Thread} {thread : Thread}

theorem none (count : Nat) : Closed program sample (.none count) [] where
  vain := by simp
  follow := by simp

/-- A thread that needs no exploration may be taken from the stack. -/
theorem drop (hclosed : Closed program sample visited (thread :: stack))
    (hthread : thread.address < program.code.size →
      visited.has thread.address thread.position = true) :
    Closed program sample visited stack where
  vain := hclosed.vain
  follow := by
    intro earlier next instr hmarked hinstr hnext
    rcases hclosed.follow earlier next instr hmarked hinstr hnext with
      hnext | ⟨waiting, hwaiting, haddress, hposition⟩ | hoff
    · exact Or.inl hnext
    · rcases List.mem_cons.1 hwaiting with rfl | hwaiting
      · by_cases hinside : waiting.address < program.code.size
        · rw [← haddress, ← hposition]
          exact Or.inl (hthread hinside)
        · exact Or.inr (Or.inr (by omega))
      · exact Or.inr (Or.inl ⟨waiting, hwaiting, haddress, hposition⟩)
    · exact Or.inr (Or.inr hoff)

/-- Marking the top of the stack is repaid by waiting for its moves. -/
theorem mark {instr : Instr}
    (hclosed : Closed program sample visited (thread :: stack))
    (hknown : thread.position < visited.rows.size)
    (hinstr : program.code[thread.address]? = some instr)
    (hvain : instr.accepts = false) :
    Closed program sample (visited.mark thread.address thread.position)
      (instr.follow sample thread ++ stack) where
  vain := by
    intro other hmarked
    rw [Visited.has_mark _ _ _ _ _ hknown, Bool.or_eq_true,
      decide_eq_true_eq] at hmarked
    rcases hmarked with ⟨haddress, _⟩ | hmarked
    · rintro ⟨accepted, haccepted, haccepts⟩
      rw [haddress, hinstr] at haccepted
      obtain rfl := Option.some.inj haccepted
      simp [hvain] at haccepts
    · exact hclosed.vain other hmarked
  follow := by
    intro other next accepted hmarked haccepted hnext
    simp only [Visited.has_mark _ _ _ _ _ hknown, Bool.or_eq_true,
      decide_eq_true_eq] at hmarked ⊢
    rcases hmarked with ⟨haddress, hposition⟩ | hmarked
    · rw [haddress, hinstr] at haccepted
      obtain rfl := Option.some.inj haccepted
      obtain ⟨twin, htwin, hplace⟩ :=
        Instr.exists_mem_follow_of_eq haddress hposition hnext
      exact Or.inr (Or.inl ⟨twin, List.mem_append_left _ htwin, hplace⟩)
    · rcases hclosed.follow other next accepted hmarked haccepted hnext with
        hnext | ⟨waiting, hwaiting, haddress, hposition⟩ | hoff
      · exact Or.inl (Or.inr hnext)
      · rcases List.mem_cons.1 hwaiting with rfl | hwaiting
        · exact Or.inl (Or.inl ⟨haddress.symm, hposition.symm⟩)
        · exact Or.inr (Or.inl ⟨waiting, List.mem_append_right _ hwaiting,
            haddress, hposition⟩)
      · exact Or.inr (Or.inr hoff)

/-- Nothing that was marked in vain leads to acceptance. -/
theorem not_succeeds (hclosed : Closed program sample visited [])
    (hmarked : visited.has thread.address thread.position = true) :
    ¬ Succeeds program sample thread := by
  rintro ⟨length, last, hpath, haccepting⟩
  induction hpath with
  | done thread => exact hclosed.vain thread hmarked haccepting
  | @move _ thread next last instr hinstr hnext hrest ih =>
      rcases hclosed.follow thread next instr hmarked hinstr hnext with
        hnext | ⟨_, hwaiting, _⟩ | hoff
      · exact ih hnext haccepting
      · simp at hwaiting
      · have hnone := Array.getElem?_eq_none hoff
        cases hrest with
        | done =>
            obtain ⟨_, haccepted, _⟩ := haccepting
            simp [hnone] at haccepted
        | move hinstr _ _ => simp [hnone] at hinstr

end Closed

/-- What a run finds is reached from a thread of its stack, and accepts. -/
theorem exists_path_of_explore {visited : Visited} {stack : List Thread}
    {last : Thread}
    (hfound : (explore program sample visited stack).1 = some last) :
    ∃ thread ∈ stack, ∃ length, Path program sample length thread last ∧
      Accepting program last := by
  fun_induction explore program sample visited stack with
  | case1 => simp at hfound
  | case2 visited thread stack hopen marked instr haccepts =>
      obtain rfl := Option.some.inj hfound
      exact ⟨thread, by simp, 0, .done thread, instr,
        Array.getElem?_eq_getElem hopen.1, haccepts⟩
  | case3 visited thread stack hopen marked instr haccepts ih =>
      obtain ⟨next, hnext, length, hpath, haccepting⟩ := ih hfound
      rcases List.mem_append.1 hnext with hnext | hnext
      · exact ⟨thread, by simp, length + 1,
          .move (Array.getElem?_eq_getElem hopen.1) hnext hpath, haccepting⟩
      · exact ⟨next, by simp [hnext], length, hpath, haccepting⟩
  | case4 visited thread stack hclosed ih =>
      obtain ⟨next, hnext, hpath⟩ := ih hfound
      exact ⟨next, by simp [hnext], hpath⟩

/-- A run in vain leaves a closed set that has grown by its stack. -/
theorem closed_of_explore {visited after : Visited} {stack : List Thread}
    (hsize : visited.rows.size = sample.size + 1)
    (hwithin : ∀ thread ∈ stack, thread.position ≤ sample.size)
    (hclosed : Closed program sample visited stack)
    (hvain : explore program sample visited stack = (Option.none, after)) :
    after.rows.size = sample.size + 1 ∧ Closed program sample after [] ∧
      (∀ address position, visited.has address position = true →
        after.has address position = true) ∧
      ∀ thread ∈ stack, thread.address < program.code.size →
        after.has thread.address thread.position = true := by
  fun_induction explore program sample visited stack with
  | case1 visited =>
      obtain rfl := (Prod.mk.inj hvain).2
      exact ⟨hsize, hclosed, fun _ _ => id, by simp⟩
  | case2 => simp at hvain
  | case3 visited thread stack hopen marked instr haccepts ih =>
      have hposition := hwithin thread (by simp)
      have hinstr : program.code[thread.address]? = some instr :=
        Array.getElem?_eq_getElem hopen.1
      have hmark := Visited.has_mark visited thread.address thread.position
      obtain ⟨hafter, hclosed, hgrown, hstack⟩ := ih
        (by simpa [marked] using hsize)
        (fun next hnext => by
          rcases List.mem_append.1 hnext with hnext | hnext
          · exact Instr.position_le_size_of_mem_follow hposition hnext
          · exact hwithin next (by simp [hnext]))
        (hclosed.mark hopen.2.1 hinstr (by simpa using haccepts)) hvain
      refine ⟨hafter, hclosed, fun address position hmarked => ?_,
        fun next hnext hinside => ?_⟩
      · exact hgrown _ _ (by simp [marked, hmark _ _ hopen.2.1, hmarked])
      · rcases List.mem_cons.1 hnext with rfl | hnext
        · exact hgrown _ _ (by simp [marked, hmark _ _ hopen.2.1])
        · exact hstack next (by simp [hnext]) hinside
  | case4 visited thread stack hshut ih =>
      have hposition := hwithin thread (by simp)
      have hmarked (hinside : thread.address < program.code.size) :
          visited.has thread.address thread.position = true := by
        cases hhas : visited.has thread.address thread.position with
        | true => rfl
        | false => exact absurd ⟨hinside, by omega, hhas⟩ hshut
      obtain ⟨hafter, hclosed, hgrown, hstack⟩ := ih hsize
        (fun next hnext => hwithin next (by simp [hnext]))
        (hclosed.drop hmarked) hvain
      refine ⟨hafter, hclosed, hgrown, fun next hnext hinside => ?_⟩
      rcases List.mem_cons.1 hnext with rfl | hnext
      · exact hgrown _ _ (hmarked hinside)
      · exact hstack next hnext hinside

def Thread.begin (start : Nat) : Thread := ⟨0, start, []⟩

theorem not_succeeds_of_size_le {thread : Thread}
    (hoff : program.code.size ≤ thread.address) :
    ¬ Succeeds program sample thread := by
  have hnone := Array.getElem?_eq_none hoff
  rintro ⟨_, _, hpath, haccepting⟩
  cases hpath with
  | done =>
      obtain ⟨_, haccepted, _⟩ := haccepting
      simp [hnone] at haccepted
  | move hinstr _ _ => simp [hnone] at hinstr

/-- One start tried in vain: it does not succeed, and the set stays closed. -/
theorem not_succeeds_of_explore {visited after : Visited} {start : Nat}
    (hsize : visited.rows.size = sample.size + 1) (hstart : start ≤ sample.size)
    (hclosed : Closed program sample visited [])
    (hvain : explore program sample visited [⟨0, start, []⟩] =
      (Option.none, after)) :
    after.rows.size = sample.size + 1 ∧ Closed program sample after [] ∧
      ¬ Succeeds program sample (.begin start) := by
  have hwaiting : Closed program sample visited [⟨0, start, []⟩] :=
    ⟨hclosed.vain, fun thread next instr hmarked hinstr hnext => by
      rcases hclosed.follow thread next instr hmarked hinstr hnext with
        hnext | ⟨_, hwaiting, _⟩ | hoff
      · exact Or.inl hnext
      · simp at hwaiting
      · exact Or.inr (Or.inr hoff)⟩
  obtain ⟨hafter, hclosed, _, hstack⟩ :=
    closed_of_explore hsize (by simpa using hstart) hwaiting hvain
  refine ⟨hafter, hclosed, ?_⟩
  by_cases hinside : 0 < program.code.size
  · exact hclosed.not_succeeds
      (hstack _ (List.mem_singleton.2 rfl) hinside)
  · exact not_succeeds_of_size_le (by simp only [Thread.begin]; omega)

/-- A search that ends with nothing leaves no position from which a match begins. -/
theorem searchFrom_eq_none {visited : Visited} {start : Nat}
    (hsize : visited.rows.size = sample.size + 1) (hstart : start ≤ sample.size)
    (hclosed : Closed program sample visited [])
    (hnone : searchFrom program sample visited start = Option.none)
    {position : Nat} (hle : start ≤ position) (hposition : position ≤ sample.size) :
    ¬ Succeeds program sample (.begin position) := by
  fun_induction searchFrom program sample visited start with
  | case1 => simp at hnone
  | case2 visited start after hexplored hbelow ih =>
      obtain ⟨hafter, hclosed, hvain⟩ :=
        not_succeeds_of_explore hsize hstart hclosed hexplored
      rcases Nat.eq_or_lt_of_le hle with rfl | hlt
      · exact hvain
      · exact ih hafter hbelow hclosed hnone hlt
  | case3 visited start after hexplored hend =>
      obtain rfl : start = position := by omega
      exact (not_succeeds_of_explore hsize hstart hclosed hexplored).2.2

/-- A search that finds something finds a match, and none begins further left. -/
theorem searchFrom_eq_some {visited : Visited} {start : Nat} {found : Found}
    (hsize : visited.rows.size = sample.size + 1) (hstart : start ≤ sample.size)
    (hclosed : Closed program sample visited [])
    (hfound : searchFrom program sample visited start = some found) :
    (start ≤ found.start ∧ found.start ≤ sample.size) ∧
      (∃ length last, Path program sample length (.begin found.start) last ∧
        Accepting program last ∧ last.position = found.stop ∧
        last.marks = found.marks) ∧
      ∀ position, start ≤ position → position < found.start →
        ¬ Succeeds program sample (.begin position) := by
  fun_induction searchFrom program sample visited start with
  | case1 visited start last after hexplored =>
      obtain rfl := Option.some.inj hfound
      obtain ⟨thread, hthread, length, hpath, haccepting⟩ :=
        exists_path_of_explore (congrArg Prod.fst hexplored)
      obtain rfl := List.mem_singleton.1 hthread
      exact ⟨⟨Nat.le_refl _, hstart⟩,
        ⟨length, last, hpath, haccepting, rfl, rfl⟩,
        fun position hle hlt => absurd hlt (Nat.not_lt.2 hle)⟩
  | case2 visited start after hexplored hbelow ih =>
      obtain ⟨hafter, hclosed, hvain⟩ :=
        not_succeeds_of_explore hsize hstart hclosed hexplored
      obtain ⟨⟨hle, hsample⟩, hpath, hleftmost⟩ := ih hafter hbelow hclosed hfound
      refine ⟨⟨by omega, hsample⟩, hpath, fun position hfrom hbefore => ?_⟩
      rcases Nat.eq_or_lt_of_le hfrom with rfl | hlt
      · exact hvain
      · exact hleftmost position hlt hbefore
  | case3 => simp at hfound

end PatternWorkbench.Machine

namespace PatternWorkbench

open Machine

def Pattern.Expr.MatchesAt (expr : Pattern.Expr) (sample : Array Char)
    (start : Nat) : Prop :=
  ∃ stop marks, expr.course sample start stop marks

namespace Machine.Program

variable (expr : Pattern.Expr) (sample : Array Char)

/-- The program of an expression accepts from a position exactly if the expression
matches there. -/
theorem succeeds_ofExpr_iff {start : Nat} :
    Succeeds (ofExpr expr) sample (.begin start) ↔ expr.MatchesAt sample start := by
  constructor
  · rintro ⟨length, last, hpath, haccepting⟩
    exact ⟨_, _, (exists_accepting_path_iff expr).1
      ⟨length, last, hpath, haccepting, rfl, rfl⟩⟩
  · rintro ⟨stop, marks, hcourse⟩
    obtain ⟨length, last, hpath, haccepting, _⟩ :=
      (exists_accepting_path_iff expr).2 hcourse
    exact ⟨length, last, hpath, haccepting⟩

/-- A search answers with a match of the expression, and no match starts
earlier. -/
theorem search?_ofExpr_eq_some {start : Nat} {found : Found}
    (hfound : (ofExpr expr).search? sample start = some found) :
    (start ≤ found.start ∧ found.start ≤ sample.size) ∧
      expr.course sample found.start found.stop found.marks ∧
      ∀ position, start ≤ position → position < found.start →
        ¬ expr.MatchesAt sample position := by
  unfold search? at hfound
  split at hfound
  case isTrue hstart =>
    obtain ⟨hbounds, hpath, hleftmost⟩ :=
      searchFrom_eq_some (by simp) hstart (.none _) hfound
    refine ⟨hbounds, (exists_accepting_path_iff expr).1 hpath, ?_⟩
    intro position hle hlt hmatch
    exact hleftmost position hle hlt ((succeeds_ofExpr_iff expr sample).2 hmatch)
  case isFalse => simp at hfound

/-- A search is in vain only if no match starts at its start or later. -/
theorem search?_ofExpr_eq_none {start : Nat}
    (hnone : (ofExpr expr).search? sample start = Option.none) {position : Nat}
    (hle : start ≤ position) (hposition : position ≤ sample.size) :
    ¬ expr.MatchesAt sample position := by
  rw [← succeeds_ofExpr_iff]
  rw [search?, if_pos (by omega)] at hnone
  exact searchFrom_eq_none (by simp) (by omega) (.none _) hnone hle hposition

end Machine.Program

end PatternWorkbench
