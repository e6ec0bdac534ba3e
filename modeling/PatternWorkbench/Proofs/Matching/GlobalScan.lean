import Mathlib.Logic.Relation
import PatternWorkbench.Matching.Scan
import PatternWorkbench.Proofs.Machine.Exploration
import PatternWorkbench.Proofs.Matching.Kept
import PatternWorkbench.Proofs.Offset
import PatternWorkbench.Proofs.Pattern.Groups
import PatternWorkbench.Proofs.Pattern.Parts

/-!
# Global scans

A global scan searches from zero, and after each match from where that match
lets it go on.  Its records describe the sample, come one after the other, and
leave no match out that starts where the scan has looked.  Conditions on
neighbours see the whole sample throughout, never a part of it.
-/

namespace PatternWorkbench.Matching

open Machine (Footprint Found Program)
open Pattern (Expr IsPart Spells)
open Unicode (CharSet)

theorem compile_eq_ok {pattern : Text} {flags : Flags} {sizeLimit : Nat}
    {program : Program} (hcompile : compile pattern flags sizeLimit = .ok program) :
    ∃ expr, Expr.read flags.modes pattern = .ok expr ∧
      Machine.exceeds sizeLimit expr = false ∧ program = .ofExpr expr := by
  unfold compile at hcompile
  split at hcompile
  case h_1 => simp at hcompile
  case h_2 expr hread =>
    split at hcompile
    case isTrue => simp at hcompile
    case isFalse hsize =>
      exact ⟨expr, hread, by simpa using hsize, (Except.ok.inj hcompile).symm⟩

theorem compile_of_read {pattern : Text} {flags : Flags} {sizeLimit : Nat}
    {expr : Expr} (hread : Expr.read flags.modes pattern = .ok expr)
    (hsize : Machine.exceeds sizeLimit expr = false) :
    compile pattern flags sizeLimit = .ok (.ofExpr expr) := by
  simp only [compile, hread, hsize, Bool.false_eq_true, if_false]

/-- A pattern compiles if neither of its automata is over the limit. -/
theorem exceeds_of_bytes_le {limit : Nat} {expr : Expr}
    (hforward : (Footprint.ofExpr limit .forward expr).bytes ≤ limit)
    (hbackward : (Footprint.ofExpr limit .backward expr).bytes ≤ limit) :
    Machine.exceeds limit expr = false := by
  rw [Machine.exceeds, decide_eq_false (Nat.not_lt.2 hforward),
    decide_eq_false (Nat.not_lt.2 hbackward), Bool.or_self, Bool.and_false]

/-! ## The matches of a scan -/

/-- One round of a global scan goes from the position of a search to the
position of the next. -/
def Round (program : Program) (chars : Array Char) (position next : Nat) : Prop :=
  ∃ found, program.search? chars position = some found ∧ next = resumeAt found

/-- Every search of the scan begins on a boundary of the sample or one past its
end, and the next one begins further on. -/
def Advances (program : Program) (sample : Text) : Prop :=
  ∀ position,
    Relation.ReflTransGen (Round program sample.toArray) 0 position →
    (OnBoundary sample (offsetAt sample position) ∨
      offsetAt sample position = byteLength sample + 1) ∧
    ∀ next, Round program sample.toArray position next →
      offsetAt sample position < offsetAt sample next

/-- The matches found from a position on, each the leftmost one from where the
scan has come to. -/
inductive Scanned (expr : Expr) (chars : Array Char) : Nat → List Found → Prop where
  | done {start : Nat}
      (hnone : ∀ position, start ≤ position → position ≤ chars.size →
        ¬ expr.MatchesAt chars position) :
      Scanned expr chars start []
  | found {start : Nat} {found : Found} {later : List Found}
      (hbounds : start ≤ found.start ∧ found.start ≤ found.stop ∧
        found.stop ≤ chars.size)
      (hcourse : expr.course chars found.start found.stop found.marks)
      (hleftmost : ∀ position, start ≤ position → position < found.start →
        ¬ expr.MatchesAt chars position)
      (hlater : Scanned expr chars (resumeAt found) later) :
      Scanned expr chars start (found :: later)

variable {expr : Expr} {chars : Array Char}

theorem bounds_of_search?_ofExpr {start : Nat} {found : Found}
    (hfound : (Program.ofExpr expr).search? chars start = some found) :
    start ≤ found.start ∧ found.start ≤ found.stop ∧ found.stop ≤ chars.size := by
  obtain ⟨⟨hstart, hsize⟩, hcourse, _⟩ :=
    Program.search?_ofExpr_eq_some expr chars hfound
  have := expr.course_within chars _ _ _ hcourse
  omega

/-- The scan resumes at the end of a match, or one further on behind an empty one. -/
theorem resumeAt_bounds (found : Found) :
    found.stop ≤ resumeAt found ∧ resumeAt found ≤ found.stop + 1 ∧
      (found.start ≤ found.stop → found.start < resumeAt found) := by
  unfold resumeAt
  split <;> omega

/-- The scan finds every match that it could find. -/
theorem scanned_allFrom (start : Nat) :
    Scanned expr chars start (allFrom (.ofExpr expr) chars start) := by
  fun_induction allFrom (Program.ofExpr expr) chars start with
  | case1 start hnone =>
      exact .done fun position hle hsize =>
        Program.search?_ofExpr_eq_none expr chars hnone hle hsize
  | case2 start found hfound ih =>
      obtain ⟨_, hcourse, hleftmost⟩ :=
        Program.search?_ofExpr_eq_some expr chars hfound
      exact .found (bounds_of_search?_ofExpr hfound) hcourse hleftmost ih

namespace Scanned

variable {start : Nat} {run : List Found}

theorem bounds (hscan : Scanned expr chars start run) :
    ∀ found ∈ run, start ≤ found.start ∧ found.start ≤ found.stop ∧
      found.stop ≤ chars.size ∧
      expr.course chars found.start found.stop found.marks := by
  induction hscan with
  | done => simp
  | @found start found later hbounds hcourse _ hlater ih =>
      intro other hother
      have := resumeAt_bounds found
      rcases List.mem_cons.1 hother with rfl | hother
      · exact ⟨hbounds.1, hbounds.2.1, hbounds.2.2, hcourse⟩
      · obtain ⟨hresume, hrest⟩ := ih other hother
        exact ⟨by omega, hrest⟩

/-- Matches come one after the other, each from where the one before lets the
scan go on. -/
theorem pairwise (hscan : Scanned expr chars start run) :
    run.Pairwise fun earlier later => resumeAt earlier ≤ later.start := by
  induction hscan with
  | done => exact .nil
  | found _ _ _ hlater ih =>
      exact .cons (fun other hother => (hlater.bounds other hother).1) ih

theorem length_le (hscan : Scanned expr chars start run)
    (hstart : start ≤ chars.size + 1) :
    run.length + start ≤ chars.size + 1 := by
  induction hscan with
  | done => simpa using hstart
  | @found start found later hbounds _ _ _ ih =>
      have := resumeAt_bounds found
      have := ih (by omega)
      rw [List.length_cons]
      omega

/-- No match starts between where the scan goes on and the next match. -/
theorem not_matchesAt {earlier later : List Found}
    (hscan : Scanned expr chars start (earlier ++ later)) {position : Nat}
    (hresume : (earlier.getLast?.elim start resumeAt) ≤ position)
    (hposition : position ≤ chars.size)
    (hnext : ∀ next ∈ later.head?, position < next.start) :
    ¬ expr.MatchesAt chars position := by
  induction earlier generalizing start with
  | nil =>
      cases hscan with
      | done hnone => exact hnone position hresume hposition
      | found _ _ hleftmost _ =>
          exact hleftmost position hresume (hnext _ rfl)
  | cons found earlier ih =>
      cases hscan with
      | found _ _ _ hlater =>
          refine ih hlater ?_
          cases earlier with
          | nil => exact hresume
          | cons next earlier =>
              rwa [List.getLast?_cons_cons] at hresume

end Scanned

/-! ## Scans under a budget -/

theorem scanFrom_eq_allFrom {budget : Budget} {program : Program}
    (htime : 0 < budget.timeLimitMs) {start count : Nat}
    (hcount : count + (allFrom program chars start).length ≤ budget.maxMatches) :
    scanFrom budget true program chars start count =
      .ok (allFrom program chars start) := by
  have hclock (_ : Nat) : (budget.timeLimitMs == 0) = false :=
    beq_eq_false_iff_ne.2 (Nat.ne_of_gt htime)
  rw [scanFrom_eq_clockedFrom, clockedFrom_global, kept_of_inTime hclock (by omega),
    if_pos hcount]

theorem eq_allFrom_of_scanFrom {budget : Budget} {program : Program}
    {start count : Nat} {found : List Found}
    (hscan : scanFrom budget true program chars start count = .ok found) :
    found = allFrom program chars start := by
  rw [scanFrom_eq_clockedFrom, clockedFrom_global] at hscan
  exact eq_of_kept hscan

/-! ## Records -/

/-- Where a global scan goes on after a record: at its end, or one character
further if the record is empty. -/
def Record.resumeOffset (sample : Text) (record : Record) : Nat :=
  if record.matchedText.isEmpty then stepPast sample record.endOffset
  else record.endOffset

/-- The records are those of a complete global scan: in order, apart, true to
the sample, and with no match left out. -/
structure CompleteScan (expr : Expr) (sample : Text) (records : List Record) :
    Prop where
  increasing : records.Pairwise fun earlier later =>
    earlier.startOffset < later.startOffset
  apart : records.Pairwise fun earlier later =>
    earlier.endOffset ≤ later.startOffset
  /-- The record's text stands in the sample between its offsets, on its line,
  and is a match. -/
  placed : ∀ record ∈ records, ∃ before after marks,
    sample = before ++ record.matchedText ++ after ∧
      byteLength before = record.startOffset ∧
      record.lineNumber = 1 + before.count '\n' ∧
      expr.course sample.toArray before.length
        (before ++ record.matchedText).length marks
  length_le : records.length ≤ sample.length + 1
  /-- No match starts on a boundary from where the scan goes on after `earlier`
  up to the next record, or up to the end of the sample. -/
  exhaustive : ∀ earlier later, records = earlier ++ later →
    ∀ before after, sample = before ++ after →
      (earlier.getLast?.elim 0 (Record.resumeOffset sample)) ≤ byteLength before →
      (∀ next ∈ later.head?, byteLength before < next.startOffset) →
      ¬ expr.MatchesAt sample.toArray before.length

section Records

variable {sample : Text} {groups : List (Nat × Option Text)} {found : Found}

theorem append_slice (hbounds : found.start ≤ found.stop) :
    sample.take found.start ++ slice sample found.start found.stop =
      sample.take found.stop := by
  obtain ⟨width, hwidth⟩ := Nat.exists_eq_add_of_le hbounds
  rw [slice, hwidth, Nat.add_sub_cancel_left, List.take_add]

theorem startOffset_ofFound (hsize : found.start ≤ sample.length) :
    (Record.ofFound groups sample found).startOffset =
      offsetAt sample found.start :=
  (offsetAt_eq_byteLength_take hsize).symm

theorem endOffset_ofFound (hbounds : found.start ≤ found.stop)
    (hsize : found.stop ≤ sample.length) :
    (Record.ofFound groups sample found).endOffset =
      offsetAt sample found.stop := by
  rw [Record.endOffset, Record.ofFound, ← byteLength_append,
    append_slice hbounds, offsetAt_eq_byteLength_take hsize]

theorem isEmpty_ofFound_iff (hbounds : found.start ≤ found.stop)
    (hsize : found.stop ≤ sample.length) :
    (Record.ofFound groups sample found).matchedText.isEmpty = true ↔
      found.start = found.stop := by
  rw [List.isEmpty_iff, ← List.length_eq_zero_iff, Record.ofFound, slice,
    List.length_take, List.length_drop]
  omega

theorem resumeOffset_ofFound (hbounds : found.start ≤ found.stop)
    (hsize : found.stop ≤ sample.length) :
    (Record.ofFound groups sample found).resumeOffset sample =
      offsetAt sample (resumeAt found) := by
  have hempty :
      (Record.ofFound groups sample found).matchedText.isEmpty = true ↔
        found.start = found.stop := isEmpty_ofFound_iff hbounds hsize
  rw [Record.resumeOffset, endOffset_ofFound hbounds hsize, resumeAt]
  by_cases hstart : found.start = found.stop
  · rw [if_pos (hempty.2 hstart), if_pos hstart, stepPast_offsetAt hsize]
  · rw [if_neg (fun h => hstart (hempty.1 h)), if_neg hstart]

/-- A record stands in the sample where it claims to stand, on the line it names, and
what it tells has matched. -/
theorem placed_ofFound {marks : Machine.Marks}
    (hbounds : found.start ≤ found.stop) (hsize : found.stop ≤ sample.length)
    (hcourse : expr.course sample.toArray found.start found.stop marks) :
    ∃ before after marks,
      sample =
        before ++ (Record.ofFound groups sample found).matchedText ++ after ∧
      byteLength before = (Record.ofFound groups sample found).startOffset ∧
      (Record.ofFound groups sample found).lineNumber =
        1 + before.count '\n' ∧
      expr.course sample.toArray before.length
        (before ++ (Record.ofFound groups sample found).matchedText).length
        marks := by
  refine ⟨sample.take found.start, sample.drop found.stop, marks, ?_, rfl, rfl,
    ?_⟩
  · rw [Record.ofFound, append_slice hbounds, List.take_append_drop]
  · rw [Record.ofFound, append_slice hbounds, List.length_take, List.length_take,
      Nat.min_eq_left hsize, Nat.min_eq_left (by omega)]
    exact hcourse

theorem completeScan_of_scanned {run : List Found}
    (hscan : Scanned expr sample.toArray 0 run) :
    CompleteScan expr sample (run.map (.ofFound groups sample)) := by
  have hbounds := hscan.bounds
  simp only [List.size_toArray] at hbounds
  have hordered : run.Pairwise fun earlier later =>
      earlier.start < later.start ∧ earlier.stop ≤ later.start := by
    refine hscan.pairwise.imp_of_mem fun {earlier later} hearlier _ hresume => ?_
    have := hbounds earlier hearlier
    have := resumeAt_bounds earlier
    omega
  constructor
  case increasing =>
    refine List.pairwise_map.2 (hordered.imp_of_mem ?_)
    intro earlier later hearlier hlater ⟨hlt, _⟩
    have := hbounds earlier hearlier
    have := hbounds later hlater
    rw [startOffset_ofFound (by omega), startOffset_ofFound (by omega)]
    exact offsetAt_lt_offsetAt hlt
  case apart =>
    refine List.pairwise_map.2 (hordered.imp_of_mem ?_)
    intro earlier later hearlier hlater ⟨_, hle⟩
    have := hbounds earlier hearlier
    have := hbounds later hlater
    rw [endOffset_ofFound (by omega) (by omega), startOffset_ofFound (by omega)]
    exact offsetAt_le_offsetAt_iff.2 hle
  case placed =>
    intro record hrecord
    obtain ⟨found, hfound, rfl⟩ := List.mem_map.1 hrecord
    obtain ⟨_, hstart, hstop, hcourse⟩ := hbounds found hfound
    exact placed_ofFound hstart hstop hcourse
  case length_le =>
    have := hscan.length_le (Nat.zero_le _)
    simpa using this
  case exhaustive =>
    intro earlier later hsplit before after hsample hresume hnext
    obtain ⟨earlier, later, rfl, rfl, rfl⟩ := List.map_eq_append_iff.1 hsplit
    have hposition : before.length ≤ sample.length := by simp [hsample]
    have hoffset : byteLength before = offsetAt sample before.length := by
      rw [hsample, offsetAt_length]
    refine hscan.not_matchesAt ?_ (by simpa using hposition) ?_
    · rw [hoffset, List.getLast?_map] at hresume
      cases hlast : earlier.getLast? with
      | none => exact Nat.zero_le _
      | some last =>
          have := hbounds last
            (List.mem_append_left _ (List.mem_of_getLast? hlast))
          rw [hlast, Option.map_some, Option.elim_some,
            resumeOffset_ofFound (by omega) (by omega),
            offsetAt_le_offsetAt_iff] at hresume
          exact hresume
    · intro next hhead
      have hlater : next ∈ later := List.mem_of_head? hhead
      have := hbounds next (List.mem_append_right _ hlater)
      have hbefore := hnext (.ofFound groups sample next) (by
        rw [List.head?_map, hhead]
        rfl)
      rw [hoffset, startOffset_ofFound (by omega), offsetAt_lt_offsetAt_iff]
        at hbefore
      exact hbefore

end Records

theorem round_bounds {position next : Nat}
    (hround : Round (.ofExpr expr) chars position next) :
    position < next ∧ next ≤ chars.size + 1 := by
  obtain ⟨found, hfound, rfl⟩ := hround
  have := bounds_of_search?_ofExpr hfound
  have := resumeAt_bounds found
  omega

theorem reached_le {position : Nat}
    (hreached : Relation.ReflTransGen (Round (.ofExpr expr) chars) 0 position) :
    position ≤ chars.size + 1 := by
  cases hreached with
  | refl => exact Nat.zero_le _
  | tail _ hround => exact (round_bounds hround).2

/-- The scan only ever rests on a boundary, or just past the end, and always moves on.
-/
theorem advances_ofExpr (expr : Expr) (sample : Text) :
    Advances (.ofExpr expr) sample := by
  intro position hreached
  have hposition := reached_le hreached
  rw [List.size_toArray] at hposition
  constructor
  · rcases Nat.eq_or_lt_of_le hposition with rfl | hlt
    · exact Or.inr (offsetAt_length_add_one sample)
    · exact Or.inl (onBoundary_offsetAt (Nat.lt_succ_iff.1 hlt))
  · intro next hround
    exact offsetAt_lt_offsetAt (round_bounds hround).1

theorem execute_eq_scan {pattern : Text} {flags : Flags} {sample : Text}
    {budget : Budget} {program : Program} (hpattern : pattern ≠ [])
    (hcompile : compile pattern flags budget.sizeLimit = .ok program) :
    execute pattern flags sample budget =
      scan budget flags.global program sample := by
  rw [execute, if_neg (by simpa using hpattern), hcompile]
  rfl

/-- A run that succeeds has compiled its pattern. -/
theorem exists_compile_of_execute {pattern : Text} {flags : Flags} {sample : Text}
    {budget : Budget} {records : List Record} (hpattern : pattern ≠ [])
    (hrun : execute pattern flags sample budget = .ok records) :
    ∃ program, compile pattern flags budget.sizeLimit = .ok program := by
  cases hcompile : compile pattern flags budget.sizeLimit with
  | error fault =>
      rw [execute, if_neg (by simpa using hpattern), hcompile] at hrun
      contradiction
  | ok program => exact ⟨program, rfl⟩

/-- A run without the global flag reports the first match. -/
theorem execute_of_search? {pattern sample : Text} {flags : Flags} {budget : Budget}
    {expr : Expr} {found : Found} (hpattern : pattern ≠ []) (hlocal : flags.global = false)
    (hmax : 0 < budget.maxMatches) (hread : Expr.read flags.modes pattern = .ok expr)
    (hsize : Machine.exceeds budget.sizeLimit expr = false)
    (hsearch : (Program.ofExpr expr).search? sample.toArray 0 = some found) :
    execute pattern flags sample budget = .ok [.ofFound expr.captures sample found] := by
  rw [execute_eq_scan hpattern (compile_of_read hread hsize), scan, hlocal,
    scanFrom_of_some hsearch, if_neg (Nat.ne_of_lt hmax)]
  rfl

/-- A global scan goes from boundary to boundary, or past the end, and always
forward.  There is one complete scan of the sample; whenever the budget suffices
it is the answer, and no other list of records ever is. -/
theorem execute_global {pattern : Text} {flags : Flags} {sample : Text}
    {budget : Budget} {program : Program} (hpattern : pattern ≠ [])
    (hglobal : flags.global = true)
    (hcompile : compile pattern flags budget.sizeLimit = .ok program) :
    Advances program sample ∧
    ∃ expr records, Expr.read flags.modes pattern = .ok expr ∧
      CompleteScan expr sample records ∧
      (0 < budget.timeLimitMs → records.length ≤ budget.maxMatches →
        execute pattern flags sample budget = .ok records) ∧
      ∀ others, execute pattern flags sample budget = .ok others →
        others = records := by
  obtain ⟨expr, hread, _, rfl⟩ := compile_eq_ok hcompile
  rw [execute_eq_scan hpattern hcompile, hglobal, scan]
  let run := allFrom (.ofExpr expr) sample.toArray 0
  refine ⟨advances_ofExpr expr sample, expr,
    run.map (.ofFound expr.captures sample), hread,
    completeScan_of_scanned (scanned_allFrom 0), ?_, ?_⟩
  · intro htime hcount
    rw [List.length_map] at hcount
    rw [scanFrom_eq_allFrom htime (by simpa using hcount)]
    rfl
  · intro others hothers
    split at hothers
    case h_1 => simp at hothers
    case h_2 found hfound =>
      rw [eq_allFrom_of_scanFrom hfound] at hothers
      exact (Except.ok.inj hothers).symm

theorem read_stars (global : Bool) :
    Expr.read ({ global } : Flags).modes "#*".toList =
      .ok (.repeated 0 none true (.set (.single '#'))) := by
  have hpart : IsPart ({ global } : Flags).modes 2 ['#'] (.set (.single '#')) :=
    Pattern.isPart_char rfl (by decide)
  have hstar : Pattern.RepetitionReading.marked? '*' = some ⟨0, none⟩ := rfl
  have hspells : Spells ({ global } : Flags).modes 3 ['#', '*']
      [.repeated 0 none true (.set (.single '#'))] :=
    hpart.spells_repetition rfl
      (fun pos _ hrest => Pattern.Reading.operator?_mark hstar pos hrest) (by decide)
  exact Pattern.read_spelling (by decide) (hspells.spellsFrom _)

theorem compile_stars (global : Bool) :
    compile "#*".toList { global } ({} : Budget).sizeLimit =
      .ok (.ofExpr (.repeated 0 none true (.set (.single '#')))) := by
  have hlong : (Expr.set (.single '#')).isNeverEmpty = true := by
    rw [Expr.isNeverEmpty, Expr.shortest?, CharSet.ranges_single (by decide) (by decide)]
    rfl
  have hsize : Machine.exceeds ({} : Budget).sizeLimit
      (.repeated 0 none true (.set (.single '#'))) = false := by
    apply exceeds_of_bytes_le <;>
      simp only [Footprint.ofExpr, Footprint.addExpr, Footprint.addRepeated,
        Footprint.addSet, CharSet.single?_single (c := '#') (by decide) (by decide),
        hlong] <;>
      decide
  exact compile_of_read (read_stars global) hsize

/-- A pattern with empty and longer matches, and a character of two bytes. -/
theorem execute_global_stars :
    ∃ records,
      CompleteScan (.repeated 0 none true (.set (.single '#'))) "é##".toList
        records ∧
      execute "#*".toList { global := true } "é##".toList {} = .ok records := by
  obtain ⟨_, expr, records, hexpr, hscan, hanswer, _⟩ :=
    @execute_global "#*".toList { global := true } "é##".toList {} _ (by simp) rfl
      (compile_stars true)
  obtain rfl := Except.ok.inj ((read_stars true).symm.trans hexpr)
  refine ⟨records, hscan, hanswer (by decide) ?_⟩
  have : "é##".toList.length = 3 := by decide
  have := hscan.length_le
  have : ({} : Budget).maxMatches = 10000 := rfl
  omega

end PatternWorkbench.Matching
