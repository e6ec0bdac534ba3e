import PatternWorkbench.Proofs.Matching.GlobalScan
import PatternWorkbench.Proofs.Matching.Kept

/-!
# Runs are complete or fail

What a run finds without limits is its complete list of records.  Whatever the
budget, a run that succeeds gives that list and not a part of it.  A run without
the global flag gives the first record of the global run.
-/

namespace PatternWorkbench.Matching

open Machine (Found Program)

def completeRecords (program : Program) (global : Bool) (sample : Text) :
    List Record :=
  (completeFrom global program sample.toArray 0).map (.ofFound program.groups sample)

/-- The outcome of a run whose scan ends in the given way. -/
def reported (program : Program) (sample : Text) :
    Except Limit (List Found) → Except Fault (List Record)
  | .error limit => .error (.overBudget limit)
  | .ok found => .ok (found.map (.ofFound program.groups sample))

/-- A run under a clock, whose time may be over after any match. -/
def executeClocked (runsOut : Nat → Bool) (pattern : Text) (flags : Flags)
    (sample : Text) (budget : Budget) : Except Fault (List Record) :=
  if pattern.isEmpty then .ok []
  else do
    let program ← compile pattern flags budget.sizeLimit
    reported program sample
      (clockedFrom runsOut budget flags.global program sample.toArray 0 0)

theorem scan_eq_reported (budget : Budget) (global : Bool) (program : Program)
    (sample : Text) :
    scan budget global program sample =
      reported program sample (scanFrom budget global program sample.toArray 0 0) := by
  rw [scan]
  split
  case h_1 limit hlimit =>
    rw [hlimit]
    rfl
  case h_2 found hfound =>
    rw [hfound]
    rfl

theorem execute_eq_executeClocked (pattern : Text) (flags : Flags) (sample : Text)
    (budget : Budget) :
    execute pattern flags sample budget =
      executeClocked (fun _ => budget.timeLimitMs == 0) pattern flags sample budget := by
  simp only [execute, executeClocked, scan_eq_reported, scanFrom_eq_clockedFrom]

section Runs

variable {pattern sample : Text} {flags : Flags} {budget : Budget}
  {program : Program}

/-- A run reports what the limits keep of the complete list of matches. -/
theorem executeClocked_eq_reported (runsOut : Nat → Bool) (hpattern : pattern ≠ [])
    (hcompile : compile pattern flags budget.sizeLimit = .ok program) :
    executeClocked runsOut pattern flags sample budget =
      reported program sample
        (kept (fun known => flags.global && runsOut known) budget 0
          (completeFrom flags.global program sample.toArray 0)) := by
  rw [executeClocked, if_neg (by simpa using hpattern), hcompile,
    ← clockedFrom_eq_kept]
  rfl

/-- A run reports records only where the scan has met no limit. -/
theorem reported_eq_ok {outcome : Except Limit (List Found)} {records : List Record}
    (hreported : reported program sample outcome = .ok records) :
    ∃ found, outcome = .ok found ∧
      records = found.map (.ofFound program.groups sample) := by
  cases outcome with
  | error limit => simp [reported] at hreported
  | ok found => exact ⟨found, rfl, (Except.ok.inj hreported).symm⟩

/-- A run that succeeds is complete, whatever the limits and the clock. -/
theorem eq_completeRecords (runsOut : Nat → Bool) (hpattern : pattern ≠ [])
    (hcompile : compile pattern flags budget.sizeLimit = .ok program)
    {records : List Record}
    (hrun : executeClocked runsOut pattern flags sample budget = .ok records) :
    records = completeRecords program flags.global sample := by
  rw [executeClocked_eq_reported runsOut hpattern hcompile] at hrun
  obtain ⟨found, hkept, rfl⟩ := reported_eq_ok hrun
  rw [completeRecords, eq_of_kept hkept]

/-- A run in time succeeds if it may keep as many records as there are. -/
theorem executeClocked_of_inTime {runsOut : Nat → Bool}
    (hclock : ∀ known, (flags.global && runsOut known) = false)
    (hpattern : pattern ≠ [])
    (hcompile : compile pattern flags budget.sizeLimit = .ok program) :
    executeClocked runsOut pattern flags sample budget =
      if (completeRecords program flags.global sample).length ≤ budget.maxMatches then
        .ok (completeRecords program flags.global sample)
      else .error (.overBudget (.matchCount budget.maxMatches)) := by
  rw [executeClocked_eq_reported runsOut hpattern hcompile,
    kept_of_inTime hclock (Nat.zero_le _), completeRecords, List.length_map,
    Nat.zero_add]
  split <;> rfl

/-- Where there is nothing to find, no limit is reached. -/
theorem executeClocked_of_nil (runsOut : Nat → Bool) (hpattern : pattern ≠ [])
    (hcompile : compile pattern flags budget.sizeLimit = .ok program)
    (hrecords : completeRecords program flags.global sample = []) :
    executeClocked runsOut pattern flags sample budget = .ok [] := by
  rw [executeClocked_eq_reported runsOut hpattern hcompile,
    List.map_eq_nil_iff.1 hrecords]
  rfl

/-- A global run without any time fails at the first match. -/
theorem executeClocked_of_overtime {runsOut : Nat → Bool}
    (hclock : ∀ known, runsOut known = true) (hglobal : flags.global = true)
    (hpattern : pattern ≠ [])
    (hcompile : compile pattern flags budget.sizeLimit = .ok program)
    (hrecords : completeRecords program flags.global sample ≠ []) :
    executeClocked runsOut pattern flags sample budget =
      .error (.overBudget (if budget.maxMatches = 0 then .matchCount 0
        else .time budget.timeLimitMs)) := by
  have hall : completeFrom flags.global program sample.toArray 0 ≠ [] :=
    fun hnil => hrecords (List.map_eq_nil_iff.2 hnil)
  have hover : ∀ known, (flags.global && runsOut known) = true := by
    intro known
    rw [hglobal, hclock]
    rfl
  rw [executeClocked_eq_reported runsOut hpattern hcompile,
    kept_of_overtime hover hall, reported]
  by_cases hmax : budget.maxMatches = 0
  · rw [if_pos hmax, if_pos hmax.symm, hmax]
  · rw [if_neg hmax, if_neg (Ne.symm hmax)]

/-- Where time is no matter, only the number of records counts. -/
theorem execute_of_inTime (htime : flags.global = true → 0 < budget.timeLimitMs)
    (hpattern : pattern ≠ [])
    (hcompile : compile pattern flags budget.sizeLimit = .ok program) :
    execute pattern flags sample budget =
      if (completeRecords program flags.global sample).length ≤ budget.maxMatches then
        .ok (completeRecords program flags.global sample)
      else .error (.overBudget (.matchCount budget.maxMatches)) := by
  rw [execute_eq_executeClocked]
  refine executeClocked_of_inTime (fun _ => ?_) hpattern hcompile
  cases hglobal : flags.global with
  | false => rfl
  | true =>
      have := htime hglobal
      simpa using Nat.ne_of_gt this

/-- There are no more records than there are positions in the sample, its end among
them. -/
theorem length_completeRecords_le (expr : Pattern.Expr) (global : Bool)
    (sample : Text) :
    (completeRecords (.ofExpr expr) global sample).length ≤ sample.length + 1 := by
  have hscanned : Scanned expr sample.toArray 0 _ := scanned_allFrom 0
  have hall := hscanned.length_le (Nat.zero_le _)
  rw [List.size_toArray] at hall
  rw [completeRecords, List.length_map, completeFrom]
  split
  case isTrue => exact hall
  case isFalse => exact (List.length_take_le' 1 _).trans hall

end Runs

/-- What a budget makes of the complete list of records: a run gives all of them
or fails. -/
structure AllOrNothing (pattern : Text) (flags : Flags) (sample : Text)
    (budget : Budget) (records : List Record) : Prop where
  /-- The records are those of every run whose limits are far away. -/
  unlimited : ∀ room : Budget, room.sizeLimit = budget.sizeLimit →
    sample.length < room.maxMatches → 0 < room.timeLimitMs →
    execute pattern flags sample room = .ok records
  inTime : 0 < budget.timeLimitMs →
    execute pattern flags sample budget =
      if records.length ≤ budget.maxMatches then .ok records
      else .error (.overBudget (.matchCount budget.maxMatches))
  raised : ∀ more answer, budget.maxMatches ≤ more →
    execute pattern flags sample budget = .ok answer →
    execute pattern flags sample { budget with maxMatches := more } = .ok answer
  overtime_global : budget.timeLimitMs = 0 → flags.global = true →
    execute pattern flags sample budget =
      if records = [] then .ok []
      else .error (.overBudget (if budget.maxMatches = 0 then .matchCount 0 else .time 0))
  overtime_local : budget.timeLimitMs = 0 → flags.global = false →
    ∀ time, execute pattern flags sample budget =
      execute pattern flags sample { budget with timeLimitMs := time }
  /-- The clock of a run may also run out later. -/
  clocked : execute pattern flags sample budget =
    executeClocked (fun _ => budget.timeLimitMs == 0) pattern flags sample budget
  never_partial : ∀ runsOut answer,
    executeClocked runsOut pattern flags sample budget = .ok answer →
    answer = records

/-- Every budget under which a pattern compiles leaves all records of a run or
none. -/
theorem execute_allOrNothing {pattern : Text} {flags : Flags} {sample : Text}
    {budget : Budget} {program : Program} (hpattern : pattern ≠ [])
    (hcompile : compile pattern flags budget.sizeLimit = .ok program) :
    AllOrNothing pattern flags sample budget
      (completeRecords program flags.global sample) := by
  have hclocked := execute_eq_executeClocked pattern flags sample budget
  constructor
  case unlimited =>
    intro room hsize hmax htime
    obtain ⟨expr, _, _, rfl⟩ := compile_eq_ok hcompile
    have hlength := length_completeRecords_le expr flags.global sample
    rw [← hsize] at hcompile
    rw [execute_of_inTime (fun _ => htime) hpattern hcompile, if_pos (by omega)]
  case inTime =>
    intro htime
    exact execute_of_inTime (fun _ => htime) hpattern hcompile
  case raised =>
    intro more answer hmore hrun
    rw [hclocked, executeClocked_eq_reported _ hpattern hcompile] at hrun
    obtain ⟨found, hkept, rfl⟩ := reported_eq_ok hrun
    have hraised : compile pattern flags
        ({ budget with maxMatches := more } : Budget).sizeLimit = .ok program := hcompile
    rw [execute_eq_executeClocked, executeClocked_eq_reported _ hpattern hraised,
      kept_raised hmore (Nat.zero_le _) hkept]
    rfl
  case overtime_global =>
    intro htime hglobal
    have hclock : ∀ known : Nat, (fun _ : Nat => budget.timeLimitMs == 0) known = true :=
      fun _ => beq_iff_eq.2 htime
    rw [hclocked]
    split
    case isTrue hrecords => exact executeClocked_of_nil _ hpattern hcompile hrecords
    case isFalse hrecords =>
      rw [executeClocked_of_overtime hclock hglobal hpattern hcompile hrecords, htime]
  case overtime_local =>
    intro _ hlocal time
    have htime (other : Budget) : flags.global = true → 0 < other.timeLimitMs := by
      simp [hlocal]
    have hlater : compile pattern flags
        ({ budget with timeLimitMs := time } : Budget).sizeLimit = .ok program := hcompile
    rw [execute_of_inTime (htime _) hpattern hcompile,
      execute_of_inTime (htime _) hpattern hlater]
  case clocked => exact hclocked
  case never_partial =>
    intro runsOut answer hrun
    exact eq_completeRecords runsOut hpattern hcompile hrun

/-- A global run over empty matches and a longer one, with no room for the last of
them and with no time at all. -/
theorem execute_allOrNothing_stars :
    AllOrNothing "#*".toList { global := true } "é##".toList { maxMatches := 2 }
        (completeRecords (.ofExpr (.repeated 0 none true (.set (.single '#')))) true
          "é##".toList) ∧
      AllOrNothing "#*".toList { global := true } "é##".toList { timeLimitMs := 0 }
        (completeRecords (.ofExpr (.repeated 0 none true (.set (.single '#')))) true
          "é##".toList) :=
  ⟨execute_allOrNothing (by simp) (compile_stars true),
    execute_allOrNothing (by simp) (compile_stars true)⟩

/-! ## The first match alone -/

/-- A pattern is refused because it is malformed or because it is too large. -/
theorem fault_of_compile {pattern : Text} {flags : Flags} {sizeLimit : Nat}
    {fault : Fault} (hcompile : compile pattern flags sizeLimit = .error fault) :
    (∃ diagnostic, fault = .badPattern pattern diagnostic) ∨
      fault = .overBudget (.size sizeLimit) := by
  unfold compile at hcompile
  split at hcompile
  case h_1 diagnostic _ => exact Or.inl ⟨diagnostic, (Except.error.inj hcompile).symm⟩
  case h_2 =>
    split at hcompile
    case isTrue => exact Or.inr (Except.error.inj hcompile).symm
    case isFalse => contradiction

/-- How a run without the global flag ends, given how the global run does: with
the first of its records, or with the same fault if there was nothing to search
with.  Where a limit stopped the global scan, the first record was found before
that, unless none at all is allowed. -/
def IsFirstOf (maxMatches : Nat) (first : Except Fault (List Record)) :
    Except Fault (List Record) → Prop
  | .ok records => first = .ok (records.take 1)
  | .error (.overBudget (.matchCount _)) | .error (.overBudget (.time _)) =>
    if maxMatches = 0 then first = .error (.overBudget (.matchCount 0))
    else ∃ record, first = .ok [record]
  | .error fault => first = .error fault

/-- The local run is what the global one shows of its first match. -/
theorem isFirstOf_reported (runsOut : Nat → Bool) (budget : Budget)
    (program : Program) (sample : Text) (all : List Found) :
    IsFirstOf budget.maxMatches
      (reported program sample (kept (fun _ => false) budget 0 (all.take 1)))
      (reported program sample (kept runsOut budget 0 all)) := by
  cases all with
  | nil => rfl
  | cons first later =>
      by_cases hmax : budget.maxMatches = 0
      · have hnone (clock : Nat → Bool) (others : List Found) :
            kept clock budget 0 (first :: others) = .error (.matchCount 0) := by
          rw [kept, if_pos hmax.symm, hmax]
        rw [List.take_succ_cons, hnone, hnone]
        simp only [reported, IsFirstOf, if_pos hmax]
      · have hone : kept (fun _ => false) budget 0 ((first :: later).take 1) =
            .ok [first] := by
          rw [List.take_succ_cons, kept, if_neg (Ne.symm hmax)]
          rfl
        rw [hone]
        cases hkept : kept runsOut budget 0 (first :: later) with
        | ok found =>
            rw [eq_of_kept hkept]
            rfl
        | error limit =>
            rcases limit_of_kept hkept with rfl | rfl
            all_goals
              simp only [reported, IsFirstOf, if_neg hmax]
              exact ⟨_, rfl⟩

/-- A run without the global flag is the head of the global run. -/
theorem execute_isFirstOf (pattern : Text) (flags : Flags) (sample : Text)
    (budget : Budget) :
    IsFirstOf budget.maxMatches
      (execute pattern { flags with global := false } sample budget)
      (execute pattern { flags with global := true } sample budget) := by
  by_cases hpattern : pattern = []
  · subst hpattern
    rfl
  · have hsame : compile pattern { flags with global := true } budget.sizeLimit =
        compile pattern { flags with global := false } budget.sizeLimit := rfl
    cases hcompile : compile pattern { flags with global := false } budget.sizeLimit with
    | error fault =>
        have hfault (global : Bool) :
            execute pattern { flags with global } sample budget = .error fault := by
          have hsame : compile pattern { flags with global } budget.sizeLimit =
              .error fault := hcompile
          rw [execute, if_neg (by simpa using hpattern), hsame]
          rfl
        rw [hfault, hfault]
        rcases fault_of_compile hcompile with ⟨diagnostic, rfl⟩ | rfl
        · rfl
        · rfl
    | ok program =>
        rw [execute_eq_executeClocked, execute_eq_executeClocked,
          executeClocked_eq_reported _ hpattern hcompile,
          executeClocked_eq_reported _ hpattern (hsame.trans hcompile)]
        exact isFirstOf_reported _ budget program sample _

end PatternWorkbench.Matching
