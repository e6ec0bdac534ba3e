import PatternWorkbench.Matching.Scan

/-!
# What the limits keep of a scan

A scan looks for matches and at its limits in turn.  The two can be taken apart:
the matches of a scan are those of a scan without limits, and the limits then
keep all of them or make the scan fail.  The time may be over after any match,
so the statements are about every clock.
-/

namespace PatternWorkbench.Matching

open Machine (Found Program)

/-- A scan under a clock: `runsOut count` says whether the time is over when
`count` matches are known.  Only a global scan looks at the clock. -/
def clockedFrom (runsOut : Nat → Bool) (budget : Budget) (global : Bool)
    (program : Program) (chars : Array Char) (start count : Nat) :
    Except Limit (List Found) :=
  match _ : program.search? chars start with
  | none => .ok []
  | some found =>
    if count = budget.maxMatches then .error (.matchCount budget.maxMatches)
    else if !global then .ok [found]
    else if runsOut (count + 1) then .error (.time budget.timeLimitMs)
    else
      (clockedFrom runsOut budget global program chars (resumeAt found)
        (count + 1)).map (found :: ·)
termination_by chars.size + 1 - start
decreasing_by
  have := lt_resumeAt ‹program.search? chars start = _›
  have := le_size_of_search? ‹program.search? chars start = _›
  omega

def completeFrom (global : Bool) (program : Program) (chars : Array Char)
    (start : Nat) : List Found :=
  if global then allFrom program chars start
  else (allFrom program chars start).take 1

/-- What the limits make of matches when `count` others are known already. -/
def kept (runsOut : Nat → Bool) (budget : Budget) (count : Nat) :
    List Found → Except Limit (List Found)
  | [] => .ok []
  | found :: later =>
    if count = budget.maxMatches then .error (.matchCount budget.maxMatches)
    else if runsOut (count + 1) then .error (.time budget.timeLimitMs)
    else (kept runsOut budget (count + 1) later).map (found :: ·)

section Scans

variable {runsOut : Nat → Bool} {budget : Budget} {global : Bool}
  {program : Program} {chars : Array Char} {start count : Nat} {found : Found}

/-! ## One round -/

theorem allFrom_of_none (hnone : program.search? chars start = none) :
    allFrom program chars start = [] := by
  rw [allFrom]
  split
  case h_1 => rfl
  case h_2 hfound => simp [hnone] at hfound

theorem allFrom_of_some (hfound : program.search? chars start = some found) :
    allFrom program chars start =
      found :: allFrom program chars (resumeAt found) := by
  rw [allFrom]
  split
  case h_1 hnone => simp [hfound] at hnone
  case h_2 other hother =>
    obtain rfl := Option.some.inj (hfound.symm.trans hother)
    rfl

theorem scanFrom_of_none (hnone : program.search? chars start = none) :
    scanFrom budget global program chars start count = .ok [] := by
  rw [scanFrom]
  split
  case h_1 => rfl
  case h_2 hfound => simp [hnone] at hfound

/-- After a match the limits are asked, first the count and then the clock, and the scan
resumes behind it. -/
theorem scanFrom_of_some (hfound : program.search? chars start = some found) :
    scanFrom budget global program chars start count =
      if count = budget.maxMatches then .error (.matchCount budget.maxMatches)
      else if !global then .ok [found]
      else if budget.timeLimitMs = 0 then .error (.time budget.timeLimitMs)
      else
        (scanFrom budget global program chars (resumeAt found) (count + 1)).map
          (found :: ·) := by
  rw [scanFrom]
  split
  case h_1 hnone => simp [hfound] at hnone
  case h_2 other hother =>
    obtain rfl := Option.some.inj (hfound.symm.trans hother)
    rfl

theorem clockedFrom_of_none (hnone : program.search? chars start = none) :
    clockedFrom runsOut budget global program chars start count = .ok [] := by
  rw [clockedFrom]
  split
  case h_1 => rfl
  case h_2 hfound => simp [hnone] at hfound

theorem clockedFrom_of_some (hfound : program.search? chars start = some found) :
    clockedFrom runsOut budget global program chars start count =
      if count = budget.maxMatches then .error (.matchCount budget.maxMatches)
      else if !global then .ok [found]
      else if runsOut (count + 1) then .error (.time budget.timeLimitMs)
      else
        (clockedFrom runsOut budget global program chars (resumeAt found)
          (count + 1)).map (found :: ·) := by
  rw [clockedFrom]
  split
  case h_1 hnone => simp [hfound] at hnone
  case h_2 other hother =>
    obtain rfl := Option.some.inj (hfound.symm.trans hother)
    rfl

/-! ## A whole run -/

/-- No time at all is a clock that runs out at once, and any other limit one that
never does. -/
theorem scanFrom_eq_clockedFrom (budget : Budget) (global : Bool)
    (program : Program) (chars : Array Char) (start count : Nat) :
    scanFrom budget global program chars start count =
      clockedFrom (fun _ => budget.timeLimitMs == 0) budget global program chars
        start count := by
  fun_induction allFrom program chars start generalizing count with
  | case1 start hnone => rw [scanFrom_of_none hnone, clockedFrom_of_none hnone]
  | case2 start found hfound ih =>
      rw [scanFrom_of_some hfound, clockedFrom_of_some hfound, ih]
      simp only [beq_iff_eq]

/-- A global scan keeps what its limits let through of all matches. -/
theorem clockedFrom_global (runsOut : Nat → Bool) (budget : Budget)
    (program : Program) (chars : Array Char) (start count : Nat) :
    clockedFrom runsOut budget true program chars start count =
      kept runsOut budget count (allFrom program chars start) := by
  fun_induction allFrom program chars start generalizing count with
  | case1 start hnone => rw [clockedFrom_of_none hnone, kept]
  | case2 start found hfound ih =>
      rw [clockedFrom_of_some hfound, kept, ih]
      rfl

/-- A local scan keeps the first match, and no clock is asked. -/
theorem clockedFrom_local (runsOut : Nat → Bool) (budget : Budget)
    (program : Program) (chars : Array Char) (start count : Nat) :
    clockedFrom runsOut budget false program chars start count =
      kept (fun _ => false) budget count ((allFrom program chars start).take 1) := by
  cases hsearch : program.search? chars start with
  | none =>
      rw [clockedFrom_of_none hsearch, allFrom_of_none hsearch]
      rfl
  | some found =>
      rw [clockedFrom_of_some hsearch, allFrom_of_some hsearch]
      rfl

/-- A run keeps what the limits keep of its complete list of matches.  The clock
matters to a global run only. -/
theorem clockedFrom_eq_kept (runsOut : Nat → Bool) (budget : Budget)
    (global : Bool) (program : Program) (chars : Array Char) (start count : Nat) :
    clockedFrom runsOut budget global program chars start count =
      kept (fun known => global && runsOut known) budget count
        (completeFrom global program chars start) := by
  cases global with
  | true => exact clockedFrom_global runsOut budget program chars start count
  | false => exact clockedFrom_local runsOut budget program chars start count

end Scans

/-! ## All or nothing -/

section Kept

variable {runsOut : Nat → Bool} {budget : Budget} {count : Nat}
  {all found : List Found}

/-- What is kept is everything. -/
theorem eq_of_kept (hkept : kept runsOut budget count all = .ok found) :
    found = all := by
  induction all generalizing count found with
  | nil => exact (Except.ok.inj hkept).symm
  | cons first later ih =>
      rw [kept] at hkept
      split at hkept
      case isTrue => contradiction
      case isFalse =>
        split at hkept
        case isTrue => contradiction
        case isFalse =>
          cases hlater : kept runsOut budget (count + 1) later with
          | error limit => simp [hlater, Except.map] at hkept
          | ok others =>
              rw [hlater] at hkept
              rw [← ih hlater]
              exact (Except.ok.inj hkept).symm

/-- What is kept is kept also where more may be kept. -/
theorem kept_raised {more : Nat} (hmore : budget.maxMatches ≤ more)
    (hcount : count ≤ budget.maxMatches)
    (hkept : kept runsOut budget count all = .ok found) :
    kept runsOut { budget with maxMatches := more } count all = .ok found := by
  induction all generalizing count found with
  | nil => exact hkept
  | cons first later ih =>
      rw [kept] at hkept ⊢
      by_cases hfull : count = budget.maxMatches
      · rw [if_pos hfull] at hkept
        contradiction
      · have hroom : count ≠ more := by omega
        rw [if_neg hfull] at hkept
        rw [if_neg hroom]
        cases hlater : kept runsOut budget (count + 1) later with
        | error limit =>
            rw [hlater] at hkept
            split at hkept <;> contradiction
        | ok others =>
            rw [ih (by omega) hlater]
            rwa [hlater] at hkept

/-- With time left only the number of matches counts. -/
theorem kept_of_inTime (hclock : ∀ known, runsOut known = false)
    (hcount : count ≤ budget.maxMatches) :
    kept runsOut budget count all =
      if count + all.length ≤ budget.maxMatches then .ok all
      else .error (.matchCount budget.maxMatches) := by
  induction all generalizing count with
  | nil => rw [kept, if_pos (by simpa using hcount)]
  | cons first later ih =>
      rw [kept, hclock, List.length_cons]
      by_cases hfull : count = budget.maxMatches
      · rw [if_pos hfull, if_neg (by omega)]
      · rw [if_neg hfull, if_neg (by simp), ih (by omega)]
        by_cases hroom : count + 1 + later.length ≤ budget.maxMatches
        · rw [if_pos hroom, if_pos (by omega)]
          rfl
        · rw [if_neg hroom, if_neg (by omega)]
          rfl

/-- The limits that stop a scan are the number of matches and the time. -/
theorem limit_of_kept {limit : Limit}
    (hkept : kept runsOut budget count all = .error limit) :
    limit = .matchCount budget.maxMatches ∨ limit = .time budget.timeLimitMs := by
  induction all generalizing count with
  | nil => simp [kept] at hkept
  | cons first later ih =>
      rw [kept] at hkept
      split at hkept
      case isTrue => exact Or.inl (Except.error.inj hkept).symm
      case isFalse =>
        split at hkept
        case isTrue => exact Or.inr (Except.error.inj hkept).symm
        case isFalse =>
          cases hlater : kept runsOut budget (count + 1) later with
          | ok others => simp [hlater, Except.map] at hkept
          | error other =>
              rw [hlater] at hkept
              exact ih (hlater.trans hkept)

/-- With no time at all the first match is one too many. -/
theorem kept_of_overtime (hclock : ∀ known, runsOut known = true) (hall : all ≠ []) :
    kept runsOut budget count all =
      .error (if count = budget.maxMatches then .matchCount budget.maxMatches
        else .time budget.timeLimitMs) := by
  obtain ⟨first, later, rfl⟩ := List.exists_cons_of_ne_nil hall
  rw [kept, hclock]
  split <;> rfl

end Kept

end PatternWorkbench.Matching
