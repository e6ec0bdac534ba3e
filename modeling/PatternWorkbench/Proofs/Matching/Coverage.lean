import PatternWorkbench.Proofs.Matching.GlobalScan
import PatternWorkbench.Proofs.Matching.Highlighting

/-!
# Stretches of a run

The records of a run lie one after the other, so that highlighting loses none of
them: every match that is not empty is marked where it lies, and all else is
plain.
-/

namespace PatternWorkbench.Matching

/-! ## Stretches that no record covers -/

def covers (records : List Record) (offset : Nat) : Bool :=
  records.any fun record =>
    record.startOffset ≤ offset && offset < record.endOffset

/-- Puts a character before stretches, as part of the first one if that lies right
behind it. -/
def prependTo (offset : Nat) (c : Char) : List (Nat × Text) → List (Nat × Text)
  | [] => [(offset, [c])]
  | (next, text) :: others =>
    if next = offset + c.utf8Size then (offset, c :: text) :: others
    else (offset, [c]) :: (next, text) :: others

/-- The longest stretches of a text that begins at `offset` in which no character
is covered, with their offsets. -/
def uncovered (covered : Nat → Bool) (offset : Nat) : Text → List (Nat × Text)
  | [] => []
  | c :: rest =>
    if covered offset then uncovered covered (offset + c.utf8Size) rest
    else prependTo offset c (uncovered covered (offset + c.utf8Size) rest)

theorem prependTo_of_forall_lt {offset : Nat} {c : Char} {later : List (Nat × Text)}
    (hlater : ∀ place ∈ later, offset + c.utf8Size < place.1) :
    prependTo offset c later = (offset, [c]) :: later := by
  cases later with
  | nil => rfl
  | cons place others =>
      have := hlater place (by simp)
      rw [prependTo, if_neg (by omega)]

section Uncovered

variable {covered : Nat → Bool} {offset : Nat} {text rest : Text}

/-- What is left uncovered depends only on the positions ahead. -/
theorem uncovered_congr {others : Nat → Bool}
    (hsame : ∀ position, offset ≤ position → covered position = others position) :
    uncovered covered offset text = uncovered others offset text := by
  induction text generalizing offset with
  | nil => rfl
  | cons c text ih =>
      rw [uncovered, uncovered, hsame offset (Nat.le_refl _),
        ih fun position hle => hsame position (by omega)]

theorem le_of_mem_prependTo {c : Char} {later : List (Nat × Text)}
    (hlater : ∀ place ∈ later, offset ≤ place.1) :
    ∀ place ∈ prependTo offset c later, offset ≤ place.1 := by
  intro place hplace
  unfold prependTo at hplace
  split at hplace
  case h_1 => simp_all
  case h_2 next text others =>
    split at hplace
    all_goals simp_all only [List.mem_cons]
    · rcases hplace with rfl | hplace
      · exact Nat.le_refl _
      · exact hlater place (Or.inr hplace)
    · rcases hplace with rfl | hplace
      · exact Nat.le_refl _
      · exact hlater place hplace

theorem le_of_mem_uncovered :
    ∀ place ∈ uncovered covered offset text, offset ≤ place.1 := by
  induction text generalizing offset with
  | nil => simp [uncovered]
  | cons c text ih =>
      have hlater : ∀ place ∈ uncovered covered (offset + c.utf8Size) text,
          offset ≤ place.1 := fun place hplace => by
        have := ih place hplace
        omega
      rw [uncovered]
      split
      · exact hlater
      · exact le_of_mem_prependTo hlater

/-- Where the first character is covered, no stretch begins. -/
theorem lt_of_mem_uncovered (hcovered : text ≠ [] → covered offset = true) :
    ∀ place ∈ uncovered covered offset text, offset < place.1 := by
  cases text with
  | nil => simp [uncovered]
  | cons c text =>
      have hwidth := c.utf8Size_pos
      rw [uncovered, if_pos (hcovered (by simp))]
      intro place hplace
      have := le_of_mem_uncovered place hplace
      omega

/-- A covered stretch leaves nothing behind. -/
theorem uncovered_append_of_covered
    (hcovered : ∀ position, offset ≤ position →
      position < offset + byteLength text → covered position = true) :
    uncovered covered offset (text ++ rest) =
      uncovered covered (offset + byteLength text) rest := by
  induction text generalizing offset with
  | nil => rfl
  | cons c text ih =>
      have hwidth := c.utf8Size_pos
      rw [byteLength_cons] at hcovered
      rw [List.cons_append, uncovered, byteLength_cons, ← Nat.add_assoc,
        if_pos (hcovered offset (Nat.le_refl _) (by omega)),
        ih fun position hle hlt => hcovered position (by omega) (by omega)]

/-- A stretch that nothing covers is one stretch as far as it goes. -/
theorem uncovered_append_of_not_covered (htext : text ≠ [])
    (hcovered : ∀ position, offset ≤ position →
      position < offset + byteLength text → covered position = false)
    (hrest : rest ≠ [] → covered (offset + byteLength text) = true) :
    uncovered covered offset (text ++ rest) =
      (offset, text) :: uncovered covered (offset + byteLength text) rest := by
  induction text generalizing offset with
  | nil => contradiction
  | cons c text ih =>
      have hwidth := c.utf8Size_pos
      rw [byteLength_cons] at hcovered hrest ⊢
      have hhere : ¬ covered offset = true := by
        rw [hcovered offset (Nat.le_refl _) (by omega)]
        simp
      rw [List.cons_append, uncovered, if_neg hhere]
      cases text with
      | nil =>
          rw [byteLength_nil, Nat.add_zero] at hrest ⊢
          exact prependTo_of_forall_lt (lt_of_mem_uncovered hrest)
      | cons d text =>
          rw [ih (by simp) (fun position hle hlt => hcovered position (by omega)
              (by omega)) (fun hne => by rw [Nat.add_assoc]; exact hrest hne)]
          rw [prependTo, if_pos rfl, Nat.add_assoc]

end Uncovered

/-- Records that lie one after the other in the rest of a sample; empty ones may
lie anywhere. -/
inductive Laid : Nat → Text → List Record → Prop where
  | nil (cursor : Nat) (rest : Text) : Laid cursor rest []
  | empty {cursor : Nat} {rest : Text} (record : Record) {records : List Record}
      (hempty : record.matchedText = []) (hlater : Laid cursor rest records) :
      Laid cursor rest (record :: records)
  | cons {cursor : Nat} (before after : Text) (record : Record)
      {records : List Record} (hnonempty : record.matchedText ≠ [])
      (hstart : record.startOffset = cursor + byteLength before)
      (hlater : Laid record.endOffset after records) :
      Laid cursor (before ++ record.matchedText ++ after) (record :: records)

namespace Laid

variable {cursor : Nat} {rest : Text} {records : List Record}

theorem le_startOffset (hlaid : Laid cursor rest records) :
    ∀ record ∈ records, record.matchedText ≠ [] → cursor ≤ record.startOffset := by
  induction hlaid with
  | nil => simp
  | empty record hempty hlater ih =>
      intro other hother hnonempty
      rcases List.mem_cons.1 hother with rfl | hother
      · contradiction
      · exact ih other hother hnonempty
  | cons before after record _ hstart hlater ih =>
      intro other hother hnonempty
      rcases List.mem_cons.1 hother with rfl | hother
      · omega
      · have := ih other hother hnonempty
        rw [Record.endOffset] at this
        omega

/-- Nothing is covered before the first record that is not empty. -/
theorem not_covers (hlaid : Laid cursor rest records) {position : Nat}
    (hposition : position < cursor) : covers records position = false := by
  rw [covers, List.any_eq_false]
  intro record hrecord
  simp only [Bool.and_eq_true, decide_eq_true_eq, not_and, Nat.not_lt]
  intro hle
  by_cases hempty : record.matchedText = []
  · rw [Record.endOffset, hempty, byteLength_nil]
    omega
  · have := hlaid.le_startOffset record hrecord hempty
    omega

/-- Every record that is not empty is marked. -/
theorem placedStretches_true (hlaid : Laid cursor rest records) :
    placedStretches true cursor (Highlight.marked cursor rest records) =
      (records.filter fun record => !record.matchedText.isEmpty).map fun record =>
        (record.startOffset, record.matchedText) := by
  induction hlaid with
  | nil cursor rest =>
      simp [Highlight.marked, Highlight.placedStretches_plain]
  | @empty cursor rest record records hempty hlater ih =>
      have hplace : Highlight.place? cursor rest record = none := by
        simp [Highlight.place?, hempty]
      rw [Highlight.marked_cons_of_none hplace, ih]
      simp [hempty]
  | @cons cursor before after record records hnonempty hstart hlater ih =>
      have hplace : Highlight.place? cursor (before ++ record.matchedText ++ after)
          record = some (before, after) :=
        Highlight.place?_eq_some_iff.2 ⟨hnonempty, hstart, rfl⟩
      rw [Highlight.marked_cons_of_some hplace,
        Highlight.placedStretches_plain_append, ← hstart]
      rw [Record.endOffset] at ih
      simp [placedStretches, ih, hnonempty, Record.endOffset]

/-- What is not marked is what no record covers. -/
theorem placedStretches_false (hlaid : Laid cursor rest records) :
    placedStretches false cursor (Highlight.marked cursor rest records) =
      uncovered (covers records) cursor rest := by
  induction hlaid with
  | nil cursor rest =>
      rw [Highlight.marked, Highlight.placedStretches_plain]
      by_cases hempty : rest = []
      · simp [hempty, uncovered]
      · have huncovered : uncovered (covers []) cursor (rest ++ []) = [(cursor, rest)] :=
          uncovered_append_of_not_covered hempty (by simp [covers]) (by simp)
        rw [List.append_nil] at huncovered
        rw [huncovered, if_pos ⟨rfl, hempty⟩]
  | @empty cursor rest record records hempty hlater ih =>
      have hplace : Highlight.place? cursor rest record = none := by
        simp [Highlight.place?, hempty]
      have hcovers : covers (record :: records) = covers records := by
        funext position
        have hnone : (record.startOffset ≤ position && position < record.endOffset) =
            false := by
          rw [Record.endOffset, hempty, byteLength_nil, Nat.add_zero,
            Bool.and_eq_false_iff, decide_eq_false_iff_not, decide_eq_false_iff_not]
          omega
        rw [covers, List.any_cons, hnone, Bool.false_or, covers]
      rw [Highlight.marked_cons_of_none hplace, ih, hcovers]
  | @cons cursor before after record records hnonempty hstart hlater ih =>
      have hplace : Highlight.place? cursor (before ++ record.matchedText ++ after)
          record = some (before, after) :=
        Highlight.place?_eq_some_iff.2 ⟨hnonempty, hstart, rfl⟩
      have hwidth : byteLength record.matchedText ≠ 0 := by
        rw [ne_eq, byteLength_eq_zero_iff]
        exact hnonempty
      have hend : record.endOffset = record.startOffset +
          byteLength record.matchedText := rfl
      have hown (position : Nat) : covers (record :: records) position =
          ((record.startOffset ≤ position && position < record.endOffset) ||
            covers records position) := rfl
      have hbefore (position : Nat) (hlt : position < record.startOffset) :
          covers (record :: records) position = false := by
        rw [hown, hlater.not_covers (by omega), Bool.or_false, Bool.and_eq_false_iff]
        exact Or.inl (decide_eq_false (by omega))
      have hinside (position : Nat) (hle : record.startOffset ≤ position)
          (hlt : position < record.endOffset) :
          covers (record :: records) position = true := by
        rw [hown, decide_eq_true hle, decide_eq_true hlt]
        rfl
      have hbehind (position : Nat) (hle : record.endOffset ≤ position) :
          covers (record :: records) position = covers records position := by
        rw [hown, decide_eq_false (by omega : ¬ position < record.endOffset),
          Bool.and_false, Bool.false_or]
      have hmatched : uncovered (covers (record :: records)) record.startOffset
          (record.matchedText ++ after) =
          uncovered (covers records) record.endOffset after := by
        rw [uncovered_append_of_covered fun position hle hlt =>
          hinside position hle hlt]
        exact uncovered_congr hbehind
      have hplain : uncovered (covers (record :: records)) cursor
          (before ++ (record.matchedText ++ after)) =
          (if before ≠ [] then [(cursor, before)] else []) ++
            uncovered (covers (record :: records)) record.startOffset
              (record.matchedText ++ after) := by
        by_cases hempty : before = []
        · simp [hempty, hstart]
        · rw [if_pos hempty, hstart]
          refine uncovered_append_of_not_covered hempty
            (fun position _ hlt => hbefore position (by omega)) fun _ => ?_
          exact hinside _ (by omega) (by omega)
      rw [Highlight.marked_cons_of_some hplace,
        Highlight.placedStretches_plain_append, ← hstart, List.append_assoc, hplain,
        hmatched, ← ih]
      simp [placedStretches, Record.endOffset]

end Laid

/-! ## Records of a run -/

/-- Records that lie apart and in order in a sample are laid in it. -/
theorem laid_of_placed {sample passed rest : Text} {records : List Record}
    (hsample : sample = passed ++ rest)
    (hstart : ∀ record ∈ records, byteLength passed ≤ record.startOffset)
    (hapart : records.Pairwise fun earlier later =>
      earlier.endOffset ≤ later.startOffset)
    (hplaced : ∀ record ∈ records, ∃ before after,
      sample = before ++ record.matchedText ++ after ∧
        byteLength before = record.startOffset) :
    Laid (byteLength passed) rest records := by
  induction records generalizing passed rest with
  | nil => exact .nil _ _
  | cons record records ih =>
      obtain ⟨hnext, hapart⟩ := List.pairwise_cons.1 hapart
      have hothers : ∀ other ∈ records, ∃ before after,
          sample = before ++ other.matchedText ++ after ∧
            byteLength before = other.startOffset := fun other hother =>
        hplaced other (List.mem_cons_of_mem _ hother)
      by_cases hempty : record.matchedText = []
      · refine .empty record hempty (ih hsample (fun other hother => ?_) hapart hothers)
        exact hstart other (List.mem_cons_of_mem _ hother)
      · obtain ⟨before, after, hsplit, hbefore⟩ := hplaced record (by simp)
        have htwice : passed ++ rest = before ++ (record.matchedText ++ after) := by
          rw [← hsample, hsplit, List.append_assoc]
        have hle : byteLength passed ≤ byteLength before := by
          rw [hbefore]
          exact hstart record (by simp)
        obtain ⟨between, rfl, rfl⟩ := exists_append_of_byteLength_le htwice hle
        have hend : record.endOffset =
            byteLength (passed ++ between ++ record.matchedText) := by
          rw [Record.endOffset, ← hbefore, byteLength_append _ record.matchedText]
        have hlater : Laid record.endOffset after records := by
          rw [hend]
          refine ih hsplit (fun other hother => ?_) hapart hothers
          rw [← hend]
          exact hnext other hother
        rw [← List.append_assoc]
        refine .cons between after record hempty ?_ hlater
        rw [← hbefore, byteLength_append]

/-- A scan without the global flag answers with the first match of a global one. -/
theorem prefix_allFrom_of_scanFrom {budget : Budget} {global : Bool}
    {program : Machine.Program} {chars : Array Char} {start count : Nat}
    {found : List Machine.Found}
    (hscan : scanFrom budget global program chars start count = .ok found) :
    found <+: allFrom program chars start := by
  rw [scanFrom_eq_clockedFrom, clockedFrom_eq_kept] at hscan
  rw [eq_of_kept hscan, completeFrom]
  split
  case isTrue => exact List.prefix_rfl
  case isFalse => exact List.take_prefix 1 _

/-- The records of a run come first in those of a complete scan. -/
theorem exists_completeScan_of_execute {pattern sample : Text} {flags : Flags}
    {budget : Budget} {records : List Record} (hpattern : pattern ≠ [])
    (hrun : execute pattern flags sample budget = .ok records) :
    ∃ expr all, CompleteScan expr sample all ∧ records <+: all := by
  obtain ⟨program, hcompile⟩ := exists_compile_of_execute hpattern hrun
  rw [execute_eq_scan hpattern hcompile, scan] at hrun
  split at hrun
  case h_1 => simp at hrun
  case h_2 found hfound =>
    obtain ⟨expr, _, _, rfl⟩ := compile_eq_ok hcompile
    let run := allFrom (.ofExpr expr) sample.toArray 0
    refine ⟨expr, run.map (.ofFound expr.captures sample),
      completeScan_of_scanned (scanned_allFrom 0), ?_⟩
    rw [← Except.ok.inj hrun]
    exact (prefix_allFrom_of_scanFrom hfound).map _

/-- The records of a run come in order and lie in the sample one behind the other. -/
theorem laid_of_execute {pattern sample : Text} {flags : Flags} {budget : Budget}
    {records : List Record}
    (hrun : execute pattern flags sample budget = .ok records) :
    inOrderOfStart records = records ∧ Laid 0 sample records := by
  by_cases hpattern : pattern = []
  · obtain rfl : records = [] := by
      rw [execute, hpattern] at hrun
      exact (Except.ok.inj hrun).symm
    exact ⟨List.mergeSort_nil, .nil 0 sample⟩
  · obtain ⟨expr, all, hscan, hfirst⟩ := exists_completeScan_of_execute hpattern hrun
    constructor
    · refine List.mergeSort_of_pairwise ((hscan.increasing.sublist
        hfirst.sublist).imp fun hlt => ?_)
      exact decide_eq_true (Nat.le_of_lt hlt)
    · have hwhole : sample = [] ++ sample := rfl
      refine laid_of_placed hwhole (fun _ _ => Nat.zero_le _)
        (hscan.apart.sublist hfirst.sublist) fun record hrecord => ?_
      obtain ⟨before, after, _, hsplit, hstart, _⟩ :=
        hscan.placed record (hfirst.subset hrecord)
      exact ⟨before, after, hsplit, hstart⟩

/-- The marked stretches of a run are its matches that are not empty, in order and
each at its offset, and the plain ones are what no match covers. -/
theorem highlight_of_execute {pattern sample : Text} {flags : Flags}
    {budget : Budget} {records : List Record}
    (hrun : execute pattern flags sample budget = .ok records) :
    placedStretches true 0 (highlight sample records) =
      (records.filter fun record => !record.matchedText.isEmpty).map
        (fun record => (record.startOffset, record.matchedText)) ∧
    placedStretches false 0 (highlight sample records) =
      uncovered (covers records) 0 sample := by
  obtain ⟨horder, hlaid⟩ := laid_of_execute hrun
  rw [inOrderOfStart] at horder
  rw [highlight, horder]
  exact ⟨hlaid.placedStretches_true, hlaid.placedStretches_false⟩

/-- A run with empty matches, a longer one and characters of two bytes. -/
theorem highlight_of_execute_stars :
    ∃ records,
      execute "#*".toList { global := true } "é##é".toList {} = .ok records ∧
      placedStretches true 0 (highlight "é##é".toList records) =
        (records.filter fun record => !record.matchedText.isEmpty).map
          (fun record => (record.startOffset, record.matchedText)) ∧
      placedStretches false 0 (highlight "é##é".toList records) =
        uncovered (covers records) 0 "é##é".toList := by
  have hrun : execute "#*".toList { global := true } "é##é".toList {} = _ :=
    execute_eq_scan (by simp) (compile_stars true)
  have hscanned : Scanned (.repeated 0 none true (.set (.single '#')))
      "é##é".toList.toArray 0 _ := scanned_allFrom 0
  have hlength := hscanned.length_le (Nat.zero_le _)
  have hchars : "é##é".toList.toArray.size = 4 := by decide
  have hmax : 5 ≤ ({} : Budget).maxMatches := by decide
  rw [scan, scanFrom_eq_allFrom (by decide) (by omega)] at hrun
  exact ⟨_, hrun, highlight_of_execute hrun⟩

end PatternWorkbench.Matching
