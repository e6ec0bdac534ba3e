import PatternWorkbench.Text

/-!
# Lines of a text

The lines of a text are what stands between its line feeds.  Joined rows show
their lines one below the other, so rows without a line feed can be told from the
joined text.
-/

namespace PatternWorkbench

/-! ## Breaking a text -/

/-- A line ends at the first line feed or with the text. -/
theorem breakLine_eq (text : Text) :
    '\n' ∉ (breakLine text).1 ∧
      text = (breakLine text).1 ++ (breakLine text).2.elim [] ('\n' :: ·) := by
  induction text with
  | nil => simp [breakLine]
  | cons c rest ih =>
      rw [breakLine]
      split
      case isTrue hfeed => simp [hfeed]
      case isFalse hfeed =>
        obtain ⟨hline, hwhole⟩ := ih
        refine ⟨?_, congrArg (c :: ·) hwhole⟩
        rw [List.mem_cons, not_or]
        exact ⟨Ne.symm hfeed, hline⟩

theorem lines_eq_splitOn (text : Text) : lines text = text.splitOn '\n' := by
  fun_induction lines text with
  | case1 text line hbroken =>
      obtain ⟨hline, hwhole⟩ := breakLine_eq text
      rw [hbroken] at hline hwhole
      rw [hwhole, Option.elim_none, List.append_nil, List.splitOn_eq_singleton hline]
  | case2 text line rest hbroken ih =>
      obtain ⟨hline, hwhole⟩ := breakLine_eq text
      rw [hbroken] at hline hwhole
      rw [hwhole, ih, Option.elim_some, List.splitOn_append_cons_self_of_not_mem hline]

theorem lines_ne_nil (text : Text) : lines text ≠ [] := by
  rw [lines_eq_splitOn]
  exact List.splitOn_ne_nil _ _

/-- What has no line feed stands at the beginning of the first line. -/
theorem lines_append {before : Text} (hbefore : '\n' ∉ before) (after : Text) :
    lines (before ++ after) = (lines after).modifyHead (before ++ ·) := by
  rw [lines_eq_splitOn, lines_eq_splitOn]
  induction before with
  | nil => exact (congrFun List.modifyHead_id _).symm
  | cons c before ih =>
      rw [List.mem_cons, not_or] at hbefore
      rw [List.cons_append, List.splitOn_cons_eq_if_modifyHead, ih hbefore.2,
        if_neg (by simpa using Ne.symm hbefore.1), List.modifyHead_modifyHead]
      rfl

/-- There is one line more than there are line feeds. -/
theorem length_lines (text : Text) : (lines text).length = text.count '\n' + 1 := by
  rw [lines_eq_splitOn]
  induction text with
  | nil => rfl
  | cons c rest ih =>
      rw [List.splitOn_cons_eq_if_modifyHead, List.count_cons]
      split
      case isTrue => rw [List.length_cons, ih]
      case isFalse => rw [List.length_modifyHead, ih, Nat.add_zero]

/-! ## Joining rows -/

/-- Joining rows and breaking the outcome gives the lines of each row, one row after the
other. -/
theorem lines_joinLines {rows : List Text} (hne : rows ≠ []) :
    lines (joinLines rows) = rows.flatMap lines := by
  simp only [funext lines_eq_splitOn]
  induction rows with
  | nil => contradiction
  | cons row rows ih =>
      cases rows with
      | nil => simp [joinLines]
      | cons next later =>
          have hlater := List.cons_ne_nil next later
          rw [joinLines, List.intercalate_cons_of_ne_nil hlater, List.append_assoc,
            List.singleton_append, List.splitOn_append_cons_self, ← joinLines, ih hlater,
            ← List.flatMap_cons]

/-- Rows without a line feed are the lines of the joined text. -/
theorem lines_joinLines_of_notMem {rows : List Text} (hne : rows ≠ [])
    (hrows : ∀ row ∈ rows, '\n' ∉ row) : lines (joinLines rows) = rows := by
  rw [lines_eq_splitOn]
  exact List.splitOn_intercalate _ hrows hne

/-- Rows that show something and have no line feed. -/
def AreRows (rows : List Text) : Prop :=
  ∀ row ∈ rows, row ≠ [] ∧ '\n' ∉ row

theorem AreRows.joinLines_eq_nil_iff {rows : List Text} (hrows : AreRows rows) :
    joinLines rows = [] ↔ rows = [] := by
  constructor
  · intro hnil
    cases rows with
    | nil => rfl
    | cons row later =>
        have hlines := lines_joinLines_of_notMem (List.cons_ne_nil row later)
          fun row hrow => (hrows row hrow).2
        rw [hnil, lines_eq_splitOn, List.splitOn_nil] at hlines
        exact absurd (List.cons.inj hlines).1.symm (hrows row List.mem_cons_self).1
  · rintro rfl
    rfl

/-- Rows can be told from the joined text. -/
theorem AreRows.eq_of_joinLines {left right : List Text} (hleft : AreRows left)
    (hright : AreRows right) (heq : joinLines left = joinLines right) : left = right := by
  by_cases hnil : joinLines left = []
  · rw [hleft.joinLines_eq_nil_iff.1 hnil, hright.joinLines_eq_nil_iff.1 (heq ▸ hnil)]
  · have hne : left ≠ [] := mt hleft.joinLines_eq_nil_iff.2 hnil
    have hne' : right ≠ [] := mt hright.joinLines_eq_nil_iff.2 (heq ▸ hnil)
    rw [← lines_joinLines_of_notMem hne fun row hrow => (hleft row hrow).2, heq,
      lines_joinLines_of_notMem hne' fun row hrow => (hright row hrow).2]

end PatternWorkbench
