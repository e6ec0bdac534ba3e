/-!
# Tables of code point ranges

A property of characters is given by closed ranges of code points. The ranges of
a table may come in any order and may overlap; the complement of a table always
lists its ranges in order and apart, so taking it twice puts a table in order.
-/

namespace PatternWorkbench.Unicode

abbrev RangeTable := List (Nat × Nat)

namespace RangeTable

/-- Whether some range of the table holds the code point. -/
def has (table : RangeTable) (code : Nat) : Bool :=
  table.any fun (low, high) => low ≤ code && code ≤ high

@[simp]
theorem has_nil (code : Nat) : has [] code = false := rfl

theorem has_cons (low high code : Nat) (rest : RangeTable) :
    has ((low, high) :: rest) code =
      ((decide (low ≤ code) && decide (code ≤ high)) || has rest code) := rfl

@[simp]
theorem has_append (table other : RangeTable) (code : Nat) :
    has (table ++ other) code = (has table code || has other code) := by
  simp [has]

/-- Whether one of several tables has the code point. -/
def anyHas (tables : List RangeTable) (code : Nat) : Bool :=
  tables.any fun table => has table code

theorem has_flatten (tables : List RangeTable) (code : Nat) :
    has tables.flatten code = anyHas tables code := by
  simp [has, anyHas, List.any_flatten]

/-- A code is in a table if one of its ranges holds it. -/
theorem has_iff {table : RangeTable} {code : Nat} :
    has table code = true ↔ ∃ range ∈ table, range.1 ≤ code ∧ code ≤ range.2 := by
  simp [has]

/-- The ranges come in increasing order and do not overlap. -/
def Ordered : RangeTable → Prop
  | [] => True
  | (low, high) :: rest =>
    low ≤ high ∧ (∀ range ∈ rest, high < range.1) ∧ Ordered rest

/-- Membership in an ordered table: the scan stops at the first range above the
code point. -/
def covers : RangeTable → Nat → Bool
  | [], _ => false
  | (low, high) :: rest, code =>
    if code < low then false else code ≤ high || covers rest code

/-- In an ordered table nothing is missed when the scan stops. -/
theorem covers_eq_has {table : RangeTable} (hordered : Ordered table)
    (code : Nat) : covers table code = has table code := by
  induction table with
  | nil => rfl
  | cons range rest ih =>
      obtain ⟨low, high⟩ := range
      obtain ⟨hbounds, hapart, hrest⟩ := hordered
      rw [covers, has_cons, ih hrest]
      by_cases hbelow : code < low
      · have hnone : has rest code = false := by
          rw [has, List.any_eq_false]
          intro other hother
          have hhigh := hapart other hother
          simp
          omega
        simp [hbelow, hnone, Nat.not_le.2 hbelow]
      · simp [hbelow, Nat.not_lt.1 hbelow]

/-- The highest code point there is. -/
def last : Nat := 0x10FFFF

/-- The code points that stand for no character. -/
def surrogates : Nat × Nat := (0xD800, 0xDFFF)

/-- What the ranges of a table leave over from `next` on, the table being sorted
by where its ranges begin. -/
def gapsFrom (next : Nat) : RangeTable → RangeTable
  | [] => if next ≤ last then [(next, last)] else []
  | (low, high) :: rest =>
    if next < low then (next, low - 1) :: gapsFrom (max low (high + 1)) rest
    else gapsFrom (max next (high + 1)) rest

def beginsBy (left right : Nat × Nat) : Bool :=
  left.1 ≤ right.1

/-- The characters outside a table, which may list its ranges in any order. -/
def complement (table : RangeTable) : RangeTable :=
  gapsFrom 0 ((surrogates :: table).mergeSort beginsBy)

/-- The gaps of a sorted table hold what none of its ranges holds. -/
theorem has_gapsFrom {table : RangeTable}
    (hsorted : table.Pairwise fun left right => left.1 ≤ right.1)
    {code : Nat} (hlast : code ≤ last) (next : Nat) :
    has (gapsFrom next table) code = true ↔
      next ≤ code ∧ has table code = false := by
  induction table generalizing next with
  | nil =>
      unfold gapsFrom
      split
      · simp [has_cons, has_nil, hlast]
      · simp [has_nil]
        omega
  | cons range rest ih =>
      obtain ⟨low, high⟩ := range
      obtain ⟨hearliest, hrest⟩ := List.pairwise_cons.1 hsorted
      have hlater : code < low → has rest code = false := by
        intro hbelow
        rw [has, List.any_eq_false]
        intro other hother
        have hlow := hearliest other hother
        simp only at hlow
        simp
        omega
      unfold gapsFrom
      split
      · rw [has_cons, has_cons, Bool.or_eq_true, ih hrest]
        by_cases hbelow : code < low
        · simp [hlater hbelow]
          omega
        · cases has rest code <;> simp <;> omega
      · rw [has_cons, ih hrest]
        cases has rest code
        · simp
          omega
        · simp

/-- Gaps come in order, whatever the table. -/
theorem ordered_gapsFrom (next : Nat) (table : RangeTable) :
    Ordered (gapsFrom next table) ∧ ∀ range ∈ gapsFrom next table, next ≤ range.1 := by
  induction table generalizing next with
  | nil =>
      unfold gapsFrom
      split <;> simp_all [Ordered]
  | cons range rest ih =>
      obtain ⟨low, high⟩ := range
      unfold gapsFrom
      split
      · obtain ⟨hordered, hbound⟩ := ih (max low (high + 1))
        refine ⟨⟨by omega, fun range hrange => ?_, hordered⟩, fun range hrange => ?_⟩
        · have hlow := hbound range hrange
          omega
        · rcases List.mem_cons.1 hrange with rfl | hlater
          · exact Nat.le_refl _
          · have hlow := hbound range hlater
            omega
      · obtain ⟨hordered, hbound⟩ := ih (max next (high + 1))
        exact ⟨hordered, fun range hrange => by have := hbound range hrange; omega⟩

/-- The complement of a table is in order, however the table is written. -/
theorem ordered_complement (table : RangeTable) : Ordered (complement table) :=
  (ordered_gapsFrom _ _).1

theorem has_mergeSort (table : RangeTable) (code : Nat) :
    has (table.mergeSort beginsBy) code = has table code := by
  rw [Bool.eq_iff_iff, has_iff, has_iff]
  simp

/-- The complement has the characters that the table has not. -/
theorem has_complement {code : Nat} (hlast : code ≤ last)
    (hcharacter : has [surrogates] code = false) (table : RangeTable) :
    has (complement table) code = !has table code := by
  have hsorted : ((surrogates :: table).mergeSort beginsBy).Pairwise
      fun left right => beginsBy left right :=
    List.pairwise_mergeSort
      (fun _ _ _ => by simp only [beginsBy, decide_eq_true_eq]; omega)
      (fun _ _ => by
        simp only [beginsBy, Bool.or_eq_true, decide_eq_true_eq]
        omega)
      (surrogates :: table)
  rw [Bool.eq_iff_iff, complement,
    has_gapsFrom (hsorted.imp fun h => by simpa [beginsBy] using h) hlast,
    has_mergeSort]
  have hsplit : has (surrogates :: table) code =
      (has [surrogates] code || has table code) := by
    rw [← has_append]; rfl
  simp [hsplit, hcharacter]

end RangeTable
end PatternWorkbench.Unicode
