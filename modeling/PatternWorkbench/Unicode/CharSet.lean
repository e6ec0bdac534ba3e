import PatternWorkbench.Unicode.CaseOrbit
import PatternWorkbench.Unicode.Roster

/-!
# Sets of characters

A set keeps its members as ranges in order and apart, so equal sets are written
alike. Each operation is pinned down by what it makes of membership.
-/

namespace PatternWorkbench.Unicode

structure CharSet where
  ranges : RangeTable
  ordered : RangeTable.Ordered ranges
  deriving DecidableEq, Repr

/-- A character is a code point. -/
theorem toNat_le_last (c : Char) : c.toNat ≤ RangeTable.last := by
  simp only [Char.toNat, RangeTable.last]
  rcases c.valid with hsmall | hlarge <;> omega

/-- A character is never a surrogate, so complements may leave the surrogates out. -/
theorem not_surrogate (c : Char) :
    RangeTable.has [RangeTable.surrogates] c.toNat = false := by
  have hvalue : c.toNat = c.val.toNat := rfl
  simp only [RangeTable.surrogates, RangeTable.has_cons, RangeTable.has_nil,
    Bool.or_false, Bool.and_eq_false_iff, decide_eq_false_iff_not]
  rcases c.valid with hsmall | hlarge <;> omega

namespace CharSet

def mem (set : CharSet) (c : Char) : Bool :=
  set.ranges.covers c.toNat

/-- The set of the characters that a table has not. -/
def ofOutside (table : RangeTable) : CharSet :=
  ⟨table.complement, RangeTable.ordered_complement table⟩

def ofTable (table : RangeTable) : CharSet :=
  ofOutside table.complement

def compl (set : CharSet) : CharSet :=
  ofOutside set.ranges

def union (left right : CharSet) : CharSet :=
  ofTable (left.ranges ++ right.ranges)

def inter (left right : CharSet) : CharSet :=
  ofOutside (left.ranges.complement ++ right.ranges.complement)

def diff (left right : CharSet) : CharSet :=
  ofOutside (left.ranges.complement ++ right.ranges)

def symmDiff (left right : CharSet) : CharSet :=
  union (diff left right) (diff right left)

def empty : CharSet := ofTable []

def range (low high : Char) : CharSet :=
  ofTable [(low.toNat, high.toNat)]

def single (c : Char) : CharSet :=
  range c c

def any : CharSet := ofOutside []

def ofTables (tables : List RangeTable) : CharSet :=
  ofTable tables.flatten

def ofRoster (roster : Roster) : CharSet :=
  union (diff (ofTables roster.sources) (ofTables roster.exceptions))
    (ofTables roster.additions)

def allBut (c : Char) : CharSet :=
  compl (single c)

/-- The set with every character that equals a member up to case. -/
def folded (set : CharSet) : CharSet :=
  ofTable (set.ranges ++ caseMates set.ranges)

def negating (negated : Bool) (set : CharSet) : CharSet :=
  if negated then compl set else set

/-- The member of a set that has no other. -/
def single? (set : CharSet) : Option Char :=
  match set.ranges with
  | [(low, high)] => if low = high then some (Char.ofNat low) else none
  | _ => none

def isAscii (set : CharSet) : Bool :=
  set.ranges.all fun (_, high) => high < 0x80

/-- How many members there are. -/
def size (set : CharSet) : Nat :=
  set.ranges.foldr (fun (low, high) count => high + 1 - low + count) 0

/-- The members in order. -/
def toList (set : CharSet) : List Char :=
  set.ranges.flatMap fun (low, high) =>
    (List.range' low (high + 1 - low)).map Char.ofNat

/-- The ranges of a set are in order, so the scan for a member may stop early. -/
theorem mem_eq_has (set : CharSet) (c : Char) :
    set.mem c = set.ranges.has c.toNat :=
  RangeTable.covers_eq_has set.ordered c.toNat

/-- Every code point of a character is in a table or outside of it. -/
@[simp]
theorem mem_ofOutside (table : RangeTable) (c : Char) :
    (ofOutside table).mem c = !table.has c.toNat := by
  rw [mem_eq_has]
  exact RangeTable.has_complement (toNat_le_last c) (not_surrogate c) table

theorem has_complement_toNat (table : RangeTable) (c : Char) :
    table.complement.has c.toNat = !table.has c.toNat :=
  RangeTable.has_complement (toNat_le_last c) (not_surrogate c) table

@[simp]
theorem mem_ofTable (table : RangeTable) (c : Char) :
    (ofTable table).mem c = table.has c.toNat := by
  simp [ofTable, has_complement_toNat]

@[simp]
theorem mem_compl (set : CharSet) (c : Char) : set.compl.mem c = !set.mem c := by
  simp [compl, mem_eq_has set]

@[simp]
theorem mem_union (left right : CharSet) (c : Char) :
    (left.union right).mem c = (left.mem c || right.mem c) := by
  simp [union, mem_eq_has left, mem_eq_has right]

@[simp]
theorem mem_inter (left right : CharSet) (c : Char) :
    (left.inter right).mem c = (left.mem c && right.mem c) := by
  simp [inter, mem_eq_has left, mem_eq_has right, has_complement_toNat]

@[simp]
theorem mem_diff (left right : CharSet) (c : Char) :
    (left.diff right).mem c = (left.mem c && !right.mem c) := by
  simp [diff, mem_eq_has left, mem_eq_has right, has_complement_toNat]

@[simp]
theorem mem_symmDiff (left right : CharSet) (c : Char) :
    (left.symmDiff right).mem c = (left.mem c != right.mem c) := by
  rw [symmDiff, mem_union, mem_diff, mem_diff]
  cases left.mem c <;> cases right.mem c <;> rfl

@[simp]
theorem mem_range (low high c : Char) :
    (range low high).mem c = (low ≤ c && c ≤ high) := by
  have hlow : low ≤ c ↔ low.toNat ≤ c.toNat := Iff.rfl
  have hhigh : c ≤ high ↔ c.toNat ≤ high.toNat := Iff.rfl
  simp [range, RangeTable.has_cons, hlow, hhigh]

@[simp]
theorem mem_single (c d : Char) : (single c).mem d = (d == c) := by
  rw [single, mem_range, Bool.eq_iff_iff]
  constructor
  · intro hbounds
    rw [Bool.and_eq_true, decide_eq_true_eq, decide_eq_true_eq] at hbounds
    exact beq_iff_eq.2 (Char.le_antisymm hbounds.2 hbounds.1)
  · intro heq
    simp [beq_iff_eq.1 heq]

@[simp]
theorem mem_empty (c : Char) : empty.mem c = false := by
  simp [empty]

@[simp]
theorem mem_any (c : Char) : any.mem c = true := by
  simp [any]

/-- The members of a union of tables are those of any of them. -/
@[simp]
theorem mem_ofTables (tables : List RangeTable) (c : Char) :
    (ofTables tables).mem c = RangeTable.anyHas tables c.toNat := by
  simp [ofTables, RangeTable.has_flatten]

@[simp]
theorem mem_ofRoster (roster : Roster) (c : Char) :
    (ofRoster roster).mem c = roster.has c.toNat := by
  simp [ofRoster, Roster.has]

@[simp]
theorem mem_allBut (c d : Char) : (allBut c).mem d = !(d == c) := by
  simp [allBut]

/-- A folded set has its members and the characters of every case orbit that
meets it. -/
theorem mem_folded {set : CharSet} {c : Char} :
    set.folded.mem c = true ↔
      set.mem c = true ∨
        ∃ orbit ∈ caseOrbits, c.toNat ∈ orbit ∧
          orbit.any set.ranges.has = true := by
  simp [folded, mem_eq_has set, has_caseMates]

end CharSet

end PatternWorkbench.Unicode
