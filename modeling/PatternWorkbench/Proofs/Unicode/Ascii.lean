import Mathlib.Data.List.Nodup
import PatternWorkbench.Unicode.Character

/-!
# ASCII letters and digits

The tables of the standard have the ASCII letters and digits where they are
expected: among letters and numbers, and not among blanks.  No word character of
any script is a blank.  The set of a single character is laid out as one range.
-/

namespace PatternWorkbench.Unicode

theorem has_of_mem {table : RangeTable} {low high code : Nat}
    (hrange : (low, high) ∈ table) (hlow : low ≤ code) (hhigh : code ≤ high) :
    table.has code = true :=
  RangeTable.has_iff.2 ⟨(low, high), hrange, hlow, hhigh⟩

theorem anyHas_of_mem {tables : List RangeTable} {table : RangeTable} {code : Nat}
    (htable : table ∈ tables) (hhas : table.has code = true) :
    RangeTable.anyHas tables code = true :=
  List.any_eq_true.2 ⟨table, htable, hhas⟩

/-- The ASCII letters are in the tables of letters. -/
theorem has_of_isAlpha {c : Char} (halpha : c.isAlpha = true) :
    uppercaseLetter.has c.toNat = true ∨ lowercaseLetter.has c.toNat = true := by
  have hcases : (c.isUpper || c.isLower) = true := halpha
  rw [Bool.or_eq_true] at hcases
  rcases hcases with hupper | hlower
  · have hbounds : 0x41 ≤ c.toNat ∧ c.toNat ≤ 0x5A := of_decide_eq_true hupper
    have hrange : (0x41, 0x5A) ∈ uppercaseLetter := by decide
    exact Or.inl (has_of_mem hrange hbounds.1 hbounds.2)
  · have hboth : (decide (c.val ≥ 'a'.val) && decide (c.val ≤ 'z'.val)) = true := hlower
    rw [Bool.and_eq_true, decide_eq_true_eq, decide_eq_true_eq] at hboth
    have hbounds : 0x61 ≤ c.toNat ∧ c.toNat ≤ 0x7A := hboth
    have hrange : (0x61, 0x7A) ∈ lowercaseLetter := by decide
    exact Or.inr (has_of_mem hrange hbounds.1 hbounds.2)

/-- The ASCII digits are in the table of decimals. -/
theorem has_of_isDigit {c : Char} (hdigit : c.isDigit = true) :
    decimalNumber.has c.toNat = true := by
  have hbounds : 0x30 ≤ c.toNat ∧ c.toNat ≤ 0x39 := Char.isDigit_iff_toNat.1 hdigit
  have hrange : (0x30, 0x39) ∈ decimalNumber := by decide
  exact has_of_mem hrange hbounds.1 hbounds.2

theorem isAlphabetic_of_isAlpha {c : Char} (halpha : c.isAlpha = true) :
    isAlphabetic c = true := by
  rcases has_of_isAlpha halpha with hupper | hlower
  · exact anyHas_of_mem (by simp [alphabeticTables]) hupper
  · exact anyHas_of_mem (by simp [alphabeticTables]) hlower

theorem isAlphanumeric_of_isAlphanum {c : Char} (halphanum : c.isAlphanum = true) :
    isAlphanumeric c = true := by
  rw [Char.isAlphanum, Bool.or_eq_true] at halphanum
  rw [isAlphanumeric, Bool.or_eq_true]
  rcases halphanum with halpha | hdigit
  · exact Or.inl (isAlphabetic_of_isAlpha halpha)
  · exact Or.inr (anyHas_of_mem (by simp) (has_of_isDigit hdigit))

theorem isWord_of_isAlphanum {c : Char} (halphanum : c.isAlphanum = true) :
    isWord c = true := by
  rw [Char.isAlphanum, Bool.or_eq_true] at halphanum
  rw [isWord, CharSet.word, CharSet.mem_ofTables]
  rcases halphanum with halpha | hdigit
  · rcases has_of_isAlpha halpha with hupper | hlower
    · exact anyHas_of_mem (by simp [wordTables, alphabeticTables]) hupper
    · exact anyHas_of_mem (by simp [wordTables, alphabeticTables]) hlower
  · exact anyHas_of_mem (by simp [wordTables]) (has_of_isDigit hdigit)

/-- Among the ASCII characters the decimals are the digits. -/
theorem isDecimal_eq_isDigit {c : Char} (hascii : c.toNat < 0x80) :
    isDecimal c = c.isDigit := by
  have htable : ∀ range ∈ decimalNumber,
      range = ('0'.toNat, '9'.toNat) ∨ 0x80 ≤ range.1 := by decide
  rw [isDecimal, CharSet.decimal, CharSet.mem_ofTable, Bool.eq_iff_iff]
  constructor
  · intro hhas
    obtain ⟨range, hrange, hlow, hhigh⟩ := RangeTable.has_iff.1 hhas
    rcases htable range hrange with rfl | hbeyond
    · exact Char.isDigit_iff_toNat.2 ⟨hlow, hhigh⟩
    · omega
  · exact has_of_isDigit

theorem isBlank_eq_has (c : Char) : isBlank c = whiteSpace.has c.toNat := by
  rw [isBlank, CharSet.blank, CharSet.mem_ofTable]

theorem isBlank_of_isDigit {c : Char} (hdigit : c.isDigit = true) :
    isBlank c = false := by
  have hbounds : 0x30 ≤ c.toNat ∧ c.toNat ≤ 0x39 := Char.isDigit_iff_toNat.1 hdigit
  rw [isBlank_eq_has]
  simp only [whiteSpace, RangeTable.has_cons, RangeTable.has_nil, Bool.or_false,
    Bool.or_eq_false_iff, Bool.and_eq_false_iff, decide_eq_false_iff_not]
  omega

/-- The code points of a table as the bits of a number, to compare tables at once. -/
def RangeTable.bits (table : RangeTable) : Nat :=
  table.foldr (fun range bits => ((1 <<< (range.2 + 1 - range.1) - 1) <<< range.1) ||| bits) 0

/-- The bits of a table are its members. -/
theorem RangeTable.testBit_bits (table : RangeTable) (code : Nat) :
    table.bits.testBit code = table.has code := by
  induction table with
  | nil => exact Nat.zero_testBit code
  | cons range rest ih =>
      have hrange : ((1 <<< (range.2 + 1 - range.1) - 1) <<< range.1).testBit code =
          (decide (range.1 ≤ code) && decide (code ≤ range.2)) := by
        rw [Nat.testBit_shiftLeft, Nat.one_shiftLeft, Nat.testBit_two_pow_sub_one,
          Bool.eq_iff_iff]
        simp only [Bool.and_eq_true, decide_eq_true_eq, ge_iff_le]
        omega
      rw [bits, List.foldr_cons, Nat.testBit_or, hrange, has_cons, ← ih, bits]

/-- A table without bits from a bound on has smaller code points only. -/
theorem RangeTable.lt_of_has {table : RangeTable} {bound code : Nat}
    (hbound : table.bits >>> bound = 0) (hhas : table.has code = true) : code < bound := by
  rw [← Nat.not_le]
  intro hle
  obtain ⟨above, rfl⟩ := Nat.exists_eq_add_of_le hle
  rw [← testBit_bits, ← Nat.testBit_shiftRight, hbound, Nat.zero_testBit] at hhas
  contradiction

/-- Whether a table and some others have no code point in common. -/
def RangeTable.isApart (table : RangeTable) (others : List RangeTable) : Bool :=
  table.bits &&& bits others.flatten == 0

/-- Tables that are apart have no member in common. -/
theorem RangeTable.anyHas_eq_false {table : RangeTable} {others : List RangeTable}
    {code : Nat} (hapart : table.isApart others = true) (hhas : table.has code = true) :
    anyHas others code = false := by
  have hboth : (table.bits &&& bits others.flatten).testBit code = false := by
    rw [beq_iff_eq.1 hapart, Nat.zero_testBit]
  rwa [Nat.testBit_and, testBit_bits, testBit_bits, hhas, Bool.true_and, has_flatten] at hboth

/-- No blank of any script is a word character. -/
theorem not_isWord_of_isBlank {c : Char} (hblank : isBlank c = true) :
    isWord c = false := by
  have hapart : whiteSpace.isApart wordTables = true := by decide +kernel
  rw [isBlank_eq_has] at hblank
  rw [isWord, CharSet.word, CharSet.mem_ofTables]
  exact RangeTable.anyHas_eq_false hapart hblank

/-- No decimal of any script is alphabetic. -/
theorem not_isAlphabetic_of_isDecimal {c : Char} (hdecimal : isDecimal c = true) :
    isAlphabetic c = false := by
  have hapart : decimalNumber.isApart (alphabeticTables ++ [newcomerAlphabetic]) = true := by
    decide +kernel
  rw [isDecimal, CharSet.decimal, CharSet.mem_ofTable] at hdecimal
  exact RangeTable.anyHas_eq_false hapart hdecimal

/-- The separators of dates, times, addresses and paths are not word characters. -/
theorem not_isWord_of_separator {c : Char} (hc : c ∈ ['.', '/', ':', '-']) :
    isWord c = false := by
  have hapart : (RangeTable.isApart [(0x2D, 0x2F), (0x3A, 0x3A)] wordTables) = true := by
    decide +kernel
  have hall : ['.', '/', ':', '-'].all
      (fun c => RangeTable.has [(0x2D, 0x2F), (0x3A, 0x3A)] c.toNat) = true := by decide
  rw [isWord, CharSet.word, CharSet.mem_ofTables]
  exact RangeTable.anyHas_eq_false hapart (List.all_eq_true.1 hall c hc)

theorem not_isDecimal_of_isBlank {c : Char} (hblank : isBlank c = true) :
    isDecimal c = false := by
  rw [← Bool.not_eq_true]
  intro hdecimal
  have hword := isWord_of_isDecimal hdecimal
  rw [not_isWord_of_isBlank hblank] at hword
  contradiction

/-- A complement can be read off any list that has the ranges and the surrogates in
order. -/
theorem RangeTable.complement_eq_gapsFrom {table inOrder : RangeTable}
    (hranges : List.Perm (surrogates :: table) inOrder)
    (horder : inOrder.Pairwise fun left right => left.1 < right.1) :
    complement table = gapsFrom 0 inOrder := by
  have hsorted : ((surrogates :: table).mergeSort beginsBy).Pairwise fun left right =>
      left.1 ≤ right.1 := by
    refine (List.pairwise_mergeSort ?_ ?_ (surrogates :: table)).imp of_decide_eq_true
    · simp only [decide_eq_true_eq]
      omega
    · simp only [Bool.or_eq_true, decide_eq_true_eq]
      omega
  have hperm := (List.mergeSort_perm (surrogates :: table) beginsBy).trans hranges
  have hapart : (inOrder.map Prod.fst).Nodup :=
    List.pairwise_map.2 (horder.imp Nat.ne_of_lt)
  have hsame : (surrogates :: table).mergeSort beginsBy = inOrder :=
    hperm.eq_of_pairwise (fun left right hleft hright hle hge =>
      List.inj_on_of_nodup_map hapart (hperm.mem_iff.1 hleft) hright
        (Nat.le_antisymm hle hge)) hsorted (horder.imp Nat.le_of_lt)
  rw [complement, hsame]

theorem RangeTable.complement_single {code : Nat} (hpos : 0 < code) (hlt : code < 0xD7FF) :
    complement [(code, code)] = [(0, code - 1), (code + 1, 0xD7FF), (0xE000, last)] := by
  have hranges : List.Perm [surrogates, (code, code)] [(code, code), surrogates] := .swap ..
  have horder : [(code, code), surrogates].Pairwise fun left right => left.1 < right.1 := by
    simp [surrogates]
    omega
  have hgap : code + 1 < 0xD800 := by omega
  rw [complement_eq_gapsFrom hranges horder]
  simp [gapsFrom, surrogates, last, hpos, hgap]

theorem RangeTable.complement_around {code : Nat} (hpos : 0 < code) (hlt : code < 0xD7FF) :
    complement [(0, code - 1), (code + 1, 0xD7FF), (0xE000, last)] = [(code, code)] := by
  have hranges : List.Perm
      [surrogates, (0, code - 1), (code + 1, 0xD7FF), (0xE000, last)]
      [(0, code - 1), (code + 1, 0xD7FF), surrogates, (0xE000, last)] :=
    .trans (.swap ..) (.cons _ (.swap ..))
  have horder : [(0, code - 1), (code + 1, 0xD7FF), surrogates, (0xE000, last)].Pairwise
      fun left right => left.1 < right.1 := by
    simp [surrogates]
    omega
  have hgap : code - 1 + 1 = code := by omega
  have hnext : max (code + 1) 0xD800 = 0xD800 := by omega
  rw [complement_eq_gapsFrom hranges horder]
  simp [gapsFrom, surrogates, last, hgap, hnext]

/-- The set of one character is laid out as one range, if it stands between the very first
character and the surrogates. -/
theorem CharSet.ranges_single {c : Char} (hpos : 0 < c.toNat) (hlt : c.toNat < 0xD7FF) :
    (CharSet.single c).ranges = [(c.toNat, c.toNat)] := by
  rw [CharSet.single, CharSet.range, CharSet.ofTable, RangeTable.complement_single hpos hlt]
  exact RangeTable.complement_around hpos hlt

theorem CharSet.single?_single {c : Char} (hpos : 0 < c.toNat) (hlt : c.toNat < 0xD7FF) :
    (CharSet.single c).single? = some c := by
  rw [CharSet.single?, CharSet.ranges_single hpos hlt]
  simp only [if_true, Char.ofNat_toNat]

end PatternWorkbench.Unicode
