import PatternWorkbench.Proofs.Unicode.Ascii

/-!
# Characters without case

No blank and no quotation mark differs from another character by case only, so a
class made of them stays what it is when case is ignored.
-/

namespace PatternWorkbench.Unicode

/-- A blank or a quotation mark. -/
def isGap (c : Char) : Bool :=
  isBlank c || c == '"'

def gaps : RangeTable :=
  whiteSpace ++ [(0x22, 0x22), (0xD800, 0xDFFF)]

def cased : RangeTable :=
  caseOrbits.flatten.map fun code => (code, code)

/-- Every member of an orbit is among the code points that have a case. -/
theorem has_cased {orbit : List Nat} {code : Nat} (horbit : orbit ∈ caseOrbits)
    (hcode : code ∈ orbit) : cased.has code = true :=
  has_of_mem (List.mem_map.2 ⟨code, List.mem_flatten_of_mem horbit hcode, rfl⟩)
    (Nat.le_refl code) (Nat.le_refl code)

/-- Every code point with a case variant is a character and not a gap. -/
theorem not_isGap_of_mem_orbit {orbit : List Nat} {code : Nat}
    (horbit : orbit ∈ caseOrbits) (hcode : code ∈ orbit) :
    ∃ c : Char, c.toNat = code ∧ isGap c = false := by
  obtain ⟨hapart, hbound⟩ :
      cased.isApart [gaps] = true ∧ cased.bits >>> 0x110000 = 0 := by decide +kernel
  have hhas := has_cased horbit hcode
  have hgaps := RangeTable.anyHas_eq_false hapart hhas
  simp only [RangeTable.anyHas, List.any_cons, List.any_nil, Bool.or_false, gaps,
    RangeTable.has_append, RangeTable.has_cons, RangeTable.has_nil, Bool.or_eq_false_iff,
    Bool.and_eq_false_iff, decide_eq_false_iff_not] at hgaps
  obtain ⟨hblank, hquote, hsurrogate⟩ := hgaps
  have hlow := RangeTable.lt_of_has hbound hhas
  have hvalid : code.isValidChar := by
    unfold Nat.isValidChar
    omega
  have hsame : (Char.ofNat code).toNat = code := by
    rw [Char.ofNat, dif_pos hvalid]
    rfl
  refine ⟨Char.ofNat code, hsame, ?_⟩
  rw [isGap, isBlank_eq_has, hsame, hblank, Bool.false_or, beq_eq_false_iff_ne]
  intro heq
  rw [heq] at hsame
  have hcode : code = 0x22 := hsame.symm
  omega

/-- Ignoring case adds nothing to a set of gaps. -/
theorem CharSet.mem_folded_of_isGap {set : CharSet}
    (hgap : ∀ c, set.mem c = true → isGap c = true) (c : Char) :
    set.folded.mem c = set.mem c := by
  rw [Bool.eq_iff_iff, mem_folded]
  constructor
  · rintro (hmem | ⟨orbit, horbit, _, hmeets⟩)
    · exact hmem
    · obtain ⟨code, hcode, hhas⟩ := List.any_eq_true.1 hmeets
      obtain ⟨d, rfl, hnot⟩ := not_isGap_of_mem_orbit horbit hcode
      have := hgap d (by rwa [mem_eq_has])
      rw [hnot] at this
      contradiction
  · exact Or.inl

end PatternWorkbench.Unicode
