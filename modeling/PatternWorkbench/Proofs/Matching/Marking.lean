import Mathlib.Data.List.Sort
import PatternWorkbench.Proofs.Matching.Highlighting

/-!
# Which records are marked

Only records that describe the sample count.  Behind any cursor the one that
starts first is marked next, and of those that start together the first in the
list.  So the stretches depend on nothing but the first describing record at
each byte.
-/

namespace PatternWorkbench.Matching

/-- The record is not empty, and its text is what the sample has between its
offsets. -/
def Record.describes (sample : Text) (record : Record) : Bool :=
  record.matchedText != [] &&
    sliceBytes? sample record.startOffset record.endOffset == some record.matchedText

theorem Record.describes_iff {sample : Text} {record : Record} :
    record.describes sample = true ↔ record.matchedText ≠ [] ∧ ∃ before after,
      sample = before ++ record.matchedText ++ after ∧
        byteLength before = record.startOffset := by
  rw [describes, Bool.and_eq_true, bne_iff_ne, beq_iff_eq, sliceBytes?_eq_some_iff]
  simp [endOffset]

theorem Record.startOffset_lt_endOffset {record : Record} (hnonempty : record.matchedText ≠ []) :
    record.startOffset < record.endOffset := by
  have hwidth : byteLength record.matchedText ≠ 0 := by
    rwa [ne_eq, byteLength_eq_zero_iff]
  rw [endOffset]
  omega

/-! ## The order in which records are looked at -/

def IsOrdered (records : List Record) : Prop :=
  records.Pairwise fun left right => left.startOffset ≤ right.startOffset

theorem isOrdered_inOrderOfStart (records : List Record) :
    IsOrdered (inOrderOfStart records) := by
  have hsorted : (inOrderOfStart records).Pairwise fun left right =>
      decide (left.startOffset ≤ right.startOffset) = true :=
    List.pairwise_mergeSort (by simpa using fun _ _ _ => Nat.le_trans)
      (by simpa using fun _ _ => Nat.le_total _ _) records
  simpa only [decide_eq_true_eq, IsOrdered] using hsorted

/-- Records that start together keep their order. -/
theorem filter_inOrderOfStart (records : List Record) (offset : Nat) :
    (inOrderOfStart records).filter (·.startOffset == offset) =
      records.filter (·.startOffset == offset) := by
  have hpairwise : (records.filter (·.startOffset == offset)).Pairwise
      fun left right => decide (left.startOffset ≤ right.startOffset) = true := by
    refine List.pairwise_of_forall_mem_list fun left hleft right hright => ?_
    simp only [List.mem_filter, beq_iff_eq] at hleft hright
    simp [hleft.2, hright.2]
  have hsublist :
      (records.filter (·.startOffset == offset)).Sublist (inOrderOfStart records) :=
    List.sublist_mergeSort (by simpa using fun _ _ _ => Nat.le_trans)
      (by simpa using fun _ _ => Nat.le_total _ _) hpairwise List.filter_sublist
  have hkept := hsublist.filter (·.startOffset == offset)
  rw [List.filter_filter] at hkept
  simp only [Bool.and_self] at hkept
  have hperm : (inOrderOfStart records).Perm records := List.mergeSort_perm _ _
  exact (hkept.eq_of_length (hperm.filter _).length_eq.symm).symm

/-! ## Leading records -/

/-- The first describing record that starts at a byte. -/
def lead? (sample : Text) (offset : Nat) (records : List Record) : Option Record :=
  (records.filter (·.startOffset == offset)).find? (·.describes sample)

/-- The first describing record that does not start before the cursor. -/
def next? (sample : Text) (cursor : Nat) (records : List Record) : Option Record :=
  records.find? fun record => record.describes sample && cursor ≤ record.startOffset

section Leading

variable {sample : Text} {cursor offset : Nat} {left right records : List Record}
  {record : Record}

theorem of_lead? (hlead : lead? sample offset records = some record) :
    record ∈ records ∧ record.describes sample = true ∧ record.startOffset = offset := by
  have hmem := List.mem_of_find?_eq_some hlead
  rw [List.mem_filter, beq_iff_eq] at hmem
  exact ⟨hmem.1, List.find?_some hlead, hmem.2⟩

theorem of_next? (hnext : next? sample cursor records = some record) :
    record ∈ records ∧ record.describes sample = true ∧ cursor ≤ record.startOffset := by
  have hfound := List.find?_some hnext
  rw [Bool.and_eq_true, decide_eq_true_eq] at hfound
  exact ⟨List.mem_of_find?_eq_some hnext, hfound⟩

/-- Among the records that start where it does, the next one leads. -/
theorem lead?_of_next? (hnext : next? sample cursor records = some record) :
    lead? sample record.startOffset records = some record := by
  obtain ⟨-, hdescribes, hcursor⟩ := of_next? hnext
  obtain ⟨-, earlier, later, rfl, hearlier⟩ := List.find?_eq_some_iff_append.1 hnext
  rw [lead?, List.find?_filter]
  refine List.find?_eq_some_iff_append.2 ⟨by simp [hdescribes], earlier, later, rfl, ?_⟩
  intro other hother
  have hnot := hearlier other hother
  simp only [Bool.not_eq_true', Bool.and_eq_false_iff, decide_eq_false_iff_not] at hnot
  simp only [beq_iff_eq, Bool.not_eq_true', decide_eq_false_iff_not, not_and]
  intro hstart
  rcases hnot with hnot | hnot
  · simp [hnot]
  · omega

/-- In order, the next record starts first among those that come into question. -/
theorem startOffset_le_of_next? (hordered : IsOrdered records)
    (hnext : next? sample cursor records = some record) {other : Record}
    (hother : other ∈ records) (hdescribes : other.describes sample = true)
    (hcursor : cursor ≤ other.startOffset) : record.startOffset ≤ other.startOffset := by
  obtain ⟨-, earlier, later, rfl, hearlier⟩ := List.find?_eq_some_iff_append.1 hnext
  have hlater := List.pairwise_cons.1 (List.pairwise_append.1 hordered).2.1
  rcases List.mem_append.1 hother with hother | hother
  · simpa [hdescribes, hcursor] using hearlier other hother
  · rcases List.mem_cons.1 hother with rfl | hother
    · exact Nat.le_refl _
    · exact hlater.1 other hother

/-- Two ordered lists with the same leading records have the same next one, wherever the
cursor is. -/
theorem next?_of_lead? (hleft : IsOrdered left) (hright : IsOrdered right)
    (hlead : ∀ offset, lead? sample offset left = lead? sample offset right)
    (hnext : next? sample cursor left = some record) :
    next? sample cursor right = some record := by
  have hrecord := lead?_of_next? hnext
  obtain ⟨-, -, hcursor⟩ := of_next? hnext
  obtain ⟨hmem, hdescribes, -⟩ := of_lead? ((hlead _).symm.trans hrecord)
  cases hother : next? sample cursor right with
  | none =>
      have hnone := List.find?_eq_none.1 hother record hmem
      simp [hdescribes, hcursor] at hnone
  | some other =>
      -- Both lists have both records, so neither starts before the other.
      have hle := startOffset_le_of_next? hright hother hmem hdescribes hcursor
      have hlead' := (hlead _).trans (lead?_of_next? hother)
      obtain ⟨hmem', hdescribes', -⟩ := of_lead? hlead'
      have hge := startOffset_le_of_next? hleft hnext hmem' hdescribes' (of_next? hother).2.2
      rw [Nat.le_antisymm hle hge, hrecord] at hlead'
      exact hlead'.symm

theorem next?_congr (hleft : IsOrdered left) (hright : IsOrdered right)
    (hlead : ∀ offset, lead? sample offset left = lead? sample offset right) :
    next? sample cursor left = next? sample cursor right := by
  refine Option.ext fun record => ⟨next?_of_lead? hleft hright hlead, ?_⟩
  exact next?_of_lead? hright hleft fun offset => (hlead offset).symm

end Leading

/-! ## Marking the next record -/

namespace Highlight

variable {sample passed rest : Text} {cursor : Nat} {record : Record}
  {left right records : List Record}

/-- The records that have a place behind a cursor are those that describe the
sample and do not start before the cursor. -/
theorem exists_place?_iff (hsample : sample = passed ++ rest) :
    (∃ before after, place? (byteLength passed) rest record = some (before, after)) ↔
      record.describes sample = true ∧ byteLength passed ≤ record.startOffset := by
  simp only [place?_eq_some_iff, Record.describes_iff]
  constructor
  · rintro ⟨before, after, hnonempty, hstart, hrest⟩
    refine ⟨⟨hnonempty, passed ++ before, after, ?_, ?_⟩, by omega⟩
    · rw [hsample, hrest]
      simp only [List.append_assoc]
    · rw [byteLength_append, hstart]
  · rintro ⟨⟨hnonempty, before, after, hsplit, hstart⟩, hcursor⟩
    have htwice : passed ++ rest = before ++ (record.matchedText ++ after) := by
      rw [← hsample, hsplit, List.append_assoc]
    obtain ⟨between, hbefore, hrest⟩ := exists_append_of_byteLength_le htwice (by omega)
    exact ⟨between, after, hnonempty, by rw [← hstart, hbefore, byteLength_append],
      by rw [hrest, List.append_assoc]⟩

/-- A record that does not describe its place, or stands behind the cursor, is passed
over. -/
theorem place?_eq_none (hsample : sample = passed ++ rest)
    (hunfit : ¬ (record.describes sample = true ∧ byteLength passed ≤ record.startOffset)) :
    place? (byteLength passed) rest record = none := by
  rw [Option.eq_none_iff_forall_ne_some]
  rintro ⟨before, after⟩ hplace
  exact hunfit ((exists_place?_iff hsample).1 ⟨before, after, hplace⟩)

theorem marked_cons_of_lt (hlt : record.startOffset < cursor) :
    marked cursor rest (record :: records) = marked cursor rest records := by
  apply marked_cons_of_none
  rw [Option.eq_none_iff_forall_ne_some]
  rintro ⟨before, after⟩ hplace
  have hstart := (place?_eq_some_iff.1 hplace).2.1
  omega

/-- Where no record is left that fits, the rest of the sample is plain. -/
theorem marked_of_next?_eq_none (hsample : sample = passed ++ rest)
    (hnext : next? sample (byteLength passed) records = none) :
    marked (byteLength passed) rest records = plain rest := by
  induction records with
  | nil => rfl
  | cons record records ih =>
      have hvain := List.find?_eq_none.1 hnext
      simp only [List.forall_mem_cons, Bool.and_eq_true, decide_eq_true_eq] at hvain
      have hlater : next? sample (byteLength passed) records = none :=
        List.find?_eq_none.2 (by simpa using hvain.2)
      rw [marked_cons_of_none (place?_eq_none hsample hvain.1), ih hlater]

/-- The next record is marked, and marking goes on behind it.  It is no matter
that the records before it are looked at again. -/
theorem marked_of_next? (hordered : IsOrdered records) (hsample : sample = passed ++ rest)
    (hnext : next? sample (byteLength passed) records = some record) :
    ∃ before after, place? (byteLength passed) rest record = some (before, after) ∧
      marked (byteLength passed) rest records =
        plain before ++ ⟨record.matchedText, true⟩ ::
          marked record.endOffset after records := by
  induction records with
  | nil => simp [next?] at hnext
  | cons first records ih =>
      obtain ⟨hfirst, hlater⟩ := List.pairwise_cons.1 hordered
      by_cases hfit : first.describes sample = true ∧ byteLength passed ≤ first.startOffset
      · obtain rfl : first = record := by simpa [next?, hfit] using hnext
        obtain ⟨before, after, hplace⟩ := (exists_place?_iff hsample).2 hfit
        have hwidth := Record.startOffset_lt_endOffset (place?_eq_some_iff.1 hplace).1
        exact ⟨before, after, hplace, by
          rw [marked_cons_of_some hplace, marked_cons_of_lt hwidth]⟩
      · have hnone := place?_eq_none hsample hfit
        have hnext' : next? sample (byteLength passed) records = some record := by
          rw [← hnext, next?, next?, List.find?_cons_of_neg]
          simpa using hfit
        obtain ⟨before, after, hplace, hmarked⟩ := ih hlater hnext'
        have hwidth := Record.startOffset_lt_endOffset (place?_eq_some_iff.1 hplace).1
        have hle := hfirst record (of_next? hnext').1
        exact ⟨before, after, hplace, by
          rw [marked_cons_of_none hnone, hmarked, marked_cons_of_lt (by omega)]⟩

/-- Ordered records with the same leads are marked alike. -/
theorem marked_congr (hleft : IsOrdered left) (hright : IsOrdered right)
    (hlead : ∀ offset, lead? sample offset left = lead? sample offset right)
    (hsample : sample = passed ++ rest) :
    marked (byteLength passed) rest left = marked (byteLength passed) rest right := by
  induction hlength : rest.length using Nat.strongRecOn generalizing passed rest with
  | ind length ih =>
      have hsame : next? sample (byteLength passed) left =
          next? sample (byteLength passed) right := next?_congr hleft hright hlead
      cases hnext : next? sample (byteLength passed) left with
      | none =>
          rw [marked_of_next?_eq_none hsample hnext,
            marked_of_next?_eq_none hsample (hsame.symm.trans hnext)]
      | some record =>
          obtain ⟨before, after, hplace, hmarked⟩ := marked_of_next? hleft hsample hnext
          obtain ⟨before', after', hplace', hmarked'⟩ :=
            marked_of_next? hright hsample (hsame.symm.trans hnext)
          obtain ⟨rfl, rfl⟩ := Prod.mk.inj (Option.some.inj (hplace.symm.trans hplace'))
          obtain ⟨hnonempty, _, hrest⟩ := place?_eq_some_iff.1 hplace
          obtain ⟨hbehind, hend⟩ := behind_of_place? hsample hplace
          have hshorter : after.length < length := by
            have := List.length_pos_iff.2 hnonempty
            rw [← hlength, hrest, List.length_append, List.length_append]
            omega
          rw [hmarked, hmarked', hend, ih _ hshorter hbehind rfl]

/-- A describing record that does not start before the cursor starts inside a
marked stretch. -/
theorem exists_stretch_of_describes (hordered : IsOrdered records)
    (hsample : sample = passed ++ rest) (hrecord : record ∈ records)
    (hdescribes : record.describes sample = true)
    (hcursor : byteLength passed ≤ record.startOffset) :
    ∃ place ∈ placedStretches true (byteLength passed)
        (marked (byteLength passed) rest records),
      place.1 ≤ record.startOffset ∧ record.startOffset < place.1 + byteLength place.2 := by
  induction records generalizing passed rest with
  | nil => simp at hrecord
  | cons first records ih =>
      obtain ⟨hfirst, hlater⟩ := List.pairwise_cons.1 hordered
      cases hplace : place? (byteLength passed) rest first with
      | none =>
          rw [marked_cons_of_none hplace]
          rcases List.mem_cons.1 hrecord with rfl | hrecord
          · obtain ⟨before, after, hsome⟩ := (exists_place?_iff hsample).2 ⟨hdescribes, hcursor⟩
            simp [hplace] at hsome
          · exact ih hlater hsample hrecord hcursor
      | some place =>
          obtain ⟨before, after⟩ := place
          obtain ⟨hnonempty, hstart, _⟩ := place?_eq_some_iff.1 hplace
          have hwidth := Record.startOffset_lt_endOffset hnonempty
          rw [marked_cons_of_some hplace, placedStretches_plain_append]
          simp only [placedStretches, Bool.true_eq_false, false_and, if_false, if_true,
            List.nil_append, ← hstart]
          by_cases hinside : record.startOffset < first.endOffset
          · have hle : first.startOffset ≤ record.startOffset := by
              rcases List.mem_cons.1 hrecord with rfl | hrecord
              · exact Nat.le_refl _
              · exact hfirst record hrecord
            exact ⟨_, List.mem_cons_self, hle, hinside⟩
          · obtain ⟨hbehind, hend⟩ := behind_of_place? hsample hplace
            have hmem : record ∈ records := by
              rcases List.mem_cons.1 hrecord with rfl | hrecord
              · exact absurd hwidth hinside
              · exact hrecord
            obtain ⟨found, hfound, hwithin⟩ := ih hlater hbehind hmem (by omega)
            rw [← hend] at hfound
            exact ⟨found, List.mem_cons_of_mem _ hfound, hwithin⟩

end Highlight

/-! ## Lists of records that are marked alike -/

section Highlight

variable {sample : Text} {left right records : List Record}

/-- The stretches depend on the leads only. -/
theorem highlight_congr
    (hlead : ∀ offset, lead? sample offset left = lead? sample offset right) :
    highlight sample left = highlight sample right := by
  have hlead' (offset : Nat) : lead? sample offset (inOrderOfStart left) =
      lead? sample offset (inOrderOfStart right) := by
    simp only [lead?, filter_inOrderOfStart]
    exact hlead offset
  have hwhole : sample = [] ++ sample := rfl
  exact Highlight.marked_congr (isOrdered_inOrderOfStart left)
    (isOrdered_inOrderOfStart right) hlead' hwhole

/-- Records that do not describe the sample and copies of others lead nowhere. -/
theorem lead?_append {more : List Record}
    (hmore : ∀ record ∈ more, record.describes sample = false ∨ record ∈ records)
    (offset : Nat) :
    lead? sample offset (records ++ more) = lead? sample offset records := by
  rw [lead?, List.filter_append, List.find?_append]
  change (lead? sample offset records).or (lead? sample offset more) = _
  cases hlead : lead? sample offset records with
  | some record => rfl
  | none =>
      rw [Option.none_or, Option.eq_none_iff_forall_ne_some]
      intro record hrecord
      obtain ⟨hmem, hdescribes, hstart⟩ := of_lead? hrecord
      rcases hmore record hmem with hnot | hcopy
      · rw [hdescribes] at hnot
        contradiction
      · have hin : record ∈ records.filter (·.startOffset == offset) :=
          List.mem_filter.2 ⟨hcopy, by simp [hstart]⟩
        exact List.find?_eq_none.1 hlead record hin hdescribes

/-- Which records matter for the stretches of a sample, and what becomes of each
that describes it. -/
structure MarksDescribing (sample : Text) (records : List Record) : Prop where
  /-- Records that do not describe the sample may be taken out. -/
  pruned : highlight sample (records.filter (·.describes sample)) = highlight sample records
  /-- Such records, and copies of those at hand, may be added at the end. -/
  extended : ∀ more : List Record,
    (∀ record ∈ more, record.describes sample = false ∨ record ∈ records) →
      highlight sample (records ++ more) = highlight sample records
  /-- Only records that start together must stay in their order. -/
  reordered : ∀ others : List Record,
    (∀ offset, others.filter (·.startOffset == offset) =
      records.filter (·.startOffset == offset)) →
        highlight sample others = highlight sample records
  /-- A record that describes the sample is marked, or it starts inside a marked
  stretch. -/
  shown : ∀ record ∈ records, record.describes sample = true →
    (record.startOffset, record.matchedText) ∈
        placedStretches true 0 (highlight sample records) ∨
      ∃ place ∈ placedStretches true 0 (highlight sample records),
        place.1 ≤ record.startOffset ∧ record.startOffset < place.1 + byteLength place.2

/-- Highlighting depends on the records that describe their place, and of those on the
first for each place. -/
theorem highlight_marksDescribing (sample : Text) (records : List Record) :
    MarksDescribing sample records where
  pruned := highlight_congr fun offset => by
    rw [lead?, List.filter_comm, List.find?_filter]
    simp [lead?]
  extended more hmore := highlight_congr (lead?_append hmore)
  reordered others hothers := highlight_congr fun offset => by
    rw [lead?, hothers, lead?]
  shown record hrecord hdescribes := by
    have hwhole : sample = [] ++ sample := rfl
    exact Or.inr (Highlight.exists_stretch_of_describes (isOrdered_inOrderOfStart records)
      hwhole (List.mem_mergeSort.2 hrecord) hdescribes (Nat.zero_le _))

end Highlight

end PatternWorkbench.Matching
