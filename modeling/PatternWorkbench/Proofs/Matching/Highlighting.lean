import Mathlib.Data.List.Chain
import PatternWorkbench.Matching.Highlight
import PatternWorkbench.Proofs.Offset

/-!
# Highlighted stretches

Whatever the records are, cutting the sample along them never asks for a cut that
is none, the stretches make up the sample, and only what a record describes is
marked.
-/

namespace PatternWorkbench.Matching

/-! ## Cutting at byte offsets -/

/-- The text between two byte offsets.  There is none if they are out of order or
one of them is no boundary of the text. -/
def sliceBytes? (text : Text) (start stop : Nat) : Option Text :=
  if start ≤ stop then do
    let (_, after) ← splitAtByte text start
    let (between, _) ← splitAtByte after (stop - start)
    return between
  else none

/-- A cut of a text is possible exactly where both of its ends are boundaries. -/
theorem sliceBytes?_eq_some_iff {text between : Text} {start stop : Nat} :
    sliceBytes? text start stop = some between ↔
      ∃ before after, text = before ++ between ++ after ∧
        byteLength before = start ∧ start + byteLength between = stop := by
  constructor
  · intro hslice
    unfold sliceBytes? at hslice
    split at hslice
    case isFalse => simp at hslice
    case isTrue hle =>
      simp only [Option.bind_eq_bind, Option.pure_def, Option.bind_eq_some_iff,
        Option.some.injEq, Prod.exists] at hslice
      obtain ⟨before, rest, hbefore, found, after, hfound, rfl⟩ := hslice
      obtain ⟨rfl, hstart⟩ := splitAtByte_eq_some hbefore
      obtain ⟨rfl, hwidth⟩ := splitAtByte_eq_some hfound
      exact ⟨before, after, by rw [List.append_assoc], hstart, by omega⟩
  · rintro ⟨before, after, rfl, rfl, rfl⟩
    rw [sliceBytes?, if_pos (Nat.le_add_right _ _), List.append_assoc,
      splitAtByte_byteLength, Nat.add_sub_cancel_left]
    simp only [Option.bind_eq_bind, Option.bind_some, splitAtByte_byteLength]
    rfl

def plainBetween? (sample : Text) (start stop : Nat) : Option (List Stretch) :=
  if start < stop then
    (sliceBytes? sample start stop).map fun text => [⟨text, false⟩]
  else some []

/-- Marks ordered records by cutting the sample at offsets, which fails with the
first offset at which there is no cut.  Offsets may be words of a machine, so
the caller says how the end of a record comes out. -/
def cutOut? (finish : Record → Nat) (sample : Text) (cursor : Nat) :
    List Record → Option (List Stretch)
  | [] => plainBetween? sample cursor (byteLength sample)
  | record :: records =>
    if record.startOffset = finish record || record.startOffset < cursor then
      cutOut? finish sample cursor records
    else if sliceBytes? sample record.startOffset (finish record) !=
        some record.matchedText then
      cutOut? finish sample cursor records
    else do
      let before ← plainBetween? sample cursor record.startOffset
      let later ← cutOut? finish sample (finish record) records
      return before ++ ⟨record.matchedText, true⟩ :: later

theorem plainBetween?_eq {sample passed between after : Text}
    (hsample : sample = passed ++ between ++ after) :
    plainBetween? sample (byteLength passed) (byteLength (passed ++ between)) =
      some (Highlight.plain between) := by
  rw [plainBetween?, byteLength_append]
  cases between with
  | nil => simp [Highlight.plain]
  | cons c between =>
      have hwidth := c.utf8Size_pos
      have hslice := sliceBytes?_eq_some_iff.2 ⟨passed, after, hsample, rfl, rfl⟩
      rw [if_pos (by rw [byteLength_cons]; omega), hslice]
      rfl

/-! ## The place of a record -/

namespace Highlight

variable {cursor : Nat} {rest before after : Text} {record : Record}
  {records : List Record}

theorem place?_eq_some_iff :
    place? cursor rest record = some (before, after) ↔
      record.matchedText ≠ [] ∧ record.startOffset = cursor + byteLength before ∧
        rest = before ++ record.matchedText ++ after := by
  constructor
  · intro hplace
    unfold place? at hplace
    split at hplace
    case isTrue => simp at hplace
    case isFalse hnonempty =>
      simp only [Bool.or_eq_true, List.isEmpty_iff, decide_eq_true_eq, not_or,
        Nat.not_lt] at hnonempty
      simp only [Option.bind_eq_bind, Option.bind_eq_some_iff, Prod.exists]
        at hplace
      obtain ⟨left, right, hcut, hmark⟩ := hplace
      obtain ⟨rfl, hwidth⟩ := splitAtByte_eq_some hcut
      split at hmark
      case isFalse => simp at hmark
      case isTrue hbegins =>
        obtain ⟨right, rfl⟩ := List.isPrefixOf_iff_prefix.1 hbegins
        simp only [List.drop_left, Option.pure_def, Option.some.injEq,
          Prod.mk.injEq] at hmark
        obtain ⟨rfl, rfl⟩ := hmark
        exact ⟨hnonempty.1, by omega, by rw [List.append_assoc]⟩
  · rintro ⟨hnonempty, hstart, rfl⟩
    have hbegins : record.matchedText.isPrefixOf (record.matchedText ++ after) :=
      List.isPrefixOf_iff_prefix.2 (List.prefix_append _ _)
    unfold place?
    rw [if_neg (by simp [hnonempty, hstart]), hstart, Nat.add_sub_cancel_left,
      List.append_assoc, splitAtByte_byteLength]
    simp only [Option.bind_eq_bind, Option.bind_some, if_pos hbegins,
      List.drop_left]
    rfl

/-- Behind a record that has a place the sample goes on where the record ends. -/
theorem behind_of_place? {sample passed : Text} (hsample : sample = passed ++ rest)
    (hplace : place? (byteLength passed) rest record = some (before, after)) :
    sample = (passed ++ before ++ record.matchedText) ++ after ∧
      record.endOffset = byteLength (passed ++ before ++ record.matchedText) := by
  obtain ⟨_, hstart, hrest⟩ := place?_eq_some_iff.1 hplace
  constructor
  · rw [hsample, hrest]
    simp only [List.append_assoc]
  · rw [Record.endOffset, hstart, byteLength_append, byteLength_append]

theorem marked_cons_of_none (hplace : place? cursor rest record = none) :
    marked cursor rest (record :: records) = marked cursor rest records := by
  rw [marked, hplace]

theorem marked_cons_of_some (hplace : place? cursor rest record = some (before, after)) :
    marked cursor rest (record :: records) =
      plain before ++ ⟨record.matchedText, true⟩ ::
        marked record.endOffset after records := by
  rw [marked, hplace]

/-- Cutting at offsets never fails and marks the same stretches. -/
theorem cutOut?_eq_marked {finish : Record → Nat} {sample passed : Text}
    (hfinish : ∀ record : Record, record.endOffset ≤ byteLength sample →
      finish record = record.endOffset)
    (hsample : sample = passed ++ rest) :
    cutOut? finish sample (byteLength passed) records =
      some (marked (byteLength passed) rest records) := by
  induction records generalizing passed rest with
  | nil =>
      have hwhole : sample = passed ++ rest ++ [] := by rw [hsample, List.append_nil]
      rw [cutOut?, marked, ← plainBetween?_eq hwhole, hsample]
  | cons record records ih =>
      cases hplace : place? (byteLength passed) rest record with
      | some place =>
          obtain ⟨before, after⟩ := place
          obtain ⟨hnonempty, hstart, _⟩ := place?_eq_some_iff.1 hplace
          obtain ⟨hsplit, hend⟩ := behind_of_place? hsample hplace
          have hstart' : record.startOffset = byteLength (passed ++ before) := by
            rw [hstart, byteLength_append]
          have hstop : finish record = record.endOffset := by
            apply hfinish
            rw [hend, hsplit, byteLength_append _ after]
            omega
          have hwidth : byteLength record.matchedText ≠ 0 := by
            rw [ne_eq, byteLength_eq_zero_iff]
            exact hnonempty
          have hslice : sliceBytes? sample record.startOffset record.endOffset =
              some record.matchedText :=
            sliceBytes?_eq_some_iff.2 ⟨passed ++ before, after, hsplit, hstart'.symm, rfl⟩
          have hbetween : plainBetween? sample (byteLength passed)
              record.startOffset = some (plain before) := by
            have hbefore : sample = passed ++ before ++ (record.matchedText ++ after) := by
              rw [hsplit, List.append_assoc]
            rw [hstart', plainBetween?_eq hbefore]
          have hordered : ¬ (record.startOffset = record.endOffset ||
              record.startOffset < byteLength passed) = true := by
            simp only [Bool.or_eq_true, decide_eq_true_eq]
            rw [Record.endOffset]
            omega
          have hlater := ih hsplit
          rw [← hend] at hlater
          rw [cutOut?, hstop, if_neg hordered, if_neg (by simp [hslice]), hbetween,
            hlater, marked_cons_of_some hplace]
          rfl
      | none =>
          rw [marked_cons_of_none hplace, cutOut?]
          split
          case isTrue => exact ih hsample
          case isFalse hordered =>
            simp only [Bool.or_eq_true, decide_eq_true_eq, not_or, Nat.not_lt]
              at hordered
            rw [if_pos, ih hsample]
            rw [bne_iff_ne]
            intro hslice
            obtain ⟨left, after, hsplit, hleft, hstop⟩ :=
              sliceBytes?_eq_some_iff.1 hslice
            have hnonempty : record.matchedText ≠ [] := by
              intro hempty
              rw [hempty] at hstop
              exact hordered.1 hstop
            have htwice : passed ++ rest = left ++ (record.matchedText ++ after) := by
              rw [← hsample, hsplit, List.append_assoc]
            obtain ⟨before, hbefore, hrest⟩ :=
              exists_append_of_byteLength_le htwice (by omega)
            have hsome : place? (byteLength passed) rest record =
                some (before, after) :=
              place?_eq_some_iff.2 ⟨hnonempty,
                by rw [← hleft, hbefore, byteLength_append],
                by rw [hrest, List.append_assoc]⟩
            simp [hplace] at hsome

end Highlight

/-! ## Stretches as a partition -/

/-- The stretches of one kind with the byte offsets at which they lie, the first
of all beginning at `offset`. -/
def placedStretches (isMatch : Bool) (offset : Nat) : List Stretch → List (Nat × Text)
  | [] => []
  | stretch :: later =>
    let rest := placedStretches isMatch (offset + byteLength stretch.text) later
    if stretch.isMatch = isMatch then (offset, stretch.text) :: rest else rest

/-- The stretches make up the sample, none is empty, plain ones do not touch, and
what is marked is described by a record. -/
structure Partitions (sample : Text) (records : List Record)
    (stretches : List Stretch) : Prop where
  text_eq : stretches.flatMap (·.text) = sample
  text_ne_nil : ∀ stretch ∈ stretches, stretch.text ≠ []
  apart : stretches.IsChain fun left right =>
    left.isMatch = true ∨ right.isMatch = true
  described : ∀ place ∈ placedStretches true 0 stretches, ∃ record ∈ records,
    place = (record.startOffset, record.matchedText)

namespace Highlight

variable {cursor : Nat} {rest before after : Text} {record : Record}
  {records : List Record} {stretches : List Stretch}

theorem flatMap_text_plain (text : Text) : (plain text).flatMap (·.text) = text := by
  cases text <;> simp [plain]

theorem placedStretches_plain_append (isMatch : Bool) (offset : Nat) (text : Text) :
    placedStretches isMatch offset (plain text ++ stretches) =
      (if isMatch = false ∧ text ≠ [] then [(offset, text)] else []) ++
        placedStretches isMatch (offset + byteLength text) stretches := by
  cases text with
  | nil => simp [plain]
  | cons c text => cases isMatch <;> simp [plain, placedStretches]

theorem placedStretches_plain (isMatch : Bool) (offset : Nat) (text : Text) :
    placedStretches isMatch offset (plain text) =
      if isMatch = false ∧ text ≠ [] then [(offset, text)] else [] := by
  rw [← List.append_nil (plain text), placedStretches_plain_append, placedStretches,
    List.append_nil]

theorem isChain_plain_append
    (hchain : stretches.IsChain fun left right =>
      left.isMatch = true ∨ right.isMatch = true)
    (hhead : ∀ stretch ∈ stretches.head?, stretch.isMatch = true) (text : Text) :
    (plain text ++ stretches).IsChain fun left right =>
      left.isMatch = true ∨ right.isMatch = true := by
  cases text with
  | nil => exact hchain
  | cons c text =>
      refine List.isChain_cons.2 ⟨fun stretch hstretch => Or.inr ?_, hchain⟩
      exact hhead stretch hstretch

theorem flatMap_text_marked :
    (marked cursor rest records).flatMap (·.text) = rest := by
  induction records generalizing cursor rest with
  | nil => exact flatMap_text_plain rest
  | cons record records ih =>
      cases hplace : place? cursor rest record with
      | none => rw [marked_cons_of_none hplace, ih]
      | some place =>
          rw [marked_cons_of_some hplace, List.flatMap_append, flatMap_text_plain,
            List.flatMap_cons, ih, (place?_eq_some_iff.1 hplace).2.2,
            List.append_assoc]

theorem text_ne_nil_of_mem_marked :
    ∀ stretch ∈ marked cursor rest records, stretch.text ≠ [] := by
  have hplain : ∀ text : Text, ∀ stretch ∈ plain text, stretch.text ≠ [] := by
    intro text stretch hstretch
    cases text with
    | nil => simp [plain] at hstretch
    | cons c text =>
        obtain rfl : stretch = ⟨c :: text, false⟩ := by simpa [plain] using hstretch
        simp
  induction records generalizing cursor rest with
  | nil => exact hplain rest
  | cons record records ih =>
      cases hplace : place? cursor rest record with
      | none =>
          rw [marked_cons_of_none hplace]
          exact ih
      | some place =>
          rw [marked_cons_of_some hplace]
          intro stretch hstretch
          rcases List.mem_append.1 hstretch with hstretch | hstretch
          · exact hplain _ stretch hstretch
          · rcases List.mem_cons.1 hstretch with rfl | hstretch
            · exact (place?_eq_some_iff.1 hplace).1
            · exact ih stretch hstretch

theorem isChain_marked :
    (marked cursor rest records).IsChain fun left right =>
      left.isMatch = true ∨ right.isMatch = true := by
  induction records generalizing cursor rest with
  | nil =>
      rw [marked, ← List.append_nil (plain rest)]
      exact isChain_plain_append .nil (by simp) rest
  | cons record records ih =>
      cases hplace : place? cursor rest record with
      | none =>
          rw [marked_cons_of_none hplace]
          exact ih
      | some place =>
          rw [marked_cons_of_some hplace]
          refine isChain_plain_append ?_ (by simp) _
          exact List.isChain_cons.2 ⟨fun _ _ => Or.inl rfl, ih⟩

theorem described_of_mem_marked :
    ∀ place ∈ placedStretches true cursor (marked cursor rest records),
      ∃ record ∈ records, place = (record.startOffset, record.matchedText) := by
  induction records generalizing cursor rest with
  | nil =>
      simp [marked, placedStretches_plain]
  | cons record records ih =>
      intro place hmem
      cases hplace : place? cursor rest record with
      | none =>
          rw [marked_cons_of_none hplace] at hmem
          obtain ⟨other, hother, hsame⟩ := ih place hmem
          exact ⟨other, List.mem_cons_of_mem _ hother, hsame⟩
      | some found =>
          obtain ⟨hnonempty, hstart, hrest⟩ := place?_eq_some_iff.1 hplace
          rw [marked_cons_of_some hplace, placedStretches_plain_append] at hmem
          simp only [placedStretches, Bool.true_eq_false, false_and, if_false, if_true,
            List.nil_append, List.mem_cons, ← hstart] at hmem
          rcases hmem with rfl | hmem
          · exact ⟨record, by simp, rfl⟩
          · obtain ⟨other, hother, hsame⟩ := ih place hmem
            exact ⟨other, List.mem_cons_of_mem _ hother, hsame⟩

end Highlight

def inOrderOfStart (records : List Record) : List Record :=
  records.mergeSort fun left right => left.startOffset ≤ right.startOffset

/-- Cutting the sample along any records never asks for a cut that is none, even
where an end past the sample comes out wrong, and the stretches partition the
sample. -/
theorem highlight_partitions (sample : Text) (records : List Record) :
    (∀ finish : Record → Nat,
      (∀ record : Record, record.endOffset ≤ byteLength sample →
        finish record = record.endOffset) →
      cutOut? finish sample 0 (inOrderOfStart records) =
        some (highlight sample records)) ∧
    Partitions sample records (highlight sample records) := by
  have hwhole : sample = [] ++ sample := rfl
  refine ⟨fun finish hfinish => Highlight.cutOut?_eq_marked hfinish hwhole,
    Highlight.flatMap_text_marked, Highlight.text_ne_nil_of_mem_marked,
    Highlight.isChain_marked, fun place hplace => ?_⟩
  obtain ⟨record, hrecord, hsame⟩ := Highlight.described_of_mem_marked place hplace
  exact ⟨record, List.mem_mergeSort.1 hrecord, hsame⟩

end PatternWorkbench.Matching
