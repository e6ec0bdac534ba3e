import Mathlib.Data.Set.Function
import PatternWorkbench.Proofs.Inference.Fallback
import PatternWorkbench.Proofs.Lines
import PatternWorkbench.Proofs.Matching.Captures
import PatternWorkbench.Proofs.Pattern.Naming
import PatternWorkbench.Proofs.Report.Quoting
import PatternWorkbench.Report.Listing

/-!
# Listings tell what they list

Texts are quoted in a listing, and numbers and names stand before their
separators.  So the records of a run can be told from their listing, and a sample
can be told from the listing of its segments, which has a line for each of them.
-/

namespace PatternWorkbench.Report

open Inference (Rule Segment quoted segmentsFrom)
open Matching (Capture Record execute)
open Pattern (GroupReading.IsPlainName)

/-! ## Where a field ends -/

/-- A field ends at the first element that cannot belong to it. -/
theorem append_inj_of_forall {α : Type} {p : α → Bool} {left left' behind behind' : List α}
    (hleft : ∀ x ∈ left, p x = true) (hleft' : ∀ x ∈ left', p x = true)
    (hbehind : ∀ x ∈ behind.head?, p x = false) (hbehind' : ∀ x ∈ behind'.head?, p x = false)
    (heq : left ++ behind = left' ++ behind') : left = left' ∧ behind = behind' := by
  have htake {field rest : List α} (hfield : ∀ x ∈ field, p x = true)
      (hrest : ∀ x ∈ rest.head?, p x = false) : (field ++ rest).takeWhile p = field := by
    rw [List.takeWhile_append_of_pos hfield]
    cases rest with
    | nil => simp
    | cons x rest => simp [hrest x rfl]
  obtain rfl : left = left' := by
    rw [← htake hleft hbehind, heq, htake hleft' hbehind']
  exact ⟨rfl, List.append_cancel_left heq⟩

theorem isDigit_of_mem_decimal {n : Nat} {d : Char} (hd : d ∈ decimal n) : d.isDigit = true :=
  Nat.isDigit_of_mem_toDigits (by decide) (by decide) hd

theorem feed_notMem_decimal (n : Nat) : '\n' ∉ decimal n := fun hfeed =>
  absurd (isDigit_of_mem_decimal hfeed) (by decide)

/-- A number ends at the first character that is no digit. -/
theorem decimal_append_inj {left right : Nat} {c d : Char} {behind behind' : Text}
    (hc : c.isDigit = false) (hd : d.isDigit = false)
    (heq : decimal left ++ c :: behind = decimal right ++ d :: behind') :
    left = right ∧ c :: behind = d :: behind' := by
  obtain ⟨hsame, hbehind⟩ := append_inj_of_forall (p := Char.isDigit)
    (fun _ => isDigit_of_mem_decimal) (fun _ => isDigit_of_mem_decimal)
    (by simpa using hc) (by simpa using hd) heq
  exact ⟨Matching.decimal_injective hsame, hbehind⟩

/-! ## Records -/

theorem matchLine_eq (record : Record) :
    matchLine record = "line ".toList ++ (decimal record.lineNumber ++ ' ' :: '@' ::
      (decimal record.startOffset ++ ':' :: ' ' :: quote record.matchedText)) := by
  unfold matchLine
  simp

theorem captureLine_eq (capture : Capture) :
    captureLine capture =
      "    ".toList ++ (capture.name ++ ' ' :: '=' :: ' ' :: quote capture.value) := by
  unfold captureLine
  simp

/-- The line of a match tells its place and its text. -/
theorem matchLine_inj {left right : Record} (heq : matchLine left = matchLine right) :
    left.lineNumber = right.lineNumber ∧ left.startOffset = right.startOffset ∧
      left.matchedText = right.matchedText := by
  rw [matchLine_eq, matchLine_eq] at heq
  obtain ⟨hline, hoffset⟩ := decimal_append_inj (by decide) (by decide)
    (List.append_cancel_left heq)
  simp only [List.cons.injEq, true_and] at hoffset
  obtain ⟨hstart, hquote⟩ := decimal_append_inj (by decide) (by decide) hoffset
  simp only [List.cons.injEq, true_and] at hquote
  exact ⟨hline, hstart, quote_injective hquote⟩

theorem captureLine_inj {left right : Capture} (hleft : ' ' ∉ left.name)
    (hright : ' ' ∉ right.name) (heq : captureLine left = captureLine right) :
    left = right := by
  have hname {name : Text} (hspace : ' ' ∉ name) : ∀ c ∈ name, (c != ' ') = true := by
    intro c hc
    rw [bne_iff_ne]
    exact fun hsame => hspace (hsame ▸ hc)
  rw [captureLine_eq, captureLine_eq] at heq
  obtain ⟨hsame, hvalue⟩ := append_inj_of_forall (hname hleft) (hname hright)
    (by simp) (by simp) (List.append_cancel_left heq)
  simp only [List.cons.injEq, true_and] at hvalue
  have hquote := quote_injective hvalue
  cases left
  cases right
  exact congrArg₂ Capture.mk hsame hquote

/-- Whether a line is that of a capture, which is further in. -/
def isCaptureLine (line : Text) : Bool :=
  line.head? == some ' '

theorem isCaptureLine_captureLine (capture : Capture) :
    isCaptureLine (captureLine capture) = true := by
  rw [captureLine_eq, isCaptureLine]
  simp

/-- No line of a match could be that of a capture. -/
theorem isCaptureLine_matchLine (record : Record) :
    isCaptureLine (matchLine record) = false := by
  rw [matchLine_eq, isCaptureLine]
  simp

/-- The names in a record are told apart from what is around them. -/
def IsPlainlyNamed (record : Record) : Prop :=
  ∀ capture ∈ record.captures, ' ' ∉ capture.name ∧ '\n' ∉ capture.name

theorem captureLines_inj {left right : List Capture} (hleft : ∀ capture ∈ left, ' ' ∉ capture.name)
    (hright : ∀ capture ∈ right, ' ' ∉ capture.name)
    (heq : left.map captureLine = right.map captureLine) : left = right := by
  induction left generalizing right with
  | nil => exact (List.map_eq_nil_iff.1 heq.symm).symm
  | cons capture left ih =>
      cases right with
      | nil => contradiction
      | cons other right =>
          rw [List.forall_mem_cons] at hleft hright
          obtain ⟨hfirst, hrest⟩ := List.cons.inj heq
          rw [captureLine_inj hleft.1 hright.1 hfirst, ih hleft.2 hright.2 hrest]

/-- The captures of a record end where the next record begins. -/
theorem recordLines_inj {left right : List Record} (hleft : ∀ record ∈ left, IsPlainlyNamed record)
    (hright : ∀ record ∈ right, IsPlainlyNamed record)
    (heq : left.flatMap recordLines = right.flatMap recordLines) : left = right := by
  have hlater (later : List Record) :
      ∀ line ∈ (later.flatMap recordLines).head?, isCaptureLine line = false := by
    cases later with
    | nil => simp
    | cons record later => simp [recordLines, isCaptureLine_matchLine]
  have hcaptures (captures : List Capture) :
      ∀ line ∈ captures.map captureLine, isCaptureLine line = true := by
    simp [isCaptureLine_captureLine]
  induction left generalizing right with
  | nil =>
      cases right with
      | nil => rfl
      | cons other right => simp [recordLines] at heq
  | cons record left ih =>
      cases right with
      | nil => simp [recordLines] at heq
      | cons other right =>
          rw [List.forall_mem_cons] at hleft hright
          simp only [List.flatMap_cons, recordLines, List.cons_append] at heq
          obtain ⟨hfirst, hrest⟩ := List.cons.inj heq
          obtain ⟨hlines, hmore⟩ := append_inj_of_forall (hcaptures _) (hcaptures _)
            (hlater left) (hlater right) hrest
          obtain ⟨hline, hstart, htext⟩ := matchLine_inj hfirst
          have hsame := captureLines_inj (fun capture hmem => (hleft.1 capture hmem).1)
            (fun capture hmem => (hright.1 capture hmem).1) hlines
          obtain rfl : record = other := by
            cases record
            cases other
            simp_all
          rw [ih hleft.2 hright.2 hmore]

/-- Every row of the listing is one line. -/
theorem areRows_recordLines {records : List Record}
    (hrecords : ∀ record ∈ records, IsPlainlyNamed record) :
    AreRows (records.flatMap recordLines) := by
  intro line hline
  obtain ⟨record, hrecord, hmem⟩ := List.mem_flatMap.1 hline
  rcases List.mem_cons.1 hmem with rfl | hcapture
  · rw [matchLine_eq]
    exact ⟨by simp, by simp [feed_notMem_decimal, feed_notMem_quote]⟩
  · obtain ⟨capture, hnamed, rfl⟩ := List.mem_map.1 hcapture
    rw [captureLine_eq]
    exact ⟨by simp, by simp [(hrecords record hrecord capture hnamed).2, feed_notMem_quote]⟩

/-- The listing of records tells the records, if their names are plain. -/
theorem records_inj {left right : List Record} (hleft : ∀ record ∈ left, IsPlainlyNamed record)
    (hright : ∀ record ∈ right, IsPlainlyNamed record) (heq : records left = records right) :
    left = right := by
  have hnone {record : Record} {later : List Record} :
      joinLines ((record :: later).flatMap recordLines) ≠ "no matches".toList := by
    rw [List.flatMap_cons, recordLines, List.cons_append, joinLines, matchLine_eq,
      show "line ".toList = 'l' :: "ine ".toList from rfl, List.cons_append,
      List.intercalate_cons_cons_left]
    exact fun hsame => absurd (List.cons.inj hsame).1 (by decide)
  cases left with
  | nil =>
      cases right with
      | nil => rfl
      | cons other right => exact absurd heq.symm hnone
  | cons record left =>
      cases right with
      | nil => exact absurd heq hnone
      | cons other right =>
          apply recordLines_inj hleft hright
          exact (areRows_recordLines hleft).eq_of_joinLines (areRows_recordLines hright) heq

/-! ## Records of a run -/

section Runs

variable {groups : List (Nat × Option Text)} {sample : Text} {found : Machine.Found}

/-- What is captured has the name or the number of its group, or is the whole match. -/
theorem name_of_mem_capturesOf {capture : Capture}
    (hcapture : capture ∈ Matching.capturesOf groups sample found) :
    capture.name = Matching.wholeName ∨
      (∃ index, capture.name = Matching.groupName index) ∨
        ∃ index, (index, some capture.name) ∈ groups := by
  unfold Matching.capturesOf at hcapture
  split at hcapture
  case isTrue => exact Or.inl (List.mem_singleton.1 hcapture ▸ rfl)
  case isFalse =>
    obtain ⟨⟨index, name⟩, hreported, hfound⟩ := List.mem_filterMap.1 hcapture
    obtain ⟨_, _, rfl⟩ := Option.map_eq_some_iff.1 hfound
    by_cases hnamed : Matching.namedGroups groups = []
    · rw [Matching.reportedGroups_of_unnamed hnamed] at hreported
      obtain ⟨group, _, hsame⟩ := List.mem_map.1 hreported
      obtain ⟨rfl, rfl⟩ := Prod.mk.inj hsame
      exact Or.inr (Or.inl ⟨group.1, rfl⟩)
    · rw [Matching.reportedGroups_of_named hnamed] at hreported
      obtain ⟨⟨number, given⟩, hgroup, hsame⟩ := List.mem_filterMap.1 hreported
      obtain ⟨other, rfl, hpair⟩ := Option.map_eq_some_iff.1 hsame
      obtain ⟨rfl, rfl⟩ := Prod.mk.inj hpair
      exact Or.inr (Or.inr ⟨number, hgroup⟩)

theorem isPlainlyNamed_ofFound
    (hgroups : ∀ index name, (index, some name) ∈ groups → GroupReading.IsPlainName name) :
    IsPlainlyNamed (.ofFound groups sample found) := by
  intro capture hcapture
  rcases name_of_mem_capturesOf hcapture with hwhole | ⟨index, hnumber⟩ | ⟨index, hnamed⟩
  · rw [hwhole]
    decide
  · have hspace : ' ' ∉ decimal index := fun hmem =>
      absurd (isDigit_of_mem_decimal hmem) (by decide)
    rw [hnumber]
    unfold Matching.groupName
    simp [hspace, feed_notMem_decimal]
  · have hplain := hgroups index capture.name hnamed
    exact ⟨hplain.space_notMem, hplain.feed_notMem⟩

/-- Groups of a pattern have plain names, so the listing of a run can be read back. -/
theorem isPlainlyNamed_of_execute {pattern : Text} {flags : Matching.Flags}
    {budget : Matching.Budget} {records : List Record}
    (hrun : execute pattern flags sample budget = .ok records) :
    ∀ record ∈ records, IsPlainlyNamed record := by
  intro record hrecord
  by_cases hpattern : pattern = []
  · rw [execute, hpattern] at hrun
    obtain rfl := Except.ok.inj hrun
    exact absurd hrecord List.not_mem_nil
  obtain ⟨expr, found, hread, _, rfl⟩ :=
    Matching.exists_found_of_execute hpattern hrun hrecord
  exact isPlainlyNamed_ofFound fun index name => Pattern.Expr.isPlainName_of_read hread

end Runs

/-! ## Segments -/

/-- The name of a rule leaves room in its column and fits on a line. -/
theorem ruleName_fits (segment : Segment) :
    segment.ruleName.toList.length ≤ 14 ∧ '\n' ∉ segment.ruleName.toList := by
  unfold Segment.ruleName
  split
  case h_1 rule _ => cases rule <;> decide
  case h_2 => decide

theorem segmentLine_eq (segment : Segment) :
    segmentLine segment = padRight 14 segment.ruleName.toList ++ ' ' ::
      (quote segment.text ++ (List.replicate (24 - (quote segment.text).length) ' ' ++
        ' ' :: segment.fragment)) := by
  rw [segmentLine, padRight.eq_1 24]
  simp

theorem segmentLine_inj {left right : Segment} (heq : segmentLine left = segmentLine right) :
    left.text = right.text := by
  have hlength (segment : Segment) : (padRight 14 segment.ruleName.toList).length = 14 := by
    have := (ruleName_fits segment).1
    rw [padRight, List.length_append, List.length_replicate]
    omega
  rw [segmentLine_eq, segmentLine_eq] at heq
  obtain ⟨_, hquote⟩ := List.append_inj heq ((hlength left).trans (hlength right).symm)
  exact (quote_append_inj (List.cons.inj hquote).2).1

theorem feed_notMem_quoted {text : Text} (htext : '\n' ∉ text) : '\n' ∉ quoted text := by
  rw [quoted, List.mem_flatMap]
  rintro ⟨c, hc, hfeed⟩
  have hplain : c ≠ '\n' := fun hsame => htext (hsame ▸ hc)
  split at hfeed <;> simp [Ne.symm hplain] at hfeed

/-- A line feed is covered by a rule, and no rule has one in its fragment. -/
theorem feed_notMem_fragment {start : Nat} {text : Text} {segment : Segment}
    (hsegment : segment ∈ segmentsFrom start text) : '\n' ∉ segment.fragment := by
  have hshape : ∀ rule ∈ Rule.all, '\n' ∉ rule.shape.fragment := by decide
  obtain ⟨before, after, hsegments⟩ := List.append_of_mem hsegment
  obtain ⟨c, rest, _, rfl⟩ := Inference.exists_eq_first hsegments
  unfold Segment.first
  split
  case h_1 rule length _ =>
    have hrule : '\n' ∉ rule.shape.fragment := hshape rule (by cases rule <;> decide)
    simp only [Segment.fragment, Rule.fragment]
    split
    case isTrue => decide
    case isFalse => exact hrule
  case h_2 hnone =>
    apply feed_notMem_quoted
    rw [List.mem_singleton]
    rintro rfl
    have hblank := (Inference.coveringRule?_eq_none_iff.1 hnone).noBlank
    rw [Unicode.isBlank_eq_has] at hblank
    exact absurd hblank (by decide)

theorem areRows_segmentLines (start : Nat) (text : Text) :
    AreRows ((segmentsFrom start text).map segmentLine) := by
  intro line hline
  obtain ⟨segment, hsegment, rfl⟩ := List.mem_map.1 hline
  rw [segmentLine_eq, padRight]
  refine ⟨by simp, ?_⟩
  simp [(ruleName_fits segment).2, feed_notMem_quote, feed_notMem_fragment hsegment]

/-- The lines of segments tell their texts. -/
theorem texts_eq_of_segmentLines {left right : List Segment}
    (heq : left.map segmentLine = right.map segmentLine) :
    left.map Segment.text = right.map Segment.text := by
  induction left generalizing right with
  | nil => rw [List.map_eq_nil_iff.1 heq.symm]
  | cons segment left ih =>
      cases right with
      | nil => contradiction
      | cons other right =>
          obtain ⟨hfirst, hrest⟩ := List.cons.inj heq
          rw [List.map_cons, List.map_cons, segmentLine_inj hfirst, ih hrest]

/-! ## Nothing is lost -/

/-- The records of runs that succeed and the samples of segments can be told from
their listings, and every segment of a sample has its line. -/
theorem listings_injective :
    Set.InjOn records {found | ∃ pattern flags sample budget,
        execute pattern flags sample budget = .ok found} ∧
      Function.Injective (fun text => segments (Inference.segments text)) ∧
      ∀ text, text ≠ [] → lines (segments (Inference.segments text)) =
        (Inference.segments text).map segmentLine := by
  refine ⟨?_, ?_, ?_⟩
  · rintro left ⟨_, _, _, _, hleft⟩ right ⟨_, _, _, _, hright⟩ heq
    exact records_inj (isPlainlyNamed_of_execute hleft) (isPlainlyNamed_of_execute hright) heq
  · intro left right heq
    have hlines := (areRows_segmentLines 0 left).eq_of_joinLines
      (areRows_segmentLines 0 right) heq
    rw [← Inference.flatten_text_segmentsFrom 0 left, texts_eq_of_segmentLines hlines,
      Inference.flatten_text_segmentsFrom]
  · intro text htext
    refine lines_joinLines_of_notMem ?_ fun line hline =>
      (areRows_segmentLines 0 text line hline).2
    intro hnil
    have hflatten := Inference.flatten_text_segmentsFrom 0 text
    rw [← Inference.segments, List.map_eq_nil_iff.1 hnil] at hflatten
    exact htext hflatten.symm

end PatternWorkbench.Report
