import Mathlib.Data.List.Forall2
import PatternWorkbench.Authoring.Session
import PatternWorkbench.Proofs.Inference.Selection

/-!
# The buffer of an author

An author selects pieces of a sample one after the other, and each selection
adds its fragment to the buffer, in a named group if a name is given.  The
buffer accepts the selected pieces side by side and captures under each name
what the fragment of that name accepts, however the pieces follow each other.
-/

namespace PatternWorkbench.Authoring

open Inference (Fits MatchesExactly Takes anchored fragmentForSelection isCaptureName
  wrapNamed)
open Machine (Course Marks Program)
open Matching (Budget Capture Fault Flags Record compile execute slice wholeName)
open Pattern (Expr Spells SpellsFrom)

/-! ## Selections -/

structure Selection where
  text : Text
  name : Option Text
  deriving DecidableEq, Repr

/-- What a selection adds to the buffer. -/
def Selection.piece (selection : Selection) : Except Fault Text :=
  match selection.name with
  | none => .ok (fragmentForSelection selection.text)
  | some name => wrapNamed (fragmentForSelection selection.text) name

/-- The buffer after a row of selections. -/
def buffer : List Selection → Except Fault Text
  | [] => .ok []
  | selection :: later => do
    let piece ← selection.piece
    let rest ← buffer later
    return piece ++ rest

def selectedText (selections : List Selection) : Text :=
  selections.flatMap (·.text)

def givenNames (selections : List Selection) : List Text :=
  selections.filterMap (·.name)

def namedTexts (selections : List Selection) : List (Text × Text) :=
  selections.filterMap fun selection => selection.name.map (selection.text, ·)

theorem buffer_cons {selection : Selection} {later : List Selection}
    {piece rest : Text} (hpiece : selection.piece = .ok piece)
    (hlater : buffer later = .ok rest) :
    buffer (selection :: later) = .ok (piece ++ rest) := by
  rw [buffer, hpiece, hlater]
  rfl

/-- A buffer is only written if every selection has a piece. -/
theorem buffer_cons_eq_ok {selection : Selection} {later : List Selection}
    {pattern : Text} (hbuffer : buffer (selection :: later) = .ok pattern) :
    ∃ piece rest, selection.piece = .ok piece ∧ buffer later = .ok rest ∧
      pattern = piece ++ rest := by
  rw [buffer] at hbuffer
  cases hpiece : selection.piece with
  | error fault => simp [hpiece, bind, Except.bind] at hbuffer
  | ok piece =>
      cases hlater : buffer later with
      | error fault => simp [hpiece, hlater, bind, Except.bind] at hbuffer
      | ok rest =>
          rw [hpiece, hlater] at hbuffer
          exact ⟨piece, rest, rfl, rfl, (Except.ok.inj hbuffer).symm⟩

theorem edit_select {selection : Selection} {piece : Text}
    (hpiece : selection.piece = .ok piece) (session : Session) :
    session.edit (.select selection.text selection.name) =
      .ok (session.append piece) := by
  obtain ⟨text, name⟩ := selection
  cases name with
  | none =>
      rw [← Except.ok.inj hpiece]
      rfl
  | some name =>
      have hwrap : wrapNamed (fragmentForSelection text) name = .ok piece := hpiece
      simp only [Session.edit, hwrap]

/-- Selecting in a session appends the buffer to its pattern. -/
theorem edit_selections {selections : List Selection} {pattern : Text}
    (hbuffer : buffer selections = .ok pattern) (session : Session) :
    selections.foldlM (fun session selection =>
        session.edit (.select selection.text selection.name)) session =
      .ok (session.append pattern) := by
  induction selections generalizing session pattern with
  | nil =>
      rw [← Except.ok.inj hbuffer]
      simp [Session.append]
      rfl
  | cons selection later ih =>
      obtain ⟨piece, rest, hpiece, hlater, rfl⟩ := buffer_cons_eq_ok hbuffer
      have happend : (session.append piece).append rest =
          session.append (piece ++ rest) := by
        simp only [Session.append, List.append_assoc]
      rw [List.foldlM_cons, edit_select hpiece, ← happend, ← ih hlater]
      rfl

/-! ## What a buffer is read as -/

/-- The expressions of a row of selections, where `count` groups have been opened
before. -/
inductive Written (flags : Flags) : Nat → List Selection → List Expr → Prop where
  | nil (count : Nat) : Written flags count [] []
  | plain {count : Nat} {text : Text} {exprs others : List Expr}
      {later : List Selection}
      (hspells : Spells flags.modes 5 (fragmentForSelection text) exprs)
      (hbare : ∀ expr ∈ exprs, expr.isBare = true) (htakes : Takes exprs text)
      (hlater : Written flags count later others) :
      Written flags count (⟨text, none⟩ :: later) (exprs ++ others)
  | named {count : Nat} {text name : Text} {exprs others : List Expr}
      {later : List Selection}
      (hspells : Spells flags.modes 5 (fragmentForSelection text) exprs)
      (hbare : ∀ expr ∈ exprs, expr.isBare = true) (htakes : Takes exprs text)
      (hlater : Written flags (count + 1) later others) :
      Written flags count (⟨text, some name⟩ :: later)
        (.capture (count + 1) (some name) (.joined exprs) :: others)

theorem exists_written (flags : Flags) (count : Nat) (selections : List Selection) :
    ∃ exprs, Written flags count selections exprs := by
  induction selections generalizing count with
  | nil => exact ⟨[], .nil count⟩
  | cons selection later ih =>
      obtain ⟨text, name⟩ := selection
      obtain ⟨exprs, hspells, hbare, htakes⟩ :=
        (Inference.fits_fragmentForSelection flags text).takes
      cases name with
      | none =>
          obtain ⟨others, hlater⟩ := ih count
          exact ⟨_, .plain hspells hbare htakes hlater⟩
      | some name =>
          obtain ⟨others, hlater⟩ := ih (count + 1)
          exact ⟨_, .named hspells hbare htakes hlater⟩

/-- A letter that may begin a capture name may begin the name of a group. -/
theorem isNameStart_of_beginsName {c : Char} (hc : Inference.beginsName c = true) :
    Pattern.GroupReading.isNameStart c = true ∧ Inference.continuesName c = true := by
  rw [Inference.beginsName, Bool.or_eq_true] at hc
  rw [Pattern.GroupReading.isNameStart, Inference.continuesName, Char.isAlphanum,
    Bool.or_eq_true, Bool.or_eq_true, Bool.or_eq_true]
  rcases hc with halpha | hline
  · exact ⟨Or.inr (Unicode.isAlphabetic_of_isAlpha halpha), Or.inl (Or.inl halpha)⟩
  · exact ⟨Or.inl hline, Or.inr hline⟩

theorem isNameChar_of_continuesName {c : Char}
    (hc : Inference.continuesName c = true) :
    Pattern.GroupReading.isNameChar c = true := by
  rw [Inference.continuesName, Bool.or_eq_true] at hc
  simp only [Pattern.GroupReading.isNameChar, Bool.or_eq_true]
  rcases hc with halphanum | hline
  · exact Or.inr (Unicode.isAlphanumeric_of_isAlphanum halphanum)
  · exact Or.inl (Or.inl (Or.inl (Or.inl hline)))

theorem not_mem_of_continuesName {c : Char} (hc : Inference.continuesName c = true) :
    c ∉ ['>', '=', '!'] := by
  intro hmem
  simp only [List.mem_cons, List.not_mem_nil, or_false] at hmem
  rcases hmem with rfl | rfl | rfl <;> exact absurd hc (by decide)

/-- A name that is accepted for wrapping can stand in a pattern. -/
theorem isName_of_isCaptureName {name : Text} (hname : isCaptureName name = true) :
    Pattern.GroupReading.isName name = true := by
  cases name with
  | nil => contradiction
  | cons c rest =>
      rw [isCaptureName, Bool.and_eq_true] at hname
      obtain ⟨hfirst, hrest⟩ := hname
      obtain ⟨hstart, hcontinues⟩ := isNameStart_of_beginsName hfirst
      rw [Pattern.GroupReading.isName, hstart, Bool.true_and, Bool.and_eq_true]
      constructor
      · rw [Bool.not_eq_true', List.contains_eq_mem, decide_eq_false_iff_not]
        exact not_mem_of_continuesName hcontinues
      · rw [List.all_eq_true]
        intro d hd
        have hchar := List.all_eq_true.1 hrest d hd
        have hunlike := not_mem_of_continuesName hchar
        rw [isNameChar_of_continuesName hchar, Bool.true_and, bne_iff_ne]
        intro hangle
        exact hunlike (by simp [hangle])

namespace Written

variable {flags : Flags} {count : Nat} {selections : List Selection}
  {exprs : List Expr}

/-- The buffer is built, and it is read as the expressions. -/
theorem exists_buffer (hwritten : Written flags count selections exprs)
    {taken : List Text} (hnames : ∀ name ∈ givenNames selections,
      isCaptureName name = true)
    (hdistinct : (taken ++ givenNames selections).Nodup) :
    ∃ pattern after, buffer selections = .ok pattern ∧ pattern.head? ≠ some '?' ∧
      SpellsFrom flags.modes 7 ⟨count, taken⟩ pattern exprs after := by
  induction hwritten generalizing taken with
  | nil count =>
      exact ⟨[], ⟨count, taken⟩, rfl, by simp, (Spells.nil _ _).spellsFrom _⟩
  | @plain count text exprs others later hspells _ _ _ ih =>
      obtain ⟨pattern, after, hbuffer, hhead, hlater⟩ := ih hnames hdistinct
      have hbegins := (Inference.fits_fragmentForSelection flags text).begins
      refine ⟨_, after, buffer_cons rfl hbuffer,
        Pattern.head?_append_ne hbegins hhead, ?_⟩
      exact ((hspells.mono (by omega)).spellsFrom _).append hlater hhead
  | @named count text name exprs others later hspells _ _ _ ih =>
      have hname : isCaptureName name = true :=
        hnames name (by simp [givenNames])
      have hfresh : name ∉ taken := by
        intro hmem
        have hdisjoint := (List.nodup_append.1 hdistinct).2.2 name hmem name
          (by simp [givenNames])
        exact hdisjoint rfl
      have hlaterDistinct : (taken ++ [name] ++ givenNames later).Nodup := by
        rw [List.append_assoc]
        exact hdistinct
      obtain ⟨pattern, after, hbuffer, hhead, hlater⟩ := ih
        (fun other hother => hnames other (by
          simp only [givenNames, List.filterMap_cons]
          exact List.mem_cons_of_mem _ hother)) hlaterDistinct
      have hpiece : (⟨text, some name⟩ : Selection).piece =
          .ok ("(?<".toList ++ name ++ ['>'] ++ fragmentForSelection text ++ [')']) := by
        simp only [Selection.piece, wrapNamed, hname, if_true]
      refine ⟨_, after, buffer_cons hpiece hbuffer,
        Pattern.head?_append_ne (by simp) hhead, ?_⟩
      exact (SpellsFrom.named (isName_of_isCaptureName hname) hfresh
        (hspells.spellsFrom _)).append hlater hhead

/-- The expressions pass the selected pieces wherever they stand. -/
theorem exists_course (hwritten : Written flags count selections exprs)
    (before after : Text) :
    ∃ marks, Course.inOrder (exprs.map (Expr.course
        (before ++ selectedText selections ++ after).toArray))
      before.length (before ++ selectedText selections).length marks := by
  induction hwritten generalizing before with
  | nil => exact ⟨[], by simp [selectedText], rfl⟩
  | @plain count text exprs others later _ _ htakes _ ih =>
      have hfirst := htakes before (selectedText later ++ after)
      obtain ⟨marks, hlater⟩ := ih (before ++ text)
      have hselected : selectedText (⟨text, none⟩ :: later) =
          text ++ selectedText later := rfl
      rw [hselected, List.map_append, Course.inOrder_append]
      simp only [List.append_assoc] at hfirst hlater ⊢
      exact ⟨_, _, _, _, hfirst, hlater, rfl⟩
  | @named count text name exprs others later _ _ htakes _ ih =>
      have hfirst := htakes before (selectedText later ++ after)
      obtain ⟨marks, hlater⟩ := ih (before ++ text)
      have hselected : selectedText (⟨text, some name⟩ :: later) =
          text ++ selectedText later := rfl
      rw [← Expr.course_joined] at hfirst
      rw [hselected, List.map_cons, Course.inOrder_cons]
      simp only [List.append_assoc] at hfirst hlater ⊢
      exact ⟨_, _, _, _, ⟨_, hfirst, rfl⟩, hlater, rfl⟩

end Written

/-! ## What is captured -/

/-- A part of a sample that bare parts run through is matched exactly by their
fragment. -/
theorem matchesExactly_slice {flags : Flags} {fragment sample : Text}
    {exprs : List Expr} {start stop : Nat} {marks : Marks}
    (hmultiline : flags.multiline = false)
    (hspells : Spells flags.modes 5 fragment exprs)
    (hbare : ∀ expr ∈ exprs, expr.isBare = true) (hstart : start ≤ sample.length)
    (hcourse : (Expr.joined exprs).course sample.toArray start stop marks) :
    MatchesExactly flags fragment (slice sample start stop) := by
  rw [Expr.course_joined] at hcourse
  exact Inference.matchesExactly_of_mem hmultiline hspells hbare
    ((Pattern.denotes_inOrder sample hbare).mem_stretch hstart hcourse).2

/-- The marks hold, for the group of a name, a part of the sample that the
fragment of the selection matches exactly. -/
def Holds (flags : Flags) (sample : Text) (marks : Marks) (given : Text × Text)
    (group : Nat × Option Text) : Prop :=
  group.2 = some given.2 ∧ ∃ start stop, marks.lookup (2 * group.1) = some start ∧
    marks.lookup (2 * group.1 + 1) = some stop ∧
    MatchesExactly flags (fragmentForSelection given.1) (slice sample start stop)

/-- A later mark for the group does not undo an earlier one. -/
theorem Holds.append {flags : Flags} {sample : Text} {late early : Marks}
    {given : Text × Text} {group : Nat × Option Text}
    (hholds : Holds flags sample late given group) :
    Holds flags sample (late ++ early) given group := by
  obtain ⟨hname, start, stop, hstart, hstop, hmatches⟩ := hholds
  refine ⟨hname, start, stop, ?_, ?_, hmatches⟩
  · rw [List.lookup_append, hstart, Option.some_or]
  · rw [List.lookup_append, hstop, Option.some_or]

/-- Slots of later groups do not hide a slot. -/
theorem lookup_append_of_lt {late early : Marks} {slot : Nat}
    (hlate : ∀ mark ∈ late, slot < mark.1) :
    (late ++ early).lookup slot = early.lookup slot := by
  have hnone : late.lookup slot = none := by
    rw [List.lookup_eq_none_iff]
    intro mark hmark
    rw [bne_iff_ne]
    exact Nat.ne_of_lt (hlate mark hmark)
  rw [List.lookup_append, hnone, Option.none_or]

/-- The two slots of a group are found behind those of later groups. -/
theorem lookup_slots {late : Marks} {index start stop : Nat}
    (hlate : ∀ mark ∈ late, 2 * index + 1 < mark.1) :
    (late ++ [(2 * index + 1, stop), (2 * index, start)]).lookup (2 * index) =
        some start ∧
      (late ++ [(2 * index + 1, stop), (2 * index, start)]).lookup (2 * index + 1) =
        some stop := by
  have hodd : (2 * index == 2 * index + 1) = false := by simp
  constructor
  · rw [lookup_append_of_lt fun mark hmark => Nat.lt_of_succ_lt (hlate mark hmark)]
    simp only [List.lookup_cons, hodd, beq_self_eq_true]
  · rw [lookup_append_of_lt hlate]
    simp only [List.lookup_cons, beq_self_eq_true]

/-- Every named group of a run through the expressions holds its part, and the
marks of a run are those of the groups opened in it. -/
theorem Written.holds {flags : Flags} {count : Nat} {selections : List Selection}
    {exprs : List Expr} (hmultiline : flags.multiline = false)
    (hwritten : Written flags count selections exprs) {sample : Text}
    {start stop : Nat} {marks : Marks} (hstart : start ≤ sample.length)
    (hcourse : Course.inOrder (exprs.map (Expr.course sample.toArray)) start stop
      marks) :
    (∀ mark ∈ marks, 2 * count + 1 < mark.1) ∧
      List.Forall₂ (Holds flags sample marks) (namedTexts selections)
        (exprs.flatMap Expr.captures) := by
  induction hwritten generalizing start marks with
  | nil =>
      obtain ⟨_, rfl⟩ := hcourse
      exact ⟨by simp, .nil⟩
  | @plain count text exprs others later _ hbare _ _ ih =>
      rw [List.map_append, Course.inOrder_append] at hcourse
      obtain ⟨middle, early, late, hearly, hlate, rfl⟩ := hcourse
      have hsilent : early = [] :=
        ((Pattern.denotes_inOrder sample hbare).mem_stretch hstart hearly).1
      rw [← Expr.course_joined] at hearly
      have hmiddle := ((Expr.joined exprs).course_within _ _ _ _ hearly).2
        (by simpa using hstart)
      rw [List.size_toArray] at hmiddle
      obtain ⟨hslots, hheld⟩ := ih hmiddle hlate
      have hgroups : (exprs ++ others).flatMap Expr.captures =
          others.flatMap Expr.captures := by
        rw [List.flatMap_append, List.flatMap_eq_nil_iff.2
          fun expr hexpr => Expr.captures_of_isBare (hbare expr hexpr),
          List.nil_append]
      rw [hsilent, List.append_nil, hgroups]
      exact ⟨hslots, hheld⟩
  | @named count text name exprs others later hspells hbare _ _ ih =>
      rw [List.map_cons, Course.inOrder_cons] at hcourse
      obtain ⟨middle, early, late, ⟨inner, hinner, rfl⟩, hlate, rfl⟩ := hcourse
      have hjoined := Expr.isBare_joined hbare
      have hmiddle := ((Expr.joined exprs).course_within _ _ _ _ hinner).2
        (by simpa using hstart)
      rw [List.size_toArray] at hmiddle
      obtain ⟨hslots, hheld⟩ := ih hmiddle hlate
      have hsilent : inner = [] := by
        rw [Expr.course_joined] at hinner
        exact ((Pattern.denotes_inOrder sample hbare).mem_stretch hstart hinner).1
      have hgroups : (Expr.capture (count + 1) (some name) (.joined exprs) ::
          others).flatMap Expr.captures =
            (count + 1, some name) :: others.flatMap Expr.captures := by
        rw [List.flatMap_cons, Expr.captures, Expr.captures_of_isBare hjoined]
        rfl
      have hmatches := matchesExactly_slice hmultiline hspells hbare hstart hinner
      obtain ⟨hopened, hclosed⟩ := lookup_slots hslots
      rw [hsilent, hgroups]
      constructor
      · intro mark hmark
        rcases List.mem_append.1 hmark with hlater | hown
        · have := hslots mark hlater
          omega
        · simp only [List.nil_append, List.mem_cons, List.not_mem_nil,
            or_false] at hown
          rcases hown with rfl | rfl <;> dsimp only <;> omega
      · apply List.Forall₂.cons
        · exact ⟨rfl, start, middle, hopened, hclosed, hmatches⟩
        · exact hheld.imp fun _ _ hholds => hholds.append

/-! ## The loop closes -/

/-- The captures of a match of the buffer: under each given name, in order, a
text that the fragment of its selection matches exactly, and the whole match
where no name is given. -/
def Captured (flags : Flags) (selections : List Selection)
    (captures : List Capture) : Prop :=
  if namedTexts selections = [] then
    captures = [⟨wholeName, selectedText selections⟩]
  else
    List.Forall₂ (fun given capture => capture.name = given.2 ∧
        MatchesExactly flags (fragmentForSelection given.1) capture.value)
      (namedTexts selections) captures

/-- The buffer is well formed, and as a pattern for whole texts it finds the
selected pieces side by side and nothing else. -/
structure Closes (flags : Flags) (selections : List Selection) (pattern : Text) :
    Prop where
  wellFormed : ∀ sizeLimit other diagnostic,
    compile pattern flags sizeLimit ≠ .error (.badPattern other diagnostic)
  wellFormed_anchored : flags.multiline = false → ∀ sizeLimit other diagnostic,
    compile (anchored pattern) flags sizeLimit ≠
      .error (.badPattern other diagnostic)
  only : flags.multiline = false →
    ∀ (budget : Budget) (program : Program), budget.Allows flags →
      compile (anchored pattern) flags budget.sizeLimit = .ok program →
      ∃ record, execute (anchored pattern) flags (selectedText selections) budget =
          .ok [record] ∧
        record.startOffset = 0 ∧ record.matchedText = selectedText selections ∧
        Captured flags selections record.captures

/-- The groups of names are reported one for one. -/
theorem forall₂_reported {flags : Flags} {sample : Text} {found : Machine.Found}
    {givens : List (Text × Text)} {groups : List (Nat × Option Text)}
    (hholds : List.Forall₂ (Holds flags sample found.marks) givens groups) :
    List.Forall₂ (fun given capture => capture.name = given.2 ∧
        MatchesExactly flags (fragmentForSelection given.1) capture.value) givens
      ((groups.filterMap fun (index, name) => name.map ((index, ·))).filterMap
        fun (index, name) => (found.group? index).map fun (start, stop) =>
          (⟨name, slice sample start stop⟩ : Capture)) := by
  induction hholds with
  | nil => exact .nil
  | @cons given group givens groups hfirst _ ih =>
      obtain ⟨index, name⟩ := group
      obtain ⟨hname, start, stop, hstart, hstop, hmatches⟩ := hfirst
      have hgroup : found.group? index = some (start, stop) := by
        rw [Machine.Found.group?, hstart, hstop]
        rfl
      dsimp only at hname
      subst hname
      simp only [List.filterMap_cons, Option.map_some, hgroup]
      exact .cons ⟨rfl, hmatches⟩ ih

/-- Groups that all have names are reported under them. -/
theorem captured_of_holds {flags : Flags} {selections : List Selection}
    {groups : List (Nat × Option Text)} {found : Machine.Found}
    (hstart : found.start = 0) (hstop : found.stop = (selectedText selections).length)
    (hholds : List.Forall₂ (Holds flags (selectedText selections) found.marks)
      (namedTexts selections) groups) :
    Captured flags selections
      (Matching.capturesOf groups (selectedText selections) found) := by
  have hreported := forall₂_reported hholds
  rw [Captured]
  generalize namedTexts selections = givens at hholds hreported ⊢
  cases hholds with
  | nil =>
      simp only [Matching.capturesOf, List.isEmpty_nil, if_true, hstart, hstop,
        Inference.slice_whole]
  | @cons given group givens groups hfirst _ =>
      obtain ⟨index, name⟩ := group
      obtain rfl : name = some given.2 := hfirst.1
      have hnamed : (((index, some given.2) :: groups).filterMap
          fun (index, name) => name.map ((index, ·))).isEmpty = false := rfl
      rw [if_neg (List.cons_ne_nil given givens), Matching.capturesOf,
        Matching.reportedGroups, hnamed]
      exact hreported

/-- However selections follow each other, with or without names, the buffer they
leave behind closes the loop. -/
theorem buffer_closes (flags : Flags) {selections : List Selection}
    (hnames : ∀ name ∈ givenNames selections, isCaptureName name = true)
    (hdistinct : (givenNames selections).Nodup) :
    ∃ pattern, buffer selections = .ok pattern ∧ Closes flags selections pattern := by
  obtain ⟨exprs, hwritten⟩ := exists_written flags 0 selections
  have htaken : ([] ++ givenNames selections).Nodup := hdistinct
  obtain ⟨pattern, after, hbuffer, _, hspells⟩ :=
    hwritten.exists_buffer hnames htaken
  have hspelling : Expr.read flags.modes pattern = .ok (.joined exprs) :=
    Pattern.read_spelling (by decide) hspells
  have hread (hmultiline : flags.multiline = false) :
      Expr.read flags.modes (anchored pattern) = .ok (.whole (.joined exprs)) :=
    Pattern.read_whole hmultiline (by decide) hspells
  refine ⟨pattern, hbuffer, Inference.not_badPattern_of_read hspelling, ?_, ?_⟩
  · intro hmultiline
    exact Inference.not_badPattern_of_read (hread hmultiline)
  · intro hmultiline budget program hallows hcompile
    obtain ⟨marks, hcourse⟩ := hwritten.exists_course [] []
    simp only [List.nil_append, List.append_nil, List.length_nil] at hcourse
    rw [← Expr.course_joined] at hcourse
    obtain ⟨found, hstart, hstop, hinner, hexecute⟩ :=
      Matching.execute_whole hallows (by simp [anchored]) (hread hmultiline) hcompile
        hcourse
    rw [Expr.course_joined] at hinner
    have hholds := (hwritten.holds hmultiline (Nat.zero_le _) hinner).2
    refine ⟨_, hexecute, ?_, ?_, ?_⟩
    · simp [Record.ofFound, hstart]
    · rw [Record.ofFound, hstart, hstop]
      exact Inference.slice_whole _
    · rw [Record.ofFound, Expr.captures_joined]
      exact captured_of_holds hstart hstop hholds

/-- A number sign selected under a name, and another one without. -/
theorem buffer_closes_hashes :
    ∃ pattern,
      buffer [⟨"#".toList, some "sign".toList⟩, ⟨"#".toList, none⟩] = .ok pattern ∧
      Closes {} [⟨"#".toList, some "sign".toList⟩, ⟨"#".toList, none⟩] pattern := by
  have hnames : ∀ name ∈ givenNames
      [⟨"#".toList, some "sign".toList⟩, ⟨"#".toList, none⟩],
      isCaptureName name = true := by decide
  exact buffer_closes {} hnames (by decide)

end PatternWorkbench.Authoring
