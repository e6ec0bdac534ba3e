import PatternWorkbench.Matching.Flags
import PatternWorkbench.Proofs.Inference.Cover
import PatternWorkbench.Proofs.Pattern.Groups
import PatternWorkbench.Proofs.Pattern.Parts
import PatternWorkbench.Proofs.Unicode.Caseless

/-!
# Fragments of shapes

A fragment that is written for a shape has every text of the shape, under all
flags.  Fragments are read alike wherever they stand, and what one of them
passes can stand anywhere in a sample, so what holds of two fragments holds of
the two side by side.
-/

namespace PatternWorkbench.Inference

open Machine (Course)
open Matching (Flags)
open Pattern (Expr IsPart Spells)
open Unicode (CharSet)

/-! ## Fitting -/

/-- The expressions pass the text, one after the other, wherever it stands. -/
def Takes (exprs : List Expr) (text : Text) : Prop :=
  ∀ before after : Text,
    Course.inOrder (exprs.map (Expr.course (before ++ text ++ after).toArray))
      before.length (before ++ text).length []

theorem Takes.nil : Takes [] [] := by
  intro before after
  exact ⟨by simp, rfl⟩

/-- Expressions side by side take texts side by side. -/
theorem Takes.append {lefts rights : List Expr} {left right : Text}
    (hleft : Takes lefts left) (hright : Takes rights right) :
    Takes (lefts ++ rights) (left ++ right) := by
  intro before after
  have hearly := hleft before (right ++ after)
  have hlate := hright (before ++ left) after
  rw [List.map_append, Course.inOrder_append]
  simp only [List.append_assoc] at hearly hlate ⊢
  exact ⟨(before ++ left).length, [], [], hearly, hlate, rfl⟩

/-- A fragment that is read as bare parts, whatever stands around it, and that
passes the text. -/
structure Fits (flags : Flags) (fragment text : Text) : Prop where
  begins : fragment.head? ≠ some '?'
  takes : ∃ exprs, Spells flags.modes 5 fragment exprs ∧
    (∀ expr ∈ exprs, expr.isBare = true) ∧ Takes exprs text

section Fits

variable {flags : Flags}

theorem Fits.nil : Fits flags [] [] where
  begins := by simp
  takes := ⟨[], Spells.nil _ _, by simp, Takes.nil⟩

/-- Fragments side by side fit texts side by side. -/
theorem Fits.append {left right first second : Text}
    (hfirst : Fits flags left first) (hsecond : Fits flags right second) :
    Fits flags (left ++ right) (first ++ second) := by
  obtain ⟨lefts, hleft, hbare, htakes⟩ := hfirst.takes
  obtain ⟨rights, hright, hbare', htakes'⟩ := hsecond.takes
  constructor
  · exact Pattern.head?_append_ne hfirst.begins hsecond.begins
  · refine ⟨lefts ++ rights, hleft.append hright hsecond.begins, ?_,
      htakes.append htakes'⟩
    intro expr hexpr
    rcases List.mem_append.1 hexpr with hexpr | hexpr
    · exact hbare expr hexpr
    · exact hbare' expr hexpr

end Fits

/-- The fragment is read as these bare parts, whatever stands around it. -/
structure Reads (flags : Flags) (fragment : Text) (exprs : List Expr) : Prop where
  begins : fragment.head? ≠ some '?'
  spells : Spells flags.modes 5 fragment exprs
  bare : ∀ expr ∈ exprs, expr.isBare = true

section Reads

variable {flags : Flags}

theorem Reads.append {left right : Text} {lefts rights : List Expr}
    (hleft : Reads flags left lefts) (hright : Reads flags right rights) :
    Reads flags (left ++ right) (lefts ++ rights) where
  begins := Pattern.head?_append_ne hleft.begins hright.begins
  spells := hleft.spells.append hright.spells hright.begins
  bare := List.forall_mem_append.2 ⟨hleft.bare, hright.bare⟩

theorem Reads.fits {fragment text : Text} {exprs : List Expr}
    (hreads : Reads flags fragment exprs) (htakes : Takes exprs text) :
    Fits flags fragment text :=
  ⟨hreads.begins, exprs, hreads.spells, hreads.bare, htakes⟩

end Reads

/-! ## Sets -/

/-- A set that a part stands for passes each of its members. -/
theorem takes_set {set : CharSet} {c : Char} (hmem : set.mem c = true) :
    Takes [.set set] [c] := by
  intro before after
  rw [List.map_singleton, Course.inOrder_cons, Course.inOrder_nil,
    Course.andThen_stay]
  refine ⟨⟨c, ?_, hmem⟩, by simp, rfl⟩
  simp

/-- As many rounds as there are characters pass a text of members. -/
theorem power_take {set : CharSet} {text : Text}
    (hmem : ∀ c ∈ text, set.mem c = true) (before after : Text) :
    (Course.take (before ++ text ++ after).toArray set).power text.length
      before.length (before ++ text).length [] := by
  induction text generalizing before with
  | nil => exact ⟨by simp, rfl⟩
  | cons c text ih =>
      have hlater := ih (fun d hd => hmem d (by simp [hd])) (before ++ [c])
      simp only [List.append_assoc, List.singleton_append] at hlater
      rw [List.length_cons, Course.power_succ, List.append_assoc]
      refine ⟨before.length + 1, [], [], ⟨⟨c, ?_, hmem c (by simp)⟩, rfl, rfl⟩, ?_, rfl⟩
      · simp
      · simpa using hlater

/-! ## Kinds -/

/-- Whether a kind's spelling means the kind. -/
def Kind.isLegible : Kind → Bool
  | exact c => c == '.' || Pattern.standsForItself c
  | _ => true

/-- Ignoring case adds to a set and takes nothing from it. -/
theorem mem_fold {flags : Flags} {set : CharSet} {c : Char}
    (hmem : set.mem c = true) :
    (Pattern.Meaning.fold flags.modes set).mem c = true := by
  unfold Pattern.Meaning.fold
  split
  · exact hmem
  · exact CharSet.mem_folded.2 (Or.inl hmem)

/-- A set of gaps stays the same under all flags. -/
theorem mem_fold_of_isGap {flags : Flags} {set : CharSet}
    (hgap : ∀ c, set.mem c = true → Unicode.isGap c = true) (c : Char) :
    (Pattern.Meaning.fold flags.modes set).mem c = set.mem c := by
  unfold Pattern.Meaning.fold
  split
  · rfl
  · exact CharSet.mem_folded_of_isGap hgap c

def Kind.charSet (flags : Flags) : Kind → CharSet
  | exact c => Pattern.charSet flags.modes c
  | decimal => .decimal
  | word => .word
  | blank => .blank
  | nonBlank => .compl .blank
  | lower => Pattern.Meaning.fold flags.modes (.range 'a' 'z')
  | upper => Pattern.Meaning.fold flags.modes (.range 'A' 'Z')
  | letter =>
    Pattern.Meaning.fold flags.modes ((CharSet.range 'A' 'Z').union (.range 'a' 'z'))
  | oneToFive => Pattern.Meaning.fold flags.modes (.range '1' '5')
  | sign => Pattern.Meaning.fold flags.modes ((CharSet.single '+').union (.single '-'))
  | path =>
    .compl (Pattern.Meaning.fold flags.modes (CharSet.blank.union (.single '"')))
  | any => if flags.modes.dotMatchesNewLine then .any else .allBut '\n'

theorem Kind.fragment_exact (c : Char) :
    (Kind.exact c).fragment = if c = '.' then ['\\', '.'] else [c] := rfl

/-- The spelling of a kind is read as its set. -/
theorem Kind.isPart (flags : Flags) {kind : Kind} (hlegible : kind.isLegible = true) :
    IsPart flags.modes 2 kind.fragment (.set (kind.charSet flags)) := by
  cases kind with
  | exact c =>
      rw [fragment_exact]
      split
      case isTrue hdot =>
        rw [hdot]
        exact Pattern.isPart_escaped rfl (by decide)
      case isFalse hdot =>
        rw [isLegible, Bool.or_eq_true, beq_iff_eq] at hlegible
        exact Pattern.isPart_char rfl (hlegible.resolve_left hdot)
  | decimal => exact Pattern.isPart_shorthand .digit false rfl (fun _ _ => rfl)
  | word => exact Pattern.isPart_shorthand .word false rfl (fun _ _ => rfl)
  | blank => exact Pattern.isPart_shorthand .blank false rfl (fun _ _ => rfl)
  | nonBlank => exact Pattern.isPart_shorthand .blank true rfl (fun _ _ => rfl)
  | lower | upper | oneToFive => exact Pattern.isPart_range rfl rfl rfl (by decide)
  | letter => exact Pattern.isPart_letters rfl
  | sign => exact Pattern.isPart_sign rfl
  | path => exact Pattern.isPart_path rfl
  | any => exact Pattern.isPart_dot rfl rfl

/-- The set of a kind has every character of the kind. -/
theorem Kind.mem_charSet (flags : Flags) {kind : Kind} {c : Char}
    (hholds : kind.holds c = true) : (kind.charSet flags).mem c = true := by
  cases kind with
  | exact expected =>
      obtain rfl : c = expected := by simpa [holds] using hholds
      exact Pattern.mem_charSet flags.modes c
  | decimal | word | blank => exact hholds
  | nonBlank =>
      rw [charSet, CharSet.mem_compl]
      exact hholds
  | lower | upper | oneToFive =>
      apply mem_fold
      rwa [CharSet.mem_range]
  | letter =>
      apply mem_fold
      rwa [CharSet.mem_union, CharSet.mem_range, CharSet.mem_range]
  | sign =>
      apply mem_fold
      rwa [CharSet.mem_union, CharSet.mem_single, CharSet.mem_single]
  | path =>
      have hgap : ∀ d, (CharSet.blank.union (.single '"')).mem d = true →
          Unicode.isGap d = true := by
        intro d hd
        rwa [CharSet.mem_union, CharSet.mem_single] at hd
      rw [charSet, CharSet.mem_compl, mem_fold_of_isGap hgap, CharSet.mem_union,
        CharSet.mem_single]
      simpa [holds, Unicode.isBlank] using hholds
  | any =>
      rw [charSet]
      split
      · exact CharSet.mem_any c
      · rwa [CharSet.mem_allBut]

theorem Kind.exists_fragment_eq_cons {kind : Kind}
    (hlegible : kind.isLegible = true) :
    ∃ c rest, kind.fragment = c :: rest ∧ c ≠ '?' := by
  cases kind with
  | exact c =>
      rw [fragment_exact]
      split
      case isTrue => exact ⟨'\\', ['.'], rfl, by decide⟩
      case isFalse hdot =>
        refine ⟨c, [], rfl, ?_⟩
        rintro rfl
        simp [isLegible, Pattern.standsForItself, Pattern.Reading.beginsAtom] at hlegible
  | decimal | word | blank | nonBlank | lower | upper | letter | oneToFive | sign
  | path | any => exact ⟨_, _, rfl, by decide⟩

/-! ## Counts and runs -/

namespace Count

def isLegible : Count → Bool
  | exactly count => count < Pattern.RepetitionReading.countLimit
  | between low high => low ≤ high && high < Pattern.RepetitionReading.countLimit
  | oneOrMore | anyNumber => true

theorem least_le_bound {count : Count} (hlegible : count.isLegible = true) :
    ∀ bound ∈ count.bound, count.least ≤ bound := by
  intro highest hhighest
  cases count with
  | exactly count =>
      obtain rfl : count = highest := by simpa [bound] using hhighest
      exact Nat.le_refl _
  | between low high =>
      obtain rfl : high = highest := by simpa [bound] using hhighest
      simp only [isLegible, Bool.and_eq_true, decide_eq_true_eq] at hlegible
      exact hlegible.1
  | oneOrMore | anyNumber => simp [bound] at hhighest

/-- A suffix is read as the operator for its count, unless it is empty. -/
theorem operator?_suffix {count : Count} (hlegible : count.isLegible = true) :
    count = exactly 1 ∨ ∃ c suffix, count.suffix = c :: suffix ∧
      (c ≠ '(' ∧ c ≠ ')' ∧ c ≠ '|') ∧
      ∀ (pos : Nat) (rest : Text), rest.head? ≠ some '?' →
        Pattern.Reading.operator? false pos c (suffix ++ rest) =
          some (.ok ⟨⟨count.least, count.bound⟩, true, pos + (c :: suffix).length⟩) := by
  cases count with
  | exactly count =>
      by_cases hone : count = 1
      · exact Or.inl (hone ▸ rfl)
      · refine Or.inr ⟨'{', decimal count ++ ['}'], ?_, by decide, ?_⟩
        · simp [suffix, hone]
        · intro pos rest hrest
          have hcounted := Pattern.RepetitionReading.counted_exactly pos count rest
            (by simpa [isLegible] using hlegible) hrest
          have hstop : pos + ('{' :: (decimal count ++ ['}'])).length =
              pos + 1 + (decimal count).length + 1 := by
            simp only [List.length_cons, List.length_append, List.length_nil]
            omega
          rw [Pattern.Reading.operator?, if_pos rfl, List.append_assoc, hstop]
          exact congrArg some hcounted
  | between low high =>
      simp only [isLegible, Bool.and_eq_true, decide_eq_true_eq] at hlegible
      refine Or.inr ⟨'{', decimal low ++ ',' :: (decimal high ++ ['}']), ?_,
        by decide, ?_⟩
      · simp [suffix]
      · intro pos rest hrest
        have hcounted := Pattern.RepetitionReading.counted_between pos low high rest
          hlegible.2 hlegible.1 hrest
        have hstop : pos + ('{' :: (decimal low ++ ',' ::
            (decimal high ++ ['}']))).length =
              pos + 1 + (decimal low).length + 1 + (decimal high).length + 1 := by
          simp only [List.length_cons, List.length_append, List.length_nil]
          omega
        rw [Pattern.Reading.operator?, if_pos rfl, List.append_assoc,
          List.cons_append, List.append_assoc, hstop]
        exact congrArg some hcounted
  | oneOrMore =>
      refine Or.inr ⟨'+', [], rfl, by decide, ?_⟩
      intro pos rest hrest
      exact Pattern.Reading.operator?_mark rfl pos hrest
  | anyNumber =>
      refine Or.inr ⟨'*', [], rfl, by decide, ?_⟩
      intro pos rest hrest
      exact Pattern.Reading.operator?_mark rfl pos hrest

end Count

namespace Run

def isLegible (run : Run) : Bool :=
  run.kind.isLegible && run.count.isLegible

def expr (flags : Flags) (run : Run) : Expr :=
  .repetition run.count.least run.count.bound true (.set (run.kind.charSet flags))

variable (flags : Flags) {run : Run} {text : Text}

theorem spells (hlegible : run.isLegible = true) :
    Spells flags.modes 3 run.fragment [run.expr flags] := by
  rw [isLegible, Bool.and_eq_true] at hlegible
  obtain ⟨hkind, hcount⟩ := hlegible
  have hpart := Kind.isPart flags hkind
  rcases Count.operator?_suffix hcount with hone | ⟨c, suffix, hsuffix, hplain, hoperator⟩
  · rw [Run.fragment, expr, hone, Count.suffix, if_pos rfl, List.append_nil]
    exact hpart.spells.mono (by omega)
  · rw [Run.fragment, hsuffix]
    exact hpart.spells_repetition rfl hoperator hplain

/-- The expression of a run runs through as many members of its set as the run
may have. -/
theorem course_expr (hlegible : run.isLegible = true) (sample : Array Char) :
    (run.expr flags).course sample = .between run.count.least run.count.bound
      (Course.take sample (run.kind.charSet flags)) := by
  rw [isLegible, Bool.and_eq_true] at hlegible
  exact Expr.course_repetition_set sample _ _ _ _ (Count.least_le_bound hlegible.2)

theorem reads (hlegible : run.isLegible = true) :
    Reads flags run.fragment [run.expr flags] where
  begins := by
    rw [isLegible, Bool.and_eq_true] at hlegible
    obtain ⟨c, rest, hfragment, hne⟩ := Kind.exists_fragment_eq_cons hlegible.1
    rw [Run.fragment, hfragment]
    simpa using hne
  spells := (spells flags hlegible).mono (by omega)
  bare := by
    intro other hother
    rw [List.mem_singleton.1 hother]
    exact Expr.isBare_repetition _ _ _ rfl

/-- The expression of a run passes the texts of the run. -/
theorem takes (hlegible : run.isLegible = true) (hpasses : run.Passes text) :
    Takes [run.expr flags] text := by
  intro before after
  rw [List.map_singleton, Course.inOrder_cons, Course.inOrder_nil,
    Course.andThen_stay, course_expr flags hlegible]
  refine ⟨text.length, hpasses.least, ?_, power_take (fun c hc =>
    Kind.mem_charSet flags (hpasses.holds c hc)) before after⟩
  intro bound hhighest
  have := hpasses.bound bound hhighest
  omega

theorem fits (hlegible : run.isLegible = true) (hpasses : run.Passes text) :
    Fits flags run.fragment text :=
  (reads flags hlegible).fits (takes flags hlegible hpasses)

end Run

/-! ## Shapes -/

section Words

variable {flags : Flags} {word : Text}

def letters (flags : Flags) (word : Text) : List Expr :=
  word.map fun c => .set (Pattern.charSet flags.modes c)

theorem head?_ne_of_standsForItself
    (hword : ∀ c ∈ word, Pattern.standsForItself c = true) :
    word.head? ≠ some '?' := by
  intro hhead
  have := hword '?' (List.mem_of_head? hhead)
  contradiction

theorem spells_letters (hword : ∀ c ∈ word, Pattern.standsForItself c = true) :
    Spells flags.modes 2 word (letters flags word) := by
  induction word with
  | nil => exact Spells.nil _ _
  | cons c word ih =>
      have hlater : ∀ d ∈ word, Pattern.standsForItself d = true :=
        fun d hd => hword d (by simp [hd])
      exact (Pattern.isPart_char rfl (hword c (by simp))).spells.append (ih hlater)
        (head?_ne_of_standsForItself hlater)

theorem isBare_letters : ∀ expr ∈ letters flags word, expr.isBare = true := by
  intro expr hexpr
  obtain ⟨c, _, rfl⟩ := List.mem_map.1 hexpr
  rfl

theorem takes_letters : Takes (letters flags word) word := by
  induction word with
  | nil => exact Takes.nil
  | cons c word ih =>
      exact Takes.append (takes_set (Pattern.mem_charSet flags.modes c)) ih

def choice (flags : Flags) (words : List Text) : Expr :=
  .chosen (words.map fun word => .joined (letters flags word))

theorem reads_choice {words : List Text} (hne : words ≠ [])
    (hwords : ∀ word ∈ words, ∀ c ∈ word, Pattern.standsForItself c = true) :
    Reads flags (Shape.oneOf words).fragment [choice flags words] := by
  let bodies : List (Text × List Expr) :=
    words.map fun word => (word, letters flags word)
  have hspells : ∀ body ∈ bodies, Spells flags.modes 2 body.1 body.2 := by
    intro body hbody
    obtain ⟨word, hword, rfl⟩ := List.mem_map.1 hbody
    exact spells_letters (hwords word hword)
  have hfragment : (Shape.oneOf words).fragment =
      ['(', '?', ':'] ++ Pattern.barred bodies ++ [')'] := by
    have hbarred : Pattern.barred bodies = List.intercalate ['|'] words := by
      simp [Pattern.barred, bodies, Function.comp_def]
    rw [hbarred]
    rfl
  have hchoice : choice flags words = .chosen (bodies.map (.joined ·.2)) := by
    simp [choice, bodies, Function.comp_def]
  rw [hfragment, hchoice]
  refine ⟨by simp, (Pattern.isPart_choice (by simpa [bodies] using hne) hspells).spells, ?_⟩
  intro expr hexpr
  rw [List.mem_singleton.1 hexpr, ← hchoice]
  apply Expr.isBare_chosen
  intro branch hbranch
  obtain ⟨other, _, rfl⟩ := List.mem_map.1 hbranch
  exact Expr.isBare_joined isBare_letters

/-- A choice among words passes each of them. -/
theorem takes_choice {words : List Text} (hmem : word ∈ words) :
    Takes [choice flags words] word := by
  intro before after
  rw [List.map_singleton, Course.inOrder_cons, Course.inOrder_nil,
    Course.andThen_stay, choice, Expr.course_chosen]
  refine ⟨_, List.mem_map_of_mem (List.mem_map_of_mem hmem), ?_⟩
  rw [Expr.course_joined]
  exact takes_letters before after

end Words

namespace Shape

def isLegible : Shape → Bool
  | row runs => runs.all Run.isLegible
  | oneOf words => words.all fun word => word.all Pattern.standsForItself

def exprs (flags : Flags) : Shape → List Expr
  | row runs => runs.map (Run.expr flags)
  | oneOf words => [choice flags words]

variable (flags : Flags)

theorem reads_row {runs : List Run} (hlegible : runs.all Run.isLegible = true) :
    Reads flags (runs.flatMap Run.fragment) (runs.map (Run.expr flags)) := by
  induction runs with
  | nil => exact ⟨by simp, Spells.nil _ _, by simp⟩
  | cons run runs ih =>
      rw [List.all_cons, Bool.and_eq_true] at hlegible
      rw [List.flatMap_cons, List.map_cons]
      exact (Run.reads flags hlegible.1).append (ih hlegible.2)

/-- The fragment of a shape is read as bare parts. -/
theorem reads {shape : Shape} (hlegible : shape.isLegible = true)
    (hne : shape ≠ .oneOf []) : Reads flags shape.fragment (shape.exprs flags) := by
  cases shape with
  | row runs => exact reads_row flags hlegible
  | oneOf words =>
      refine reads_choice (fun hnil => hne (hnil ▸ rfl)) fun word hword => ?_
      exact List.all_eq_true.1 (List.all_eq_true.1 hlegible word hword)

theorem takes_row {runs : List Run} {text : Text}
    (hlegible : runs.all Run.isLegible = true) (hpasses : RowPasses runs text) :
    Takes (runs.map (Run.expr flags)) text := by
  induction hpasses with
  | nil => exact Takes.nil
  | cons hfirst _ ih =>
      rw [List.all_cons, Bool.and_eq_true] at hlegible
      exact (Run.takes flags hlegible.1 hfirst).append (ih hlegible.2)

/-- What a shape's fragment is read as passes the texts of the shape. -/
theorem takes {shape : Shape} {text : Text} (hlegible : shape.isLegible = true)
    (hpasses : shape.Passes text) : Takes (shape.exprs flags) text := by
  cases shape with
  | row runs => exact takes_row flags hlegible hpasses
  | oneOf words => exact takes_choice hpasses

/-- A shape's fragment fits the texts of the shape. -/
theorem fits_of_passes {shape : Shape} {text : Text} (hlegible : shape.isLegible = true)
    (hpasses : shape.Passes text) : Fits flags shape.fragment text := by
  refine (reads flags hlegible ?_).fits (takes flags hlegible hpasses)
  rintro rfl
  exact List.not_mem_nil hpasses

end Shape

end PatternWorkbench.Inference
