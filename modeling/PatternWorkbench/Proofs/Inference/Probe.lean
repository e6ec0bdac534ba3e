import PatternWorkbench.Proofs.Inference.Generalization
import PatternWorkbench.Proofs.Matching.Beginning
import PatternWorkbench.Proofs.Pattern.Language
import PatternWorkbench.Proofs.Unicode.Ascii

/-!
# Shapes at the beginning of a text

The pattern for texts that begin with a shape finds what the shape covers, and
finds nothing where the shape covers nothing.
-/

namespace PatternWorkbench.Inference

open Machine (Course Fills Flow Program)
open Matching (FindsFirst Flags)
open Pattern (Expr)
open Unicode (CharSet)

/-! ## Sets without flags -/

/-- Without flags the set of a kind has the characters of the kind and no
others. -/
theorem Kind.mem_charSet_plain (kind : Kind) (c : Char) :
    (kind.charSet {}).mem c = kind.holds c := by
  cases kind with
  | exact expected => exact CharSet.mem_single expected c
  | decimal | word | blank => rfl
  | nonBlank => exact CharSet.mem_compl _ c
  | lower | upper | oneToFive => exact CharSet.mem_range _ _ c
  | letter => exact (CharSet.mem_union _ _ c).trans (by simp [holds])
  | sign => exact (CharSet.mem_union _ _ c).trans (by simp [holds])
  | path =>
      have hset : (Kind.path.charSet {}) = .compl (CharSet.blank.union (.single '"')) := rfl
      rw [hset, CharSet.mem_compl, CharSet.mem_union, CharSet.mem_single, Bool.not_or]
      rfl
  | any => exact CharSet.mem_allBut '\n' c

/-! ## Courses of a shape -/

def Run.language (run : Run) : Language Char :=
  {text | run.Passes text}

def rowLanguage (runs : List Run) : Language Char :=
  {text | RowPasses runs text}

def Shape.language (shape : Shape) : Language Char :=
  {text | shape.Passes text}

theorem rowLanguage_nil : rowLanguage [] = 1 :=
  Language.ext fun text => rowPasses_nil_iff.trans (Language.mem_one text).symm

theorem rowLanguage_cons (run : Run) (runs : List Run) :
    rowLanguage (run :: runs) = run.language * rowLanguage runs := by
  apply Language.ext
  intro text
  rw [Language.mem_mul]
  constructor
  · intro hpasses
    obtain ⟨first, later, rfl, hfirst, hlater⟩ := rowPasses_cons_iff.1 hpasses
    exact ⟨first, hfirst, later, hlater, rfl⟩
  · rintro ⟨first, hfirst, later, hlater, rfl⟩
    exact RowPasses.cons hfirst hlater

section Courses

variable (sample : Text)

theorem Run.denotes {run : Run} (hlegible : run.isLegible = true) :
    Course.Denotes sample ((run.expr {}).course sample.toArray) run.language := by
  have hbound : ∀ bound ∈ run.count.bound, run.count.least ≤ bound := by
    rw [isLegible, Bool.and_eq_true] at hlegible
    exact Count.least_le_bound hlegible.2
  have hlanguage : run.language = {text | ∃ count, run.count.least ≤ count ∧
      (∀ bound ∈ run.count.bound, count ≤ max run.count.least bound) ∧
      text ∈ (Expr.set (run.kind.charSet {})).language ^ count} := by
    apply Language.ext
    intro text
    constructor
    · rintro ⟨hholds, hleast, hmost⟩
      refine ⟨text.length, hleast, fun bound hhigh => ?_, Pattern.mem_pow_set_iff.2 ⟨rfl, ?_⟩⟩
      · exact Nat.le_trans (hmost bound hhigh) (Nat.le_max_right _ _)
      · exact fun c hc => (run.kind.mem_charSet_plain c).trans (hholds c hc)
    · rintro ⟨count, hleast, hmost, htext⟩
      obtain ⟨rfl, hmembers⟩ := Pattern.mem_pow_set_iff.1 htext
      refine ⟨fun c hc => ?_, hleast, fun bound hhigh => ?_⟩
      · rw [← Kind.mem_charSet_plain]
        exact hmembers c hc
      · rw [← Nat.max_eq_right (hbound bound hhigh)]
        exact hmost bound hhigh
  rw [hlanguage, course_expr {} hlegible]
  exact (Course.Denotes.take _).between _ _

theorem denotes_row {runs : List Run} (hlegible : runs.all Run.isLegible = true) :
    Course.Denotes sample
      (.inOrder ((runs.map (Run.expr {})).map (Expr.course sample.toArray)))
      (rowLanguage runs) := by
  induction runs with
  | nil =>
      rw [rowLanguage_nil]
      exact Course.Denotes.stay
  | cons run runs ih =>
      rw [List.all_cons, Bool.and_eq_true] at hlegible
      rw [rowLanguage_cons]
      exact (Run.denotes sample hlegible.1).andThen (ih hlegible.2)

/-- Letter by letter a word stands for itself alone. -/
theorem mem_languageOf_letters_iff {word text : Text} :
    text ∈ Pattern.languageOf (letters {} word) ↔ text = word := by
  induction word generalizing text with
  | nil => exact Language.mem_one text
  | cons c word ih =>
      have hcons : Pattern.languageOf (letters {} (c :: word)) =
          (Expr.set (.single c)).language * Pattern.languageOf (letters {} word) :=
        List.prod_cons
      rw [hcons, Language.mem_mul]
      constructor
      · rintro ⟨_, ⟨d, hd, rfl⟩, later, hlater, rfl⟩
        rw [CharSet.mem_single, beq_iff_eq] at hd
        rw [hd, ih.1 hlater, List.singleton_append]
      · rintro rfl
        exact ⟨[c], ⟨c, by simp, rfl⟩, word, ih.2 rfl, rfl⟩

theorem denotes_choice (words : List Text) :
    Course.Denotes sample ((choice {} words).course sample.toArray)
      (Shape.oneOf words).language := by
  have hletters : ∀ word ∈ words, Course.Denotes sample
      ((Expr.joined (letters {} word)).course sample.toArray)
      (Pattern.languageOf (letters {} word)) := by
    intro word _
    rw [Expr.course_joined]
    exact Pattern.denotes_inOrder sample isBare_letters
  have hlanguage : (Shape.oneOf words).language =
      {text | ∃ word ∈ words, text ∈ Pattern.languageOf (letters {} word)} := by
    apply Language.ext
    intro text
    constructor
    · intro htext
      exact ⟨text, htext, mem_languageOf_letters_iff.2 rfl⟩
    · rintro ⟨word, hword, htext⟩
      rw [mem_languageOf_letters_iff.1 htext]
      exact hword
  rw [hlanguage, choice, Expr.course_chosen, List.map_map]
  exact Course.Denotes.anyOf hletters

/-- Without flags what a shape's fragment is read as passes the texts of the shape
and no others. -/
theorem Shape.denotes {shape : Shape} (hlegible : shape.isLegible = true) :
    Course.Denotes sample
      (.inOrder ((shape.exprs {}).map (Expr.course sample.toArray))) shape.language := by
  cases shape with
  | row runs => exact denotes_row sample hlegible
  | oneOf words =>
      rw [exprs, List.map_singleton, Course.inOrder_cons, Course.inOrder_nil,
        Course.andThen_stay]
      exact denotes_choice sample words

end Courses

/-! ## What a row prefers -/

/-- What a run covers fills its set. -/
theorem Run.fills {run : Run} {before text : Text} {taken : Nat}
    (hcover : run.cover? text = some taken) :
    Fills (before ++ text).toArray (run.kind.charSet {}) run.count.bound before.length
      taken where
  members offset hoffset := by
    have hinside : offset < text.length := Nat.lt_of_lt_of_le hoffset (cover?_le hcover)
    have htaken : (text.take taken)[offset]? = some text[offset] := by
      simp [hoffset, hinside]
    refine ⟨text[offset], by simp [hinside], ?_⟩
    rw [Kind.mem_charSet_plain]
    exact (passes_of_cover? hcover).holds _ (List.mem_of_getElem? htaken)
  full := by
    refine (full_of_cover? hcover).imp_right fun hstops c hc => ?_
    rw [Kind.mem_charSet_plain]
    apply hstops
    simpa [List.getElem?_append_right] using hc

theorem prefersInOrder_of_coverRow? {runs : List Run} {before text : Text} {length : Nat}
    (hlegible : runs.all Run.isLegible = true)
    (hcover : Shape.coverRow? runs text = some length) :
    Pattern.prefersInOrder (before ++ text).toArray (runs.map (Run.expr {})) (fun _ => True)
      before.length (before.length + length) [] := by
  induction runs generalizing before text length with
  | nil =>
      obtain rfl : 0 = length := by simpa [Shape.coverRow?] using hcover
      exact ⟨rfl, rfl⟩
  | cons run runs ih =>
      rw [List.all_cons, Bool.and_eq_true] at hlegible
      obtain ⟨taken, later, hfirst, hlater, rfl⟩ := Shape.coverRow?_cons_eq_some_iff.1 hcover
      obtain ⟨htaken, hleast⟩ := Run.cover?_eq_some_iff.1 hfirst
      have hmost : ∀ bound ∈ run.count.bound, taken ≤ bound := by
        rw [htaken]
        exact Count.most_le_bound _ _
      have hrest := @ih (before ++ text.take taken) _ _ hlegible.2 hlater
      rw [List.append_assoc, List.take_append_drop, List.length_append,
        List.length_take_of_le (Run.cover?_le hfirst), Nat.add_assoc] at hrest
      have hgoal := Pattern.inOrder_of_prefersInOrder _ _ hrest
      exact ⟨before.length + taken, [], [], Machine.prefers_repetition_set hleast hmost
        (Run.fills hfirst) ⟨_, _, hgoal, trivial⟩, hrest, rfl⟩

/-- The search for a row finds what the row covers. -/
theorem search?_row_iff {runs : List Run} {text : Text} {length : Nat}
    (hlegible : runs.all Run.isLegible = true) (hseparated : Separated runs) :
    (∃ found, (Program.ofExpr (.beginning (.joined (runs.map (Run.expr {}))))).search?
        text.toArray 0 = some found ∧ found.stop = length) ↔
      Shape.coverRow? runs text = some length := by
  have hfound {length : Nat} (hcover : Shape.coverRow? runs text = some length) :
      (Program.ofExpr (.beginning (.joined (runs.map (Run.expr {}))))).search?
        text.toArray 0 = some ⟨0, length, []⟩ := by
    have hprefers := @prefersInOrder_of_coverRow? runs [] text length hlegible hcover
    rw [List.nil_append, List.length_nil, Nat.zero_add] at hprefers
    apply Matching.search?_beginning_of_prefers
    rwa [Pattern.prefers_joined]
  constructor
  · rintro ⟨found, hsearch, rfl⟩
    have hcourse := (Matching.course_of_search?_beginning hsearch).2
    rw [Expr.course_joined] at hcourse
    -- A match is some text of the row, so the row covers something.  The search
    -- finds what is covered, and has only one result.
    obtain ⟨_, piece, after, rfl, hpasses, _⟩ :=
      (denotes_row text hlegible [] text _ _ rfl).1 hcourse
    obtain ⟨covered, hcover, _⟩ := Shape.exists_coverRow? hseparated hpasses after
    rw [hfound hcover] at hsearch
    rw [hcover, ← Option.some.inj hsearch]
  · intro hcover
    exact ⟨_, hfound hcover, rfl⟩

/-! ## Words up to a boundary -/

theorem holds_boundary {word after : Text} (hne : word ≠ [])
    (hword : ∀ c ∈ word, Unicode.isWord c = true) :
    (Pattern.Look.word .boundary false).holds
        (Machine.before? (word ++ after).toArray word.length)
        (word ++ after).toArray[word.length]? = Follow.wordEnd.agrees after := by
  have hlength : 0 < word.length := List.length_pos_iff.2 hne
  have hlast : word.length - 1 < word.length := by omega
  have hbefore : Machine.before? (word ++ after).toArray word.length =
      some word[word.length - 1] := by
    rw [Machine.before?, if_neg (by omega), List.getElem?_toArray,
      List.getElem?_append_left hlast, List.getElem?_eq_getElem hlast]
  have hafter : (word ++ after).toArray[word.length]? = after.head? := by
    rw [List.getElem?_toArray, List.getElem?_append_right (Nat.le_refl _), Nat.sub_self,
      List.head?_eq_getElem?]
  rw [hbefore, hafter]
  cases after with
  | nil => simp [Pattern.Look.holds, Pattern.WordEdge.holds, Follow.agrees, hword]
  | cons c after => simp [Pattern.Look.holds, Pattern.WordEdge.holds, Follow.agrees, hword]

def choiceToBoundary (words : List Text) : Expr :=
  .joined [choice {} words, .look (.word .boundary false)]

theorem course_choiceToBoundary_iff {words : List Text} {text : Text} {stop : Nat}
    {marks : Machine.Marks} (hne : ∀ word ∈ words, word ≠ [])
    (hwords : ∀ word ∈ words, ∀ c ∈ word, Unicode.isWord c = true) :
    (choiceToBoundary words).course text.toArray 0 stop marks ↔
      marks = [] ∧ ∃ word ∈ words, ∃ after, text = word ++ after ∧ stop = word.length ∧
        Follow.wordEnd.agrees after = true := by
  rw [choiceToBoundary, Expr.course_joined]
  simp only [List.map_cons, List.map_nil, Course.inOrder_cons, Course.inOrder_nil,
    Course.andThen_stay]
  have hchoice (middle : Nat) (early : Machine.Marks) :=
    denotes_choice text words [] text middle early rfl
  constructor
  · rintro ⟨middle, early, late, hearly, ⟨hedge, rfl, rfl⟩, rfl⟩
    obtain ⟨rfl, word, after, rfl, hword, rfl⟩ := (hchoice _ _).1 hearly
    refine ⟨rfl, word, hword, after, rfl, rfl, ?_⟩
    rwa [← holds_boundary (hne word hword) (hwords word hword)]
  · rintro ⟨rfl, word, hword, after, rfl, rfl, hagrees⟩
    refine ⟨word.length, [], [], (hchoice _ _).2 ⟨rfl, word, after, rfl, hword, rfl⟩,
      ⟨?_, rfl, rfl⟩, rfl⟩
    rwa [holds_boundary (hne word hword) (hwords word hword)]

/-- The search for a choice among words finds the word that is covered, if the
word ends there. -/
theorem search?_choiceToBoundary_iff {words : List Text} {text : Text} {length : Nat}
    (hplain : (Shape.oneOf words).IsPlain) (hne : ∀ word ∈ words, word ≠ [])
    (hwords : ∀ word ∈ words, ∀ c ∈ word, Unicode.isWord c = true) :
    (∃ found, (Program.ofExpr (.beginning (choiceToBoundary words))).search?
        text.toArray 0 = some found ∧ found.stop = length) ↔
      (Shape.oneOf words).cover? text = some length ∧
        Follow.wordEnd.agrees (text.drop length) = true := by
  have hfound {found : Machine.Found}
      (hsearch : (Program.ofExpr (.beginning (choiceToBoundary words))).search?
        text.toArray 0 = some found) :
      (Shape.oneOf words).cover? text = some found.stop ∧
        Follow.wordEnd.agrees (text.drop found.stop) = true := by
    have hcourse := (Matching.course_of_search?_beginning hsearch).2
    obtain ⟨_, word, hword, after, rfl, hstop, hagrees⟩ :=
      (course_choiceToBoundary_iff hne hwords).1 hcourse
    rw [hstop, List.drop_left]
    exact ⟨Shape.cover?_of_mem hplain hword after, hagrees⟩
  constructor
  · rintro ⟨found, hsearch, rfl⟩
    exact hfound hsearch
  · rintro ⟨hcover, hagrees⟩
    obtain ⟨word, hword, ⟨after, rfl⟩, rfl⟩ := Shape.exists_word_of_cover? hcover
    rw [List.drop_left] at hagrees
    obtain ⟨found, hsearch⟩ := Matching.exists_search?_beginning
      ((course_choiceToBoundary_iff hne hwords).2
        ⟨rfl, word, hword, after, rfl, rfl, hagrees⟩)
    have hstop := (hfound hsearch).1
    rw [hcover] at hstop
    exact ⟨found, hsearch, (Option.some.inj hstop).symm⟩

/-! ## Rules -/

/-- The pattern by which a rule is tried on a text.  A word boundary is part of
it, but not the blank that a status code asks for. -/
def Rule.probe (rule : Rule) : Text :=
  "^(?:".toList ++
    (rule.shape.fragment ++ if rule.follow = .wordEnd then ['\\', 'b'] else []) ++
      ")".toList

def Rule.probeExprs (rule : Rule) : List Expr :=
  rule.shape.exprs {} ++
    if rule.follow = .wordEnd then [.look (.word .boundary false)] else []

theorem Rule.read_probe (rule : Rule) :
    Expr.read ({} : Flags).modes rule.probe = .ok (.beginning (.joined rule.probeExprs)) := by
  have hne : rule.shape ≠ .oneOf [] := by cases rule <;> decide
  have hspells := (Shape.reads {} (isLegible_shape rule) hne).spells
  apply Pattern.read_beginning rfl (by decide : 5 + 3 ≤ Pattern.Nesting.limit)
  rw [probeExprs]
  split
  case isTrue => exact hspells.inside_boundary rfl
  case isFalse =>
    rw [List.append_nil, List.append_nil]
    exact hspells.inside

theorem Rule.search?_probe_iff (rule : Rule) {text : Text} {length : Nat} :
    (∃ found, (Program.ofExpr (.beginning (.joined rule.probeExprs))).search?
        text.toArray 0 = some found ∧ found.stop = length) ↔
      rule.shape.cover? text = some length ∧
        (rule.follow = .wordEnd → rule.follow.agrees (text.drop length) = true) := by
  have hrow {runs : List Run} (hshape : rule.shape = .row runs)
      (hfollow : rule.follow ≠ .wordEnd) :
      (∃ found, (Program.ofExpr (.beginning (.joined rule.probeExprs))).search?
          text.toArray 0 = some found ∧ found.stop = length) ↔
        rule.shape.cover? text = some length ∧
          (rule.follow = .wordEnd → rule.follow.agrees (text.drop length) = true) := by
    have hlegible := isLegible_shape rule
    have hplain := rule.isPlain_shape
    rw [hshape] at hlegible hplain
    rw [probeExprs, if_neg hfollow, List.append_nil, hshape]
    exact (search?_row_iff hlegible hplain).trans
      (and_iff_left fun hword => absurd hword hfollow).symm
  cases rule with
  | method =>
      have hletters : ∀ word ∈ ["GET", "POST", "PUT", "DELETE", "PATCH", "HEAD", "OPTIONS",
          "CONNECT", "TRACE"].map String.toList,
            word ≠ [] ∧ word.all Char.isAlphanum = true := by decide
      have hsearch := @search?_choiceToBoundary_iff _ text length method.isPlain_shape
        (fun word hword => (hletters word hword).1)
        (fun word hword c hc =>
          Unicode.isWord_of_isAlphanum (List.all_eq_true.1 (hletters word hword).2 c hc))
      exact hsearch.trans (and_congr_right fun _ =>
        ⟨fun hagrees _ => hagrees, fun hagrees => hagrees rfl⟩)
  | ipv4 | httpVersion | status | date | isoDate | time | timezone | path | digits
  | lowercase | uppercase | word | whitespace => exact hrow rfl (by decide)

/-- Without flags the probe of a rule finds what the shape covers and nothing
else. -/
theorem Rule.findsFirst_probe_iff (rule : Rule) {text piece : Text} :
    FindsFirst rule.probe text piece ↔
      ∃ length, rule.shape.cover? text = some length ∧
        (rule.follow = .wordEnd → rule.follow.agrees (text.drop length) = true) ∧
        piece = text.take length := by
  have hpattern : rule.probe ≠ [] := by simp [probe]
  rw [Matching.findsFirst_iff hpattern rule.read_probe]
  constructor
  · rintro ⟨found, hsearch, rfl⟩
    obtain ⟨hcover, hagrees⟩ := rule.search?_probe_iff.1 ⟨found, hsearch, rfl⟩
    exact ⟨found.stop, hcover, hagrees, rfl⟩
  · rintro ⟨length, hcover, hagrees, rfl⟩
    obtain ⟨found, hsearch, rfl⟩ := rule.search?_probe_iff.2 ⟨hcover, hagrees⟩
    exact ⟨found, hsearch, rfl⟩

end PatternWorkbench.Inference
