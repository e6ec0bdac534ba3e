import Mathlib.Computability.Language
import Mathlib.Data.List.Forall2
import PatternWorkbench.Proofs.Pattern.Bare

/-!
# The language of a bare expression

An expression without conditions and groups has a language: wherever it is
tried, it passes the texts of its language that stand there and no other.  A
sequence of expressions has the product of their languages, whatever stands
around it.
-/

namespace PatternWorkbench.Pattern

open Machine (Course Marks)

/-- The texts that an expression stands for, its conditions left aside. -/
def Expr.language : Expr → Language Char
  | empty | look _ => 1
  | set members => {text | ∃ c, members.mem c = true ∧ text = [c]}
  | seq first second => first.language * second.language
  | choice first second => first.language + second.language
  | repeated least most _ body =>
    {text | ∃ count, least ≤ count ∧ (∀ bound ∈ most, count ≤ max least bound) ∧
      text ∈ body.language ^ count}
  | capture _ _ body => body.language

def languageOf (exprs : List Expr) : Language Char :=
  (exprs.map Expr.language).prod

end PatternWorkbench.Pattern

namespace PatternWorkbench.Machine.Course

open Unicode (CharSet)

/-- From each position of the sample the course passes the texts of the language
that stand there, and it saves nothing. -/
def Denotes (sample : Text) (course : Course) (language : Language Char) : Prop :=
  ∀ before rest stop marks, sample = before ++ rest →
    (course before.length stop marks ↔
      marks = [] ∧ ∃ text after, rest = text ++ after ∧ text ∈ language ∧
        stop = (before ++ text).length)

namespace Denotes

variable {sample : Text} {first second course : Course}
  {left right language : Language Char}

theorem stay : Denotes sample Course.stay 1 := by
  intro before rest stop marks _
  constructor
  · rintro ⟨rfl, rfl⟩
    exact ⟨rfl, [], rest, rfl, Language.nil_mem_one, by simp⟩
  · rintro ⟨rfl, text, after, _, htext, rfl⟩
    obtain rfl := (Language.mem_one text).1 htext
    exact ⟨by simp, rfl⟩

theorem andThen (hfirst : Denotes sample first left)
    (hsecond : Denotes sample second right) :
    Denotes sample (first.andThen second) (left * right) := by
  intro before rest stop marks hsample
  constructor
  · rintro ⟨middle, early, late, hearly, hlate, rfl⟩
    obtain ⟨rfl, text, after, rfl, htext, rfl⟩ :=
      (hfirst before rest middle early hsample).1 hearly
    rw [← List.append_assoc] at hsample
    obtain ⟨rfl, other, later, rfl, hother, rfl⟩ :=
      (hsecond (before ++ text) after stop late hsample).1 hlate
    refine ⟨rfl, text ++ other, later, by simp, ?_, by simp⟩
    exact Language.append_mem_mul htext hother
  · rintro ⟨rfl, text, after, rfl, htext, rfl⟩
    obtain ⟨early, hearly, late, hlate, rfl⟩ := Language.mem_mul.1 htext
    have hsplit : sample = (before ++ early) ++ (late ++ after) := by simp [hsample]
    refine ⟨(before ++ early).length, [], [], ?_, ?_, rfl⟩
    · refine (hfirst before _ _ [] hsample).2 ⟨rfl, early, late ++ after, ?_, hearly, rfl⟩
      simp
    · refine (hsecond (before ++ early) _ _ [] hsplit).2 ⟨rfl, late, after, rfl, hlate, ?_⟩
      simp

theorem orElse (hfirst : Denotes sample first left)
    (hsecond : Denotes sample second right) :
    Denotes sample (first.orElse second) (left + right) := by
  intro before rest stop marks hsample
  have hleft := hfirst before rest stop marks hsample
  have hright := hsecond before rest stop marks hsample
  constructor
  · rintro (hcourse | hcourse)
    · obtain ⟨hmarks, text, after, hrest, htext, hstop⟩ := hleft.1 hcourse
      exact ⟨hmarks, text, after, hrest, Or.inl htext, hstop⟩
    · obtain ⟨hmarks, text, after, hrest, htext, hstop⟩ := hright.1 hcourse
      exact ⟨hmarks, text, after, hrest, Or.inr htext, hstop⟩
  · rintro ⟨hmarks, text, after, hrest, htext | htext, hstop⟩
    · exact Or.inl (hleft.2 ⟨hmarks, text, after, hrest, htext, hstop⟩)
    · exact Or.inr (hright.2 ⟨hmarks, text, after, hrest, htext, hstop⟩)

theorem power (hcourse : Denotes sample course language) (count : Nat) :
    Denotes sample (course.power count) (language ^ count) := by
  induction count with
  | zero =>
      rw [pow_zero]
      exact stay
  | succ count ih =>
      rw [pow_succ']
      exact hcourse.andThen ih

/-- A set passes its members. -/
theorem take (set : CharSet) :
    Denotes sample (.take sample.toArray set) {text | ∃ c, set.mem c = true ∧ text = [c]} := by
  intro before rest stop marks hsample
  constructor
  · rintro ⟨⟨c, hc, hmem⟩, rfl, rfl⟩
    have hhead : rest.head? = some c := by
      rw [hsample, List.getElem?_toArray,
        List.getElem?_append_right (Nat.le_refl _), Nat.sub_self] at hc
      rwa [List.head?_eq_getElem?]
    obtain ⟨after, rfl⟩ := List.head?_eq_some_iff.1 hhead
    exact ⟨rfl, [c], after, rfl, ⟨c, hmem, rfl⟩, by simp⟩
  · rintro ⟨rfl, _, after, rfl, ⟨c, hmem, rfl⟩, rfl⟩
    exact ⟨⟨c, by simp [hsample], hmem⟩, by simp, rfl⟩

/-- A repetition denotes the powers within its bounds. -/
theorem between (hcourse : Denotes sample course language) (least : Nat)
    (most : Option Nat) :
    Denotes sample (.between least most course) {text | ∃ count, least ≤ count ∧
      (∀ bound ∈ most, count ≤ max least bound) ∧ text ∈ language ^ count} := by
  intro before rest stop marks hsample
  have hpower (count : Nat) := hcourse.power count before rest stop marks hsample
  constructor
  · rintro ⟨count, hleast, hmost, hrounds⟩
    obtain ⟨hmarks, text, after, hrest, htext, hstop⟩ := (hpower count).1 hrounds
    exact ⟨hmarks, text, after, hrest, ⟨count, hleast, hmost, htext⟩, hstop⟩
  · rintro ⟨hmarks, text, after, hrest, ⟨count, hleast, hmost, htext⟩, hstop⟩
    exact ⟨count, hleast, hmost,
      (hpower count).2 ⟨hmarks, text, after, hrest, htext, hstop⟩⟩

theorem anyOf {Item : Type} {items : List Item} {courses : Item → Course}
    {languages : Item → Language Char}
    (hcourses : ∀ item ∈ items, Denotes sample (courses item) (languages item)) :
    Denotes sample (Course.anyOf (items.map courses))
      {text | ∃ item ∈ items, text ∈ languages item} := by
  intro before rest stop marks hsample
  constructor
  · rintro ⟨_, hmem, hcourse⟩
    obtain ⟨item, hitem, rfl⟩ := List.mem_map.1 hmem
    obtain ⟨hmarks, text, after, hrest, htext, hstop⟩ :=
      (hcourses item hitem before rest stop marks hsample).1 hcourse
    exact ⟨hmarks, text, after, hrest, ⟨item, hitem, htext⟩, hstop⟩
  · rintro ⟨hmarks, text, after, hrest, ⟨item, hitem, htext⟩, hstop⟩
    exact ⟨_, List.mem_map_of_mem hitem, (hcourses item hitem before rest stop marks
      hsample).2 ⟨hmarks, text, after, hrest, htext, hstop⟩⟩

theorem inOrder {courses : List Course} {languages : List (Language Char)}
    (hcourses : List.Forall₂ (Denotes sample) courses languages) :
    Denotes sample (Course.inOrder courses) languages.prod := by
  induction hcourses with
  | nil => exact stay
  | cons hfirst _ ih =>
      rw [List.prod_cons]
      exact hfirst.andThen ih

/-- What passes the whole sample is a text of the language. -/
theorem whole (hcourse : Denotes sample course language) {marks : Marks} :
    course 0 sample.length marks ↔ marks = [] ∧ sample ∈ language := by
  rw [← List.length_nil, hcourse [] sample _ marks rfl]
  refine and_congr_right fun _ => ⟨?_, fun hmem => ⟨sample, [], by simp, hmem, rfl⟩⟩
  rintro ⟨text, after, hsample, htext, hlength⟩
  have hafter : after = [] := by
    have := congrArg List.length hsample
    simp only [List.nil_append, List.length_append] at this hlength
    exact List.length_eq_zero_iff.1 (by omega)
  rwa [hsample, hafter, List.append_nil]

/-- What passes a stretch of the sample saves nothing, and the stretch is a text of
the language. -/
theorem mem_stretch (hcourse : Denotes sample course language) {start stop : Nat}
    {marks : Marks} (hstart : start ≤ sample.length) (hpass : course start stop marks) :
    marks = [] ∧ (sample.drop start).take (stop - start) ∈ language := by
  have hlength : (sample.take start).length = start := List.length_take_of_le hstart
  have hsample := (List.take_append_drop start sample).symm
  obtain ⟨rfl, text, after, hrest, htext, rfl⟩ :=
    (hcourse _ _ stop marks hsample).1 (by rwa [hlength])
  refine ⟨rfl, ?_⟩
  rwa [hrest, List.length_append, hlength, Nat.add_sub_cancel_left, List.take_left]

end Denotes

end PatternWorkbench.Machine.Course

namespace PatternWorkbench.Pattern

open Machine (Course)
open Unicode (CharSet)

/-- A bare expression has its language, wherever it stands. -/
theorem Expr.denotes_of_isBare (sample : Text) {expr : Expr}
    (hbare : expr.isBare = true) :
    Course.Denotes sample (expr.course sample.toArray) expr.language := by
  induction expr with
  | empty => exact Course.Denotes.stay
  | set members => exact Course.Denotes.take members
  | look | capture => contradiction
  | seq first second ihFirst ihSecond =>
      rw [isBare, Bool.and_eq_true] at hbare
      exact (ihFirst hbare.1).andThen (ihSecond hbare.2)
  | choice first second ihFirst ihSecond =>
      rw [isBare, Bool.and_eq_true] at hbare
      exact (ihFirst hbare.1).orElse (ihSecond hbare.2)
  | repeated least most greedy body ih => exact (ih hbare).between least most

/-- So many members of a set, one after the other. -/
theorem mem_pow_set_iff {set : CharSet} {count : Nat} {text : Text} :
    text ∈ (Expr.set set).language ^ count ↔
      text.length = count ∧ ∀ c ∈ text, set.mem c = true := by
  induction count generalizing text with
  | zero =>
      rw [pow_zero, Language.mem_one, List.length_eq_zero_iff]
      constructor
      · rintro rfl
        exact ⟨rfl, by simp⟩
      · exact And.left
  | succ count ih =>
      rw [pow_succ', Language.mem_mul]
      constructor
      · rintro ⟨_, ⟨c, hc, rfl⟩, later, hlater, rfl⟩
        obtain ⟨rfl, hall⟩ := ih.1 hlater
        exact ⟨by simp, List.forall_mem_cons.2 ⟨hc, hall⟩⟩
      · rintro ⟨hlength, hall⟩
        obtain ⟨c, later, rfl⟩ := List.exists_cons_of_length_eq_add_one hlength
        obtain ⟨hc, hlater⟩ := List.forall_mem_cons.1 hall
        exact ⟨[c], ⟨c, hc, rfl⟩, later, ih.2 ⟨Nat.succ.inj hlength, hlater⟩, rfl⟩

/-- A row of bare expressions has the product of their languages. -/
theorem denotes_inOrder (sample : Text) {exprs : List Expr}
    (hbare : ∀ expr ∈ exprs, expr.isBare = true) :
    Course.Denotes sample (.inOrder (exprs.map (Expr.course sample.toArray)))
      (languageOf exprs) := by
  apply Course.Denotes.inOrder
  rw [List.forall₂_map_left_iff, List.forall₂_map_right_iff, List.forall₂_same]
  intro expr hexpr
  exact expr.denotes_of_isBare sample (hbare expr hexpr)

theorem languageOf_append (left right : List Expr) :
    languageOf (left ++ right) = languageOf left * languageOf right := by
  rw [languageOf, List.map_append, List.prod_append]
  rfl

/-- The language of several rows side by side: a piece of each. -/
theorem mem_languageOf_flatten_iff {rows : List (List Expr)} {text : Text} :
    text ∈ languageOf rows.flatten ↔
      ∃ pieces : List Text, text = pieces.flatten ∧
        List.Forall₂ (fun row piece => piece ∈ languageOf row) rows pieces := by
  induction rows generalizing text with
  | nil =>
      rw [List.flatten_nil]
      constructor
      · intro hnil
        exact ⟨[], (Language.mem_one text).1 hnil, .nil⟩
      · rintro ⟨pieces, rfl, hpieces⟩
        cases hpieces
        exact Language.nil_mem_one
  | cons row rows ih =>
      rw [List.flatten_cons, languageOf_append, Language.mem_mul]
      constructor
      · rintro ⟨piece, hpiece, later, hlater, rfl⟩
        obtain ⟨pieces, rfl, hpieces⟩ := ih.1 hlater
        exact ⟨piece :: pieces, rfl, .cons hpiece hpieces⟩
      · rintro ⟨pieces, rfl, hpieces⟩
        cases hpieces with
        | @cons _ piece _ pieces hpiece hlater =>
            exact ⟨piece, hpiece, pieces.flatten, ih.2 ⟨pieces, rfl, hlater⟩, rfl⟩

end PatternWorkbench.Pattern
