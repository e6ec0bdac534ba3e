import PatternWorkbench.Machine.Search

/-!
# Courses

A course relates the position at which a part of a pattern begins to the
positions at which it can end, together with the slots saved on the way.
Expressions and flows both stand for courses.  Writing out the counted
repetitions of an expression keeps its course; which of several ends is
preferred does not show in it.
-/

namespace PatternWorkbench.Machine

open Pattern (Expr Look)
open Unicode (CharSet)

/-- Slots with the positions saved in them, the last one first. -/
abbrev Marks := List (Nat × Nat)

/-- Start, stop, and the marks made in between. -/
abbrev Course := Nat → Nat → Marks → Prop

namespace Course

def stay : Course := fun start stop marks => stop = start ∧ marks = []

def take (sample : Array Char) (set : CharSet) : Course :=
  fun start stop marks =>
    (∃ c, sample[start]? = some c ∧ set.mem c = true) ∧
      stop = start + 1 ∧ marks = []

def check (sample : Array Char) (look : Look) : Course :=
  fun start stop marks =>
    look.holds (before? sample start) sample[start]? = true ∧
      stop = start ∧ marks = []

def andThen (first second : Course) : Course :=
  fun start stop marks => ∃ middle early late,
    first start middle early ∧ second middle stop late ∧ marks = late ++ early

def orElse (first second : Course) : Course :=
  fun start stop marks => first start stop marks ∨ second start stop marks

def save (index : Nat) (body : Course) : Course :=
  fun start stop marks => ∃ inner, body start stop inner ∧
    marks = (2 * index + 1, stop) :: (inner ++ [(2 * index, start)])

def power (body : Course) : Nat → Course
  | 0 => stay
  | count + 1 => body.andThen (power body count)

/-- At least `least` rounds and at most `most`, if there is a bound.  A bound
below `least` allows exactly `least` rounds. -/
def between (least : Nat) (most : Option Nat) (body : Course) : Course :=
  fun start stop marks => ∃ count, least ≤ count ∧
    (∀ bound ∈ most, count ≤ max least bound) ∧
    body.power count start stop marks

@[simp]
theorem stay_andThen (course : Course) : stay.andThen course = course := by
  ext start stop marks
  constructor
  · rintro ⟨_, _, late, ⟨rfl, rfl⟩, hcourse, rfl⟩
    simpa using hcourse
  · intro hcourse
    exact ⟨start, [], marks, ⟨rfl, rfl⟩, hcourse, by simp⟩

@[simp]
theorem andThen_stay (course : Course) : course.andThen stay = course := by
  ext start stop marks
  constructor
  · rintro ⟨_, early, _, hcourse, ⟨rfl, rfl⟩, rfl⟩
    exact hcourse
  · intro hcourse
    exact ⟨stop, marks, [], hcourse, ⟨rfl, rfl⟩, rfl⟩

theorem andThen_assoc (first second third : Course) :
    (first.andThen second).andThen third =
      first.andThen (second.andThen third) := by
  ext start stop marks
  constructor
  · rintro ⟨middle, _, late, ⟨inner, early, next, hfirst, hsecond, rfl⟩,
      hthird, rfl⟩
    exact ⟨inner, early, late ++ next, hfirst,
      ⟨middle, next, late, hsecond, hthird, rfl⟩, by simp⟩
  · rintro ⟨inner, early, _, hfirst, ⟨middle, next, late, hsecond, hthird, rfl⟩,
      rfl⟩
    exact ⟨middle, next ++ early, late,
      ⟨inner, early, next, hfirst, hsecond, rfl⟩, hthird, by simp⟩

@[simp]
theorem power_zero (body : Course) : body.power 0 = stay := rfl

@[simp]
theorem power_one (body : Course) : body.power 1 = body := by
  simp [power]

theorem power_succ (body : Course) (count : Nat) :
    body.power (count + 1) = body.andThen (body.power count) := rfl

theorem power_add (body : Course) (first second : Nat) :
    body.power (first + second) =
      (body.power first).andThen (body.power second) := by
  induction first with
  | zero => simp
  | succ first ih =>
      rw [Nat.add_right_comm, power_succ, ih, power_succ, andThen_assoc]

/-- A fixed number of rounds before a repetition raises both of its bounds. -/
theorem power_andThen_between (body : Course) (count least : Nat)
    (most : Option Nat) :
    (body.power count).andThen (between least most body) =
      between (count + least) (most.map (count + ·)) body := by
  ext start stop marks
  constructor
  · rintro ⟨middle, early, late, hfirst, ⟨rounds, hleast, hmost, hrest⟩, rfl⟩
    refine ⟨count + rounds, by omega, ?_, ?_⟩
    · intro bound hbound
      obtain ⟨inner, hinner, rfl⟩ := Option.map_eq_some_iff.1 hbound
      have := hmost inner hinner
      omega
    · rw [power_add]
      exact ⟨middle, early, late, hfirst, hrest, rfl⟩
  · rintro ⟨rounds, hleast, hmost, hpower⟩
    obtain ⟨extra, rfl⟩ : ∃ extra, rounds = count + extra :=
      ⟨rounds - count, by omega⟩
    rw [power_add] at hpower
    obtain ⟨middle, early, late, hfirst, hrest, rfl⟩ := hpower
    refine ⟨middle, early, late, hfirst, ⟨extra, by omega, ?_, hrest⟩, rfl⟩
    intro bound hbound
    have := hmost (count + bound) (Option.map_eq_some_iff.2 ⟨bound, hbound, rfl⟩)
    omega

/-- A repetition that leaves no choice of its count is a power. -/
theorem between_eq_power (body : Course) {least most : Nat}
    (hbounds : most ≤ least) :
    between least (some most) body = body.power least := by
  ext start stop marks
  constructor
  · rintro ⟨count, hleast, hmost, hpower⟩
    have := hmost most rfl
    obtain rfl : count = least := by omega
    exact hpower
  · intro hpower
    exact ⟨least, Nat.le_refl _, fun bound _ => by omega, hpower⟩

/-- Up to one more round is a round and what may follow it, or no round. -/
theorem between_zero_succ (body : Course) (most : Nat) :
    between 0 (some (most + 1)) body =
      (body.andThen (between 0 (some most) body)).orElse stay := by
  have hmore := power_andThen_between body 1 0 (some most)
  rw [power_one] at hmore
  rw [hmore]
  ext start stop marks
  constructor
  · rintro ⟨count, _, hmost, hpower⟩
    have := hmost (most + 1) rfl
    cases count with
    | zero => exact Or.inr hpower
    | succ count =>
        refine Or.inl ⟨count + 1, by omega, ?_, hpower⟩
        intro bound hbound
        simp only [Option.map_some, Option.mem_some_iff] at hbound
        omega
  · rintro (⟨count, _, hmost, hpower⟩ | hstay)
    · have := hmost (1 + most) rfl
      refine ⟨count, by omega, ?_, hpower⟩
      intro bound hbound
      simp only [Option.mem_some_iff] at hbound
      omega
    · exact ⟨0, Nat.le_refl _, fun _ _ => by omega, hstay⟩

/-- Any number of rounds is at least one, or none. -/
theorem between_zero_none (body : Course) :
    between 0 none body = (between 1 none body).orElse stay := by
  ext start stop marks
  constructor
  · rintro ⟨count, _, _, hpower⟩
    cases count with
    | zero => exact Or.inr hpower
    | succ count => exact Or.inl ⟨count + 1, by omega, by simp, hpower⟩
  · rintro (⟨count, _, _, hpower⟩ | hstay)
    · exact ⟨count, by omega, by simp, hpower⟩
    · exact ⟨0, Nat.le_refl _, by simp, hstay⟩

/-- A course goes forward and stays within the first `size` positions. -/
def Within (size : Nat) (course : Course) : Prop :=
  ∀ start stop marks, course start stop marks →
    start ≤ stop ∧ (start ≤ size → stop ≤ size)

theorem Within.stay (size : Nat) : Within size stay := by
  rintro start _ _ ⟨rfl, rfl⟩
  exact ⟨Nat.le_refl _, id⟩

theorem Within.andThen {size : Nat} {first second : Course}
    (hfirst : Within size first) (hsecond : Within size second) :
    Within size (first.andThen second) := by
  rintro start stop _ ⟨middle, early, late, hearly, hlate, rfl⟩
  have := hfirst start middle early hearly
  have := hsecond middle stop late hlate
  omega

theorem Within.power {size : Nat} {body : Course} (hbody : Within size body)
    (count : Nat) : Within size (body.power count) := by
  induction count with
  | zero => exact Within.stay size
  | succ count ih => exact hbody.andThen ih

end Course

end PatternWorkbench.Machine

namespace PatternWorkbench

open Machine (Course Flow)

/-- What an expression can do in a sample. -/
def Pattern.Expr.course (sample : Array Char) : Pattern.Expr → Course
  | .empty => .stay
  | .set members => .take sample members
  | .look condition => .check sample condition
  | .seq first second => (course sample first).andThen (course sample second)
  | .choice first second => (course sample first).orElse (course sample second)
  | .repeated least most _ body => .between least most (course sample body)
  | .capture index _ body => .save index (course sample body)

/-- No match leaves the sample. -/
theorem Pattern.Expr.course_within (sample : Array Char) (expr : Pattern.Expr) :
    Course.Within sample.size (expr.course sample) := by
  induction expr with
  | empty => exact Course.Within.stay _
  | set members =>
      rintro start _ _ ⟨⟨c, hc, _⟩, rfl, rfl⟩
      have := (Array.getElem?_eq_some_iff.1 hc).1
      omega
  | look condition =>
      rintro start _ _ ⟨_, rfl, rfl⟩
      exact ⟨Nat.le_refl _, id⟩
  | seq first second ihFirst ihSecond => exact ihFirst.andThen ihSecond
  | choice first second ihFirst ihSecond =>
      rintro start stop marks (hfirst | hsecond)
      · exact ihFirst start stop marks hfirst
      · exact ihSecond start stop marks hsecond
  | repeated least most greedy body ih =>
      rintro start stop marks ⟨count, _, _, hpower⟩
      exact ih.power count start stop marks hpower
  | capture index name body ih =>
      rintro start stop _ ⟨inner, hbody, rfl⟩
      exact ih start stop inner hbody

namespace Machine.Flow

def course (sample : Array Char) : Flow → Course
  | pass => .stay
  | take set => .take sample set
  | check look => .check sample look
  | seq first second => (first.course sample).andThen (second.course sample)
  | either first second => (first.course sample).orElse (second.course sample)
  | perhaps _ body => (body.course sample).orElse .stay
  | again _ body => .between 1 none (body.course sample)
  | capture index body => .save index (body.course sample)

variable (sample : Array Char) (body : Flow)

theorem course_times (count : Nat) :
    (times count body).course sample = (body.course sample).power count := by
  induction count with
  | zero => rfl
  | succ count ih =>
      cases count with
      | zero => simp [times]
      | succ count => rw [times, course, ih, ← Course.power_succ]

/-- Up to a count of optional rounds, one inside the other, are a repetition from zero.
-/
theorem course_upTo (greedy : Bool) (count : Nat) :
    (upTo greedy count body).course sample =
      .between 0 (some count) (body.course sample) := by
  induction count with
  | zero => rw [Course.between_eq_power _ (Nat.le_refl 0)]; rfl
  | succ count ih =>
      rw [Course.between_zero_succ]
      cases count with
      | zero =>
          rw [Course.between_eq_power _ (Nat.le_refl 0), Course.power_zero,
            Course.andThen_stay]
          rfl
      | succ count => rw [upTo, course, course, ih]

theorem course_unbounded (greedy : Bool) (least : Nat) :
    (unbounded greedy least body).course sample =
      .between least none (body.course sample) := by
  match least with
  | 0 => exact (Course.between_zero_none _).symm
  | 1 => rfl
  | least + 2 =>
      have hmore := Course.power_andThen_between (body.course sample)
        (least + 1) 1 none
      rw [unbounded, course, course_times, course, hmore]
      rfl

theorem course_bounded (greedy : Bool) (least most : Nat) :
    (bounded greedy least most body).course sample =
      .between least (some most) (body.course sample) := by
  unfold bounded
  split
  case isTrue hbounds =>
    rw [course_times, Course.between_eq_power _ hbounds]
  case isFalse hbounds =>
    split
    case isTrue hzero => rw [hzero, course_upTo]
    case isFalse hzero =>
      have hmore := Course.power_andThen_between (body.course sample) least 0
        (some (most - least))
      rw [course, course_times, course_upTo, hmore]
      simp only [Nat.add_zero, Option.map_some]
      rw [Nat.add_sub_cancel' (by omega)]

/-- Writing out the counted repetitions keeps the course. -/
theorem course_ofExpr (expr : Pattern.Expr) :
    (ofExpr expr).course sample = expr.course sample := by
  induction expr with
  | empty => rfl
  | set members => rfl
  | look look => rfl
  | seq first second ihFirst ihSecond =>
      rw [ofExpr, course, Pattern.Expr.course, ihFirst, ihSecond]
  | choice first second ihFirst ihSecond =>
      rw [ofExpr, course, Pattern.Expr.course, ihFirst, ihSecond]
  | repeated least most greedy body ih =>
      rw [ofExpr, Pattern.Expr.course, ← ih]
      cases most with
      | none => exact course_unbounded sample _ greedy least
      | some most => exact course_bounded sample _ greedy least most
  | capture index name body ih =>
      rw [ofExpr, course, Pattern.Expr.course, ih]

end Machine.Flow

end PatternWorkbench
