import PatternWorkbench.Proofs.Machine.Course

/-!
# Rounds of groups

A match goes through a group once for each time the group is repeated, from one
position to another.  In the end the slots of a group hold its latest round: a
later round overwrites an earlier one, and nothing inside a group saves into the
group's own slots.
-/

namespace PatternWorkbench.Machine

open Pattern (Expr Look)
open Unicode (CharSet)

structure Round where
  index : Nat
  start : Nat
  stop : Nat

/-- The latest round of a group, where rounds are listed from the last one on. -/
def latest? (rounds : List Round) (index : Nat) : Option Round :=
  rounds.find? (·.index == index)

/-- The expression passes a stretch of the sample with these rounds of its groups, the
one that ends last first. -/
inductive Passes (sample : Array Char) : Expr → Nat → Nat → List Round → Prop where
  | empty (position : Nat) : Passes sample .empty position position []
  | set {members : CharSet} {position : Nat} {c : Char} (hc : sample[position]? = some c)
      (hmem : members.mem c = true) :
      Passes sample (.set members) position (position + 1) []
  | look {condition : Look} {position : Nat}
      (hholds : condition.holds (before? sample position) sample[position]? = true) :
      Passes sample (.look condition) position position []
  | seq {first second : Expr} {start middle stop : Nat} {early late : List Round}
      (hfirst : Passes sample first start middle early)
      (hsecond : Passes sample second middle stop late) :
      Passes sample (.seq first second) start stop (late ++ early)
  | left {first second : Expr} {start stop : Nat} {rounds : List Round}
      (hfirst : Passes sample first start stop rounds) :
      Passes sample (.choice first second) start stop rounds
  | right {first second : Expr} {start stop : Nat} {rounds : List Round}
      (hsecond : Passes sample second start stop rounds) :
      Passes sample (.choice first second) start stop rounds
  | enough {most : Option Nat} {greedy : Bool} {body : Expr} (position : Nat) :
      Passes sample (.repeated 0 most greedy body) position position []
  | again {least : Nat} {most : Option Nat} {greedy : Bool} {body : Expr}
      {start middle stop : Nat} {early late : List Round}
      (hmore : least ≠ 0 ∨ most ≠ some 0) (hfirst : Passes sample body start middle early)
      (hlater : Passes sample (.repeated (least - 1) (most.map (· - 1)) greedy body)
        middle stop late) :
      Passes sample (.repeated least most greedy body) start stop (late ++ early)
  | capture {index : Nat} {name : Option Text} {body : Expr} {start stop : Nat}
      {inner : List Round} (hbody : Passes sample body start stop inner) :
      Passes sample (.capture index name body) start stop (⟨index, start, stop⟩ :: inner)

namespace Passes

variable {sample : Array Char} {expr : Expr} {start stop : Nat} {rounds : List Round}

/-- Only groups of the expression have rounds. -/
theorem index_mem (hpasses : Passes sample expr start stop rounds) :
    ∀ round ∈ rounds, round.index ∈ expr.captures.map (·.1) := by
  induction hpasses with
  | empty | set | look | enough => simp
  | seq _ _ ihFirst ihSecond =>
      rw [Expr.captures, List.map_append]
      exact List.forall_mem_append.2
        ⟨fun round hround => List.mem_append_right _ (ihSecond round hround),
          fun round hround => List.mem_append_left _ (ihFirst round hround)⟩
  | left _ ih =>
      rw [Expr.captures, List.map_append]
      exact fun round hround => List.mem_append_left _ (ih round hround)
  | right _ ih =>
      rw [Expr.captures, List.map_append]
      exact fun round hround => List.mem_append_right _ (ih round hround)
  | again _ _ _ ihFirst ihLater => exact List.forall_mem_append.2 ⟨ihLater, ihFirst⟩
  | capture _ ih =>
      rw [Expr.captures, List.map_cons]
      exact List.forall_mem_cons.2 ⟨List.mem_cons_self,
        fun round hround => List.mem_cons_of_mem _ (ih round hround)⟩

/-- Rounds lie within the stretch that is passed. -/
theorem bounds (hpasses : Passes sample expr start stop rounds) :
    start ≤ stop ∧ ∀ round ∈ rounds,
      start ≤ round.start ∧ round.start ≤ round.stop ∧ round.stop ≤ stop := by
  induction hpasses with
  | empty | look | enough => simp
  | set => simp
  | seq _ _ ihFirst ihSecond | again _ _ _ ihFirst ihSecond =>
      refine ⟨Nat.le_trans ihFirst.1 ihSecond.1, List.forall_mem_append.2 ⟨?_, ?_⟩⟩
      · intro round hround
        obtain ⟨hstart, hstop⟩ := ihSecond.2 round hround
        exact ⟨Nat.le_trans ihFirst.1 hstart, hstop⟩
      · intro round hround
        obtain ⟨hstart, hmiddle, hstop⟩ := ihFirst.2 round hround
        exact ⟨hstart, hmiddle, Nat.le_trans hstop ihSecond.1⟩
  | left _ ih | right _ ih => exact ih
  | capture _ ih =>
      exact ⟨ih.1, List.forall_mem_cons.2 ⟨⟨Nat.le_refl _, ih.1, Nat.le_refl _⟩, ih.2⟩⟩

/-- What passes a stretch has a course over it. -/
theorem exists_course (hpasses : Passes sample expr start stop rounds) :
    ∃ marks, expr.course sample start stop marks := by
  induction hpasses with
  | empty => exact ⟨[], rfl, rfl⟩
  | set hc hmem => exact ⟨[], ⟨_, hc, hmem⟩, rfl, rfl⟩
  | look hholds => exact ⟨[], hholds, rfl, rfl⟩
  | seq _ _ ihFirst ihSecond =>
      obtain ⟨early, hfirst⟩ := ihFirst
      obtain ⟨late, hsecond⟩ := ihSecond
      exact ⟨late ++ early, _, early, late, hfirst, hsecond, rfl⟩
  | left _ ih =>
      obtain ⟨marks, hfirst⟩ := ih
      exact ⟨marks, .inl hfirst⟩
  | right _ ih =>
      obtain ⟨marks, hsecond⟩ := ih
      exact ⟨marks, .inr hsecond⟩
  | enough => exact ⟨[], 0, Nat.le_refl 0, fun _ _ => Nat.zero_le _, rfl, rfl⟩
  | again hmore _ _ ihFirst ihLater =>
      obtain ⟨early, hfirst⟩ := ihFirst
      obtain ⟨late, count, hleast, hmost, hpower⟩ := ihLater
      refine ⟨late ++ early, count + 1, by omega, ?_, _, early, late, hfirst, hpower, rfl⟩
      rintro bound rfl
      have := hmost (bound - 1) rfl
      simp only [ne_eq, Option.some.injEq] at hmore
      omega
  | capture _ ih =>
      obtain ⟨inner, hbody⟩ := ih
      exact ⟨_, inner, hbody, rfl⟩

end Passes

/-! ## Slots -/

/-- The slots of every group hold its latest round. -/
def Holds (marks : Marks) (rounds : List Round) : Prop :=
  ∀ index, marks.lookup (2 * index) = (latest? rounds index).map Round.start ∧
    marks.lookup (2 * index + 1) = (latest? rounds index).map Round.stop

theorem Holds.nil : Holds [] [] :=
  fun _ => ⟨rfl, rfl⟩

/-- What comes later hides what came earlier. -/
theorem Holds.append {early late : Marks} {before after : List Round}
    (hlate : Holds late after) (hearly : Holds early before) :
    Holds (late ++ early) (after ++ before) := by
  intro index
  rw [latest?, List.find?_append, Option.map_or, Option.map_or, List.lookup_append,
    List.lookup_append, (hlate index).1, (hlate index).2, (hearly index).1, (hearly index).2]
  exact ⟨rfl, rfl⟩

/-- A group saves its own round around the rounds inside it. -/
theorem Holds.save {index start stop : Nat} {inner : Marks} {rounds : List Round}
    (hinner : Holds inner rounds) (hfresh : ∀ round ∈ rounds, round.index ≠ index) :
    Holds ((2 * index + 1, stop) :: (inner ++ [(2 * index, start)]))
      (⟨index, start, stop⟩ :: rounds) := by
  intro other
  have hodd : (2 * other == 2 * index + 1) = false := by
    rw [beq_eq_false_iff_ne]
    omega
  have heven : (2 * other + 1 == 2 * index) = false := by
    rw [beq_eq_false_iff_ne]
    omega
  have hstart : (2 * other == 2 * index) = (index == other) := by
    rw [Bool.eq_iff_iff, beq_iff_eq, beq_iff_eq]
    omega
  have hstop : (2 * other + 1 == 2 * index + 1) = (index == other) := by
    rw [Bool.eq_iff_iff, beq_iff_eq, beq_iff_eq]
    omega
  simp only [latest?, List.find?_cons, List.lookup_cons, List.lookup_append,
    List.lookup_nil, hodd, heven, hstart, hstop, (hinner other).1, (hinner other).2]
  cases hother : index == other with
  | false => simp
  | true =>
      obtain rfl := beq_iff_eq.1 hother
      have hnone : rounds.find? (·.index == index) = none := by
        rw [List.find?_eq_none]
        exact fun round hround => by simpa using hfresh round hround
      simp [hnone]

theorem Found.group?_of_holds {found : Found} {rounds : List Round}
    (hholds : Holds found.marks rounds) (index : Nat) :
    found.group? index =
      (latest? rounds index).map fun round => (round.start, round.stop) := by
  rw [group?, (hholds index).1, (hholds index).2]
  cases latest? rounds index <;> rfl

/-! ## The rounds of a course -/

section Course

variable {sample : Array Char}

/-- The rounds of a repetition are those of its body, one after the other. -/
theorem exists_passes_repeated {body : Expr} {greedy : Bool}
    (hbody : ∀ start stop marks, body.course sample start stop marks →
      ∃ rounds, Passes sample body start stop rounds ∧ Holds marks rounds)
    {count least : Nat} {most : Option Nat} {start stop : Nat} {marks : Marks}
    (hleast : least ≤ count) (hmost : ∀ bound ∈ most, count ≤ max least bound)
    (hpower : (body.course sample).power count start stop marks) :
    ∃ rounds, Passes sample (.repeated least most greedy body) start stop rounds ∧
      Holds marks rounds := by
  induction count generalizing least most start marks with
  | zero =>
      obtain ⟨rfl, rfl⟩ := hpower
      obtain rfl : least = 0 := Nat.le_zero.1 hleast
      exact ⟨[], .enough stop, .nil⟩
  | succ count ih =>
      obtain ⟨middle, early, late, hfirst, hlater, rfl⟩ := hpower
      obtain ⟨before, hbefore, hearly⟩ := hbody start middle early hfirst
      have hrest : ∀ bound ∈ most.map (· - 1), count ≤ max (least - 1) bound := by
        intro bound hbound
        obtain ⟨bound, hmem, rfl⟩ := Option.map_eq_some_iff.1 hbound
        have := hmost bound hmem
        omega
      obtain ⟨after, hafter, hlate⟩ := ih (by omega) hrest hlater
      have hmore : least ≠ 0 ∨ most ≠ some 0 := by
        rw [Decidable.or_iff_not_imp_left]
        intro hzero hnone
        have := hmost 0 hnone
        omega
      exact ⟨after ++ before, .again hmore hbefore hafter, hlate.append hearly⟩

/-- A course has rounds whose latest ones are what its marks hold, if the groups of the
expression have indices of their own. -/
theorem exists_passes {expr : Expr} (hdistinct : (expr.captures.map (·.1)).Nodup)
    {start stop : Nat} {marks : Marks} (hcourse : expr.course sample start stop marks) :
    ∃ rounds, Passes sample expr start stop rounds ∧ Holds marks rounds := by
  induction expr generalizing start stop marks with
  | empty =>
      obtain ⟨rfl, rfl⟩ := hcourse
      exact ⟨[], .empty stop, .nil⟩
  | set members =>
      obtain ⟨⟨c, hc, hmem⟩, rfl, rfl⟩ := hcourse
      exact ⟨[], .set hc hmem, .nil⟩
  | look condition =>
      obtain ⟨hholds, rfl, rfl⟩ := hcourse
      exact ⟨[], .look hholds, .nil⟩
  | seq first second ihFirst ihSecond =>
      rw [Expr.captures, List.map_append, List.nodup_append] at hdistinct
      obtain ⟨middle, early, late, hfirst, hsecond, rfl⟩ := hcourse
      obtain ⟨before, hbefore, hearly⟩ := ihFirst hdistinct.1 hfirst
      obtain ⟨after, hafter, hlate⟩ := ihSecond hdistinct.2.1 hsecond
      exact ⟨after ++ before, .seq hbefore hafter, hlate.append hearly⟩
  | choice first second ihFirst ihSecond =>
      rw [Expr.captures, List.map_append, List.nodup_append] at hdistinct
      rcases hcourse with hfirst | hsecond
      · obtain ⟨rounds, hpasses, hholds⟩ := ihFirst hdistinct.1 hfirst
        exact ⟨rounds, .left hpasses, hholds⟩
      · obtain ⟨rounds, hpasses, hholds⟩ := ihSecond hdistinct.2.1 hsecond
        exact ⟨rounds, .right hpasses, hholds⟩
  | repeated least most greedy body ih =>
      obtain ⟨count, hleast, hmost, hpower⟩ := hcourse
      exact exists_passes_repeated (fun _ _ _ => ih hdistinct) hleast hmost hpower
  | capture index name body ih =>
      rw [Expr.captures, List.map_cons, List.nodup_cons] at hdistinct
      obtain ⟨inner, hbody, rfl⟩ := hcourse
      obtain ⟨rounds, hpasses, hholds⟩ := ih hdistinct.2 hbody
      have hfresh : ∀ round ∈ rounds, round.index ≠ index := by
        rintro round hround rfl
        exact hdistinct.1 (hpasses.index_mem round hround)
      exact ⟨_, .capture hpasses, hholds.save hfresh⟩

end Course

end PatternWorkbench.Machine
