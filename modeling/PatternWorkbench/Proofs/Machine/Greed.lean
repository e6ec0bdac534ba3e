import PatternWorkbench.Proofs.Machine.Preference

/-!
# Preferred courses

Which of its courses a flow prefers depends on what comes after it: an
alternative is passed over only where success behind the flow cannot be reached
with it.  The code of a flow leads the preferred path along the preferred course.
A greedy repetition of a set takes as many characters as it may, if what follows
can go on behind them.
-/

namespace PatternWorkbench.Machine

open Pattern (Expr)
open Unicode (CharSet)

/-- Some course from the start comes to a position from which the goal can be
reached. -/
def Course.Reaches (course : Course) (goal : Nat → Prop) (start : Nat) : Prop :=
  ∃ stop marks, course start stop marks ∧ goal stop

/-- Rounds of a body, each but the last followed by another one.  A greedy loop
is left only where another round leads nowhere, and any other loop goes on only
where leaving it leads nowhere. -/
inductive Course.Rounds (greedy : Bool) (body : Course) (more leave : Nat → Prop) :
    Course where
  | last {start stop : Nat} {marks : Marks} (hbody : body start stop marks)
      (hleave : greedy = true → ¬ more stop) :
      Rounds greedy body more leave start stop marks
  | next {start middle stop : Nat} {early late : Marks}
      (hbody : body start middle early) (hmore : greedy = false → ¬ leave middle)
      (hrest : Rounds greedy body more leave middle stop late) :
      Rounds greedy body more leave start stop (late ++ early)

/-- The course that a flow prefers, where success behind it is the goal. -/
def Flow.prefers (sample : Array Char) : Flow → (Nat → Prop) → Course
  | pass, _ => .stay
  | take set, _ => .take sample set
  | check look, _ => .check sample look
  | seq first second, goal =>
      (first.prefers sample ((second.course sample).Reaches goal)).andThen
        (second.prefers sample goal)
  | either first second, goal => fun start stop marks =>
      first.prefers sample goal start stop marks ∨
        ¬ (first.course sample).Reaches goal start ∧
          second.prefers sample goal start stop marks
  | perhaps greedy body, goal => fun start stop marks =>
      (greedy = false → ¬ goal start) ∧ body.prefers sample goal start stop marks ∨
        (greedy = true → ¬ (body.course sample).Reaches goal start) ∧
          Course.stay start stop marks
  | again greedy body, goal =>
      let more := ((again greedy body).course sample).Reaches goal
      .Rounds greedy (body.prefers sample fun position => more position ∨ goal position)
        more goal
  | capture index body, goal => .save index (body.prefers sample goal)

variable {program : Program} {sample : Array Char}

/-! ## Moves -/

/-- A thread that does not accept succeeds through one of its moves. -/
theorem Succeeds.iff_follow {thread : Thread} {instr : Instr}
    (hinstr : program.code[thread.address]? = some instr)
    (hvain : instr.accepts = false) :
    Succeeds program sample thread ↔
      ∃ next ∈ instr.follow sample thread, Succeeds program sample next := by
  constructor
  · rintro ⟨length, last, hpath, haccepting⟩
    cases hpath with
    | done =>
        obtain ⟨accepted, haccepted, haccepts⟩ := haccepting
        obtain rfl := Option.some.inj (hinstr.symm.trans haccepted)
        simp [hvain] at haccepts
    | @move length _ next _ other hother hnext hrest =>
        obtain rfl := Option.some.inj (hinstr.symm.trans hother)
        exact ⟨next, hnext, length, last, hrest, haccepting⟩
  · rintro ⟨next, hnext, hsucceeds⟩
    exact hsucceeds.of_move hinstr hnext

namespace Preferred

variable {length address position : Nat} {marks : Marks}
  {thread next other last : Thread} {later : List Thread} {instr : Instr}
  {greedy : Bool} {inner outer : Nat}

theorem first (hinstr : program.code[thread.address]? = some instr)
    (hfollow : instr.follow sample thread = next :: later)
    (hrest : Preferred program sample length next last) :
    Preferred program sample (length + 1) thread last := by
  rw [← List.nil_append (next :: later)] at hfollow
  exact .move hinstr hfollow (by simp) hrest

theorem second (hinstr : program.code[thread.address]? = some instr)
    (hfollow : instr.follow sample thread = other :: next :: later)
    (hother : ¬ Succeeds program sample other)
    (hrest : Preferred program sample length next last) :
    Preferred program sample (length + 1) thread last := by
  rw [← List.singleton_append] at hfollow
  exact .move hinstr hfollow (by simpa using hother) hrest

/-- A branch is taken inwards, at once if it is greedy. -/
theorem inwards (hbranch : program.code[address]? = some (Flow.branch greedy inner outer))
    (hvain : greedy = false → ¬ Succeeds program sample ⟨outer, position, marks⟩)
    (hrest : Preferred program sample length ⟨inner, position, marks⟩ last) :
    Preferred program sample (length + 1) ⟨address, position, marks⟩ last := by
  cases greedy with
  | true => exact .first hbranch rfl hrest
  | false => exact .second hbranch rfl (hvain rfl) hrest

theorem outwards (hbranch : program.code[address]? = some (Flow.branch greedy inner outer))
    (hvain : greedy = true → ¬ Succeeds program sample ⟨inner, position, marks⟩)
    (hrest : Preferred program sample length ⟨outer, position, marks⟩ last) :
    Preferred program sample (length + 1) ⟨address, position, marks⟩ last := by
  cases greedy with
  | true => exact .second hbranch rfl (hvain rfl) hrest
  | false => exact .first hbranch rfl hrest

end Preferred

/-! ## The preferred path through a flow -/

namespace Flow

theorem outside_of_accepting (flow : Flow) {base exit : Nat} {last : Thread}
    (hplaced : Placed program base (flow.code base exit))
    (haccepting : Accepting program last) :
    Outside base flow.codeLength last.address := by
  obtain ⟨instr, hinstr, haccepts⟩ := haccepting
  rcases Nat.lt_or_ge last.address base with hbefore | hbehind
  · exact Or.inl hbefore
  obtain ⟨offset, hoffset⟩ := Nat.exists_eq_add_of_le hbehind
  rcases Nat.lt_or_ge offset (flow.code base exit).length with hinside | houtside
  · have hcode := hplaced offset _ (List.getElem?_eq_getElem hinside)
    rw [← hoffset, hinstr] at hcode
    have hvain := not_accepts_of_mem_code (List.getElem_mem hinside)
    rw [← Option.some.inj hcode, haccepts] at hvain
    contradiction
  · rw [length_code] at houtside
    exact Or.inr (by omega)

/-- A thread at the base of a flow succeeds if a course leads to the exit and on
to acceptance. -/
theorem reaches_iff (flow : Flow) {base exit : Nat} {goal : Nat → Prop}
    (hplaced : Placed program base (flow.code base exit))
    (hexit : Outside base flow.codeLength exit)
    (hgoal : ∀ position marks,
      goal position ↔ Succeeds program sample ⟨exit, position, marks⟩)
    (start : Nat) (earlier : Marks) :
    (flow.course sample).Reaches goal start ↔
      Succeeds program sample ⟨base, start, earlier⟩ := by
  constructor
  · rintro ⟨stop, marks, hcourse, hstop⟩
    obtain ⟨length, hpath⟩ := exists_path_of_course flow hplaced earlier hcourse
    exact ((hgoal _ _).1 hstop).of_path hpath
  · rintro ⟨length, last, hpath, haccepting⟩
    obtain ⟨stop, marks, shorter, _, hcourse, hrest⟩ := exists_course_of_path flow
      hplaced hexit hpath rfl (outside_of_accepting flow hplaced haccepting)
    exact ⟨stop, marks, hcourse, (hgoal _ _).2 ⟨shorter, last, hrest, haccepting⟩⟩

/-- The code of a flow leads the preferred path along the preferred course. -/
theorem exists_preferred (flow : Flow) {base exit : Nat} {goal : Nat → Prop}
    (hplaced : Placed program base (flow.code base exit))
    (hexit : Outside base flow.codeLength exit)
    (hgoal : ∀ position marks,
      goal position ↔ Succeeds program sample ⟨exit, position, marks⟩)
    {start stop length : Nat} {marks earlier : Marks} {last : Thread}
    (hprefers : flow.prefers sample goal start stop marks)
    (hrest : Preferred program sample length ⟨exit, stop, marks ++ earlier⟩ last) :
    ∃ length, Preferred program sample length ⟨base, start, earlier⟩ last := by
  induction flow generalizing base exit goal start stop length marks earlier with
  | pass =>
      obtain ⟨rfl, rfl⟩ := hprefers
      exact ⟨_, .first (placed_cons.1 hplaced).1 rfl hrest⟩
  | take set =>
      obtain ⟨⟨c, hc, hmem⟩, rfl, rfl⟩ := hprefers
      have hfollow : (Instr.take set exit).follow sample ⟨base, start, earlier⟩ =
          [⟨exit, start + 1, earlier⟩] := by simp [Instr.follow, hc, hmem]
      exact ⟨_, .first (placed_cons.1 hplaced).1 hfollow hrest⟩
  | check look =>
      obtain ⟨hlook, rfl, rfl⟩ := hprefers
      have hfollow : (Instr.check look exit).follow sample ⟨base, stop, earlier⟩ =
          [⟨exit, stop, earlier⟩] := by simp [Instr.follow, hlook]
      exact ⟨_, .first (placed_cons.1 hplaced).1 hfollow hrest⟩
  | seq first second ihFirst ihSecond =>
      obtain ⟨middle, early, late, hfirst, hsecond, rfl⟩ := hprefers
      obtain ⟨hplacedFirst, hplacedSecond⟩ := placed_append.1 hplaced
      rw [length_code] at hplacedSecond
      have hexitSecond : Outside (base + first.codeLength) second.codeLength exit := by
        simp only [Outside, codeLength] at hexit ⊢
        omega
      have hmiddle := reaches_iff second hplacedSecond hexitSecond hgoal
      rw [List.append_assoc] at hrest
      obtain ⟨_, hrest⟩ := ihSecond hplacedSecond hexitSecond hgoal hsecond hrest
      exact ihFirst hplacedFirst (Or.inr (Nat.le_refl _)) hmiddle hfirst hrest
  | either first second ihFirst ihSecond =>
      obtain ⟨hsplit, hbranches⟩ := placed_cons.1 hplaced
      obtain ⟨hplacedFirst, hplacedSecond⟩ := placed_append.1 hbranches
      rw [length_code] at hplacedSecond
      have hexitFirst : Outside (base + 1) first.codeLength exit := by
        simp only [Outside, codeLength] at hexit ⊢
        omega
      have hexitSecond : Outside (base + 1 + first.codeLength) second.codeLength exit := by
        simp only [Outside, codeLength] at hexit ⊢
        omega
      rcases hprefers with hfirst | ⟨hvain, hsecond⟩
      · obtain ⟨_, hrest⟩ := ihFirst hplacedFirst hexitFirst hgoal hfirst hrest
        exact ⟨_, .first hsplit rfl hrest⟩
      · obtain ⟨_, hrest⟩ := ihSecond hplacedSecond hexitSecond hgoal hsecond hrest
        rw [reaches_iff first hplacedFirst hexitFirst hgoal start earlier] at hvain
        exact ⟨_, .second hsplit rfl hvain hrest⟩
  | perhaps greedy body ih =>
      obtain ⟨hbranch, hplacedBody⟩ := placed_cons.1 hplaced
      have hexitBody : Outside (base + 1) body.codeLength exit := by
        simp only [Outside, codeLength] at hexit ⊢
        omega
      rcases hprefers with ⟨hvain, hbody⟩ | ⟨hvain, rfl, rfl⟩
      · obtain ⟨_, hrest⟩ := ih hplacedBody hexitBody hgoal hbody hrest
        rw [hgoal start earlier] at hvain
        exact ⟨_, hrest.inwards hbranch hvain⟩
      · rw [reaches_iff body hplacedBody hexitBody hgoal stop earlier] at hvain
        exact ⟨_, .outwards hbranch hvain hrest⟩
  | again greedy body ih =>
      have hmore := reaches_iff (again greedy body) hplaced hexit hgoal
      obtain ⟨hplacedBody, hloop⟩ := placed_append.1 hplaced
      rw [length_code] at hloop
      have hbranch := (placed_cons.1 hloop).1
      have hexitBody : Outside base body.codeLength (base + body.codeLength) :=
        Or.inr (Nat.le_refl _)
      have hloopGoal : ∀ position marks,
          (((again greedy body).course sample).Reaches goal position ∨ goal position) ↔
            Succeeds program sample ⟨base + body.codeLength, position, marks⟩ := by
        intro position marks
        have hvain : (branch greedy base exit).accepts = false := by cases greedy <;> rfl
        have hloop : Succeeds program sample ⟨base + body.codeLength, position, marks⟩ ↔ _ :=
          Succeeds.iff_follow hbranch hvain
        rw [hmore position marks, hgoal position marks, hloop]
        simp only [mem_follow_branch, or_and_right, exists_or, exists_eq_left]
      -- Each round is a preferred course of the body, whose exit is the branch.
      induction hprefers generalizing earlier with
      | last hbody hleave =>
          rw [hmore _ _] at hleave
          exact ih hplacedBody hexitBody hloopGoal hbody (hrest.outwards hbranch hleave)
      | next hbody hagain _ ihRounds =>
          rw [List.append_assoc] at hrest
          obtain ⟨_, hrest⟩ := ihRounds hrest
          rw [hgoal _ _] at hagain
          exact ih hplacedBody hexitBody hloopGoal hbody (hrest.inwards hbranch hagain)
  | capture index body ih =>
      obtain ⟨inner, hbody, rfl⟩ := hprefers
      obtain ⟨hopen, hinside⟩ := placed_cons.1 hplaced
      obtain ⟨hplacedBody, hclose⟩ := placed_append.1 hinside
      rw [length_code] at hclose
      have hsave := (placed_cons.1 hclose).1
      have hcloseGoal : ∀ position marks, goal position ↔
          Succeeds program sample ⟨base + 1 + body.codeLength, position, marks⟩ := by
        intro position marks
        rw [Succeeds.iff_follow hsave rfl,
          hgoal position ((2 * index + 1, position) :: marks)]
        simp [Instr.follow]
      have hclosed : Preferred program sample (length + 1)
          ⟨base + 1 + body.codeLength, stop, inner ++ ((2 * index, start) :: earlier)⟩
          last := .first hsave rfl (by simpa using hrest)
      obtain ⟨_, hrest⟩ :=
        ih hplacedBody (Or.inr (Nat.le_refl _)) hcloseGoal hbody hclosed
      exact ⟨_, .first hopen rfl hrest⟩

/-- What a flow prefers is one of its courses. -/
theorem course_of_prefers (flow : Flow) {goal : Nat → Prop} {start stop : Nat}
    {marks : Marks} (hprefers : flow.prefers sample goal start stop marks) :
    flow.course sample start stop marks := by
  induction flow generalizing goal start stop marks with
  | pass | take | check => exact hprefers
  | seq first second ihFirst ihSecond =>
      obtain ⟨middle, early, late, hfirst, hsecond, rfl⟩ := hprefers
      exact ⟨middle, early, late, ihFirst hfirst, ihSecond hsecond, rfl⟩
  | either first second ihFirst ihSecond =>
      rcases hprefers with hfirst | ⟨_, hsecond⟩
      · exact Or.inl (ihFirst hfirst)
      · exact Or.inr (ihSecond hsecond)
  | perhaps greedy body ih =>
      rcases hprefers with ⟨_, hbody⟩ | ⟨_, hstay⟩
      · exact Or.inl (ih hbody)
      · exact Or.inr hstay
  | again greedy body ih =>
      induction hprefers with
      | last hbody _ =>
          refine ⟨1, Nat.le_refl 1, by simp, ?_⟩
          rw [Course.power_one]
          exact ih hbody
      | next hbody _ _ ihRounds =>
          obtain ⟨count, _, _, hpower⟩ := ihRounds
          exact ⟨count + 1, by omega, by simp, _, _, _, ih hbody, hpower, rfl⟩
  | capture index body ih =>
      obtain ⟨inner, hbody, rfl⟩ := hprefers
      exact ⟨inner, ih hbody, rfl⟩

end Flow

/-- A search takes the preferred course of a compiled expression. -/
theorem Program.search?_of_prefers (expr : Expr) {start stop : Nat} {marks : Marks}
    (hstart : start ≤ sample.size)
    (hprefers : (Flow.ofExpr expr).prefers sample (fun _ => True) start stop marks) :
    (ofExpr expr).search? sample start = some ⟨start, stop, marks⟩ := by
  have hexit (position : Nat) (marks : Marks) : Accepting (ofExpr expr)
      ⟨(Flow.ofExpr expr).codeLength, position, marks⟩ := (accepting_ofExpr_iff expr).2 rfl
  have hend : Preferred (ofExpr expr) sample 0 _ _ := .done (hexit stop (marks ++ []))
  obtain ⟨length, hpreferred⟩ := Flow.exists_preferred _ (placed_ofExpr expr)
    (Or.inr (by omega)) (fun position marks => iff_of_true trivial
      (.of_accepting (hexit position marks))) hprefers hend
  rw [search?_of_preferred hpreferred hstart, List.append_nil]

/-! ## Greedy repetitions of a set -/

/-- So many members of the set stand from the start on, and no more may follow or
no other one does. -/
structure Fills (sample : Array Char) (set : CharSet) (most : Option Nat)
    (start count : Nat) : Prop where
  members : ∀ offset < count, ∃ c, sample[start + offset]? = some c ∧ set.mem c = true
  full : most = some count ∨ ∀ c, sample[start + count]? = some c → set.mem c = false

namespace Fills

variable {set : CharSet} {most : Option Nat} {start count : Nat}

theorem take_first (hfills : Fills sample set most start (count + 1)) :
    Course.take sample set start (start + 1) [] :=
  ⟨hfills.members 0 (Nat.succ_pos _), rfl, rfl⟩

/-- What is left behind the first characters is filled too. -/
theorem drop {early late : Nat} {other : Option Nat}
    (hfills : Fills sample set most start (early + late))
    (hmost : most = some (early + late) → other = some late) :
    Fills sample set other (start + early) late where
  members offset hoffset := by
    obtain ⟨c, hc, hmem⟩ := hfills.members (early + offset) (by omega)
    exact ⟨c, by rwa [Nat.add_assoc], hmem⟩
  full := by
    refine hfills.full.imp hmost fun hend c hc => hend c ?_
    rwa [Nat.add_assoc] at hc

theorem not_take (hfills : Fills sample set most start 0) (hmost : most ≠ some 0)
    (stop : Nat) (marks : Marks) : ¬ Course.take sample set start stop marks := by
  rintro ⟨⟨c, hc, hmem⟩, _⟩
  simp [hfills.full.resolve_left hmost c hc] at hmem

/-- Nothing that begins with the set can begin where it has no member. -/
theorem not_reaches (hfills : Fills sample set most start 0) (hmost : most ≠ some 0)
    (later : Course) (goal : Nat → Prop) :
    ¬ ((Course.take sample set).andThen later).Reaches goal start := by
  rintro ⟨_, _, ⟨middle, early, _, htake, _⟩, _⟩
  exact hfills.not_take hmost middle early htake

/-- Where no member is left, one more round is in vain. -/
theorem not_reaches_between (hfills : Fills sample set most start 0)
    (hmost : most ≠ some 0) (goal : Nat → Prop) :
    ¬ (Course.between 1 none (Course.take sample set)).Reaches goal start := by
  rintro ⟨stop, marks, ⟨rounds, hleast, _, hpower⟩, hgoal⟩
  obtain ⟨rounds, rfl⟩ := Nat.exists_eq_succ_of_ne_zero (Nat.ne_of_gt hleast)
  exact hfills.not_reaches hmost _ goal ⟨stop, marks, hpower, hgoal⟩

end Fills

namespace Flow

variable {set : CharSet} {goal : Nat → Prop} {start count : Nat}

theorem prefers_times
    (hmembers : ∀ offset < count, ∃ c, sample[start + offset]? = some c ∧ set.mem c = true) :
    (times count (take set)).prefers sample goal start (start + count) [] := by
  induction count generalizing start goal with
  | zero => exact ⟨rfl, rfl⟩
  | succ count ih =>
      have hfirst : Course.take sample set start (start + 1) [] :=
        ⟨hmembers 0 (Nat.succ_pos _), rfl, rfl⟩
      cases count with
      | zero => exact hfirst
      | succ count =>
          have hlater := @ih goal (start + 1) fun offset hoffset => by
            obtain ⟨c, hc, hmem⟩ := hmembers (offset + 1) (by omega)
            exact ⟨c, by rwa [Nat.add_assoc, Nat.add_comm 1], hmem⟩
          rw [Nat.add_assoc, Nat.add_comm 1] at hlater
          exact ⟨start + 1, [], [], hfirst, hlater, rfl⟩

/-- Optional rounds take all the members there are, up to their number. -/
theorem prefers_upTo {most : Nat} (hle : count ≤ most)
    (hfills : Fills sample set (some most) start count) (hgoal : goal (start + count)) :
    (upTo true most (take set)).prefers sample goal start (start + count) [] := by
  induction most generalizing start count with
  | zero =>
      obtain rfl := Nat.le_zero.1 hle
      exact ⟨rfl, rfl⟩
  | succ most ih =>
      cases count with
      | zero =>
          have hvain := hfills.not_reaches (by simp)
          cases most with
          | zero =>
              have hstay := hvain .stay goal
              rw [Course.andThen_stay] at hstay
              exact Or.inr ⟨fun _ => hstay, rfl, rfl⟩
          | succ most => exact Or.inr ⟨fun _ => hvain _ goal, rfl, rfl⟩
      | succ count =>
          have hfirst := hfills.take_first
          cases most with
          | zero =>
              obtain rfl : count = 0 := by omega
              exact Or.inl ⟨by simp, hfirst⟩
          | succ most =>
              rw [Nat.add_comm count] at hfills hgoal ⊢
              rw [← Nat.add_assoc] at hgoal ⊢
              have hlater := ih (by omega)
                (hfills.drop fun hmost => by rw [Option.some_inj] at hmost ⊢; omega) hgoal
              exact Or.inl ⟨by simp, start + 1, [], [], hfirst, hlater, rfl⟩

theorem prefers_again (hfills : Fills sample set none start (count + 1))
    (hgoal : goal (start + (count + 1))) :
    (again true (take set)).prefers sample goal start (start + (count + 1)) [] := by
  induction count generalizing start with
  | zero =>
      have hone : Fills sample set none start (1 + 0) := hfills
      have hbehind : Fills sample set none (start + 1) 0 := hone.drop (by simp)
      exact .last hfills.take_first fun _ => hbehind.not_reaches_between (by simp) goal
  | succ count ih =>
      rw [Nat.add_comm (count + 1)] at hfills hgoal ⊢
      rw [← Nat.add_assoc] at hgoal ⊢
      exact .next hfills.take_first (by simp) (ih (hfills.drop (by simp)) hgoal)

theorem prefers_unbounded {least : Nat} (hle : least ≤ count)
    (hfills : Fills sample set none start count) (hgoal : goal (start + count)) :
    (unbounded true least (take set)).prefers sample goal start (start + count) [] := by
  match least with
  | 0 =>
      cases count with
      | zero =>
          have hvain := hfills.not_reaches_between (by simp) goal
          exact Or.inr ⟨fun _ => hvain, rfl, rfl⟩
      | succ count => exact Or.inl ⟨by simp, prefers_again hfills hgoal⟩
  | 1 =>
      obtain ⟨count, rfl⟩ := Nat.exists_eq_succ_of_ne_zero (Nat.ne_of_gt hle)
      exact prefers_again hfills hgoal
  | least + 2 =>
      obtain ⟨count, rfl⟩ := Nat.exists_eq_add_of_le hle
      have hsplit : least + 2 + count = least + 1 + (count + 1) := by omega
      -- The loop makes the last of the characters that are required, so one less
      -- is taken in front of it.
      rw [hsplit] at hfills hgoal ⊢
      rw [← Nat.add_assoc start] at hgoal ⊢
      refine ⟨start + (least + 1), [], [], prefers_times fun offset hoffset =>
        hfills.members offset (by omega), prefers_again (hfills.drop (by simp)) hgoal, rfl⟩

/-- A greedy run of members takes as many as it may. -/
theorem prefers_bounded {least most : Nat} (hle : least ≤ count) (hmost : count ≤ most)
    (hfills : Fills sample set (some most) start count) (hgoal : goal (start + count)) :
    (bounded true least most (take set)).prefers sample goal start (start + count) [] := by
  unfold bounded
  split
  case isTrue hbounds =>
    obtain rfl : count = least := by omega
    exact prefers_times hfills.members
  case isFalse =>
    split
    case isTrue => exact prefers_upTo hmost hfills hgoal
    case isFalse =>
      obtain ⟨more, rfl⟩ := Nat.exists_eq_add_of_le hle
      rw [← Nat.add_assoc] at hgoal ⊢
      refine ⟨start + least, [], [], prefers_times fun offset hoffset =>
        hfills.members offset (by omega), prefers_upTo (by omega) (hfills.drop ?_) hgoal, rfl⟩
      intro hcount
      rw [Option.some_inj] at hcount ⊢
      omega

end Flow

/-- A greedy repetition of a set takes all characters that it may and that are
members, if the goal can be reached behind them. -/
theorem prefers_repetition_set {set : CharSet} {goal : Nat → Prop} {least start count : Nat}
    {most : Option Nat} (hle : least ≤ count) (hmost : ∀ bound ∈ most, count ≤ bound)
    (hfills : Fills sample set most start count) (hgoal : goal (start + count)) :
    (Flow.ofExpr (.repetition least most true (.set set))).prefers sample goal start
      (start + count) [] := by
  have hbody : (Expr.set set).matchesOnlyEmpty = false := rfl
  unfold Expr.repetition
  simp only [hbody, Bool.false_eq_true, if_false]
  split
  case isTrue hnone =>
    obtain rfl := Nat.le_zero.1 (hmost 0 hnone)
    exact ⟨rfl, rfl⟩
  case isFalse =>
    split
    case isTrue hone =>
      obtain ⟨rfl, rfl⟩ := hone
      obtain rfl := Nat.le_antisymm (hmost 1 rfl) hle
      exact hfills.take_first
    case isFalse =>
      cases most with
      | none => exact Flow.prefers_unbounded hle hfills hgoal
      | some most => exact Flow.prefers_bounded hle (hmost most rfl) hfills hgoal

end PatternWorkbench.Machine
