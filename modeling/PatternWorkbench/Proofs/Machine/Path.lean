import PatternWorkbench.Proofs.Machine.Course

/-!
# Paths through a program

The moves that a program allows make up paths.  The code of a flow, wherever it
is placed, carries a thread from its base to its exit exactly along the courses
of the flow, so the accepting paths of a compiled expression are its courses.
-/

namespace PatternWorkbench.Machine

open Pattern (Expr)

/-- A number of moves of a program from one thread to another. -/
inductive Path (program : Program) (sample : Array Char) :
    Nat → Thread → Thread → Prop where
  | done (thread : Thread) : Path program sample 0 thread thread
  | move {length : Nat} {thread next last : Thread} {instr : Instr}
      (hinstr : program.code[thread.address]? = some instr)
      (hnext : next ∈ instr.follow sample thread)
      (hrest : Path program sample length next last) :
      Path program sample (length + 1) thread last

def Placed (program : Program) (base : Nat) (code : List Instr) : Prop :=
  ∀ offset instr, code[offset]? = some instr →
    program.code[base + offset]? = some instr

def Outside (base size address : Nat) : Prop :=
  address < base ∨ base + size ≤ address

variable {program : Program} {sample : Array Char}

theorem placed_cons {base : Nat} {instr : Instr} {code : List Instr} :
    Placed program base (instr :: code) ↔
      program.code[base]? = some instr ∧ Placed program (base + 1) code := by
  constructor
  · intro hplaced
    refine ⟨hplaced 0 instr rfl, fun offset other hother => ?_⟩
    have := hplaced (offset + 1) other hother
    rwa [← Nat.add_assoc, Nat.add_right_comm] at this
  · rintro ⟨hhead, htail⟩ offset other hother
    cases offset with
    | zero =>
        obtain rfl : instr = other := by simpa using hother
        exact hhead
    | succ offset =>
        have := htail offset other hother
        rwa [Nat.add_right_comm] at this

theorem placed_append {base : Nat} {left right : List Instr} :
    Placed program base (left ++ right) ↔
      Placed program base left ∧ Placed program (base + left.length) right := by
  induction left generalizing base with
  | nil => simp [Placed]
  | cons instr left ih =>
      rw [List.cons_append, placed_cons, placed_cons, ih, List.length_cons,
        and_assoc, Nat.add_assoc, Nat.add_comm 1]

namespace Path

theorem trans {first second : Nat} {start middle last : Thread}
    (hfirst : Path program sample first start middle)
    (hsecond : Path program sample second middle last) :
    Path program sample (first + second) start last := by
  induction hfirst with
  | done thread => rwa [Nat.zero_add]
  | move hinstr hnext _ ih =>
      rw [Nat.add_right_comm]
      exact .move hinstr hnext (ih hsecond)

theorem single {thread next : Thread} {instr : Instr}
    (hinstr : program.code[thread.address]? = some instr)
    (hnext : next ∈ instr.follow sample thread) :
    Path program sample 1 thread next :=
  .move hinstr hnext (.done next)

/-- A path that ends at another address begins with a move. -/
theorem exists_next {length address : Nat} {thread last : Thread}
    {instr : Instr} (hpath : Path program sample length thread last)
    (hthread : thread.address = address)
    (hinstr : program.code[address]? = some instr)
    (hne : address ≠ last.address) :
    ∃ shorter next, shorter < length ∧ next ∈ instr.follow sample thread ∧
      Path program sample shorter next last := by
  cases hpath with
  | done => exact absurd hthread.symm hne
  | @move shorter _ next _ other hother hnext hrest =>
      obtain rfl : instr = other := by
        rw [hthread, hinstr] at hother
        exact Option.some.inj hother
      exact ⟨shorter, next, Nat.lt_succ_self _, hnext, hrest⟩

end Path

namespace Flow

theorem mem_follow_branch {greedy : Bool} {inner outer : Nat}
    {thread next : Thread} :
    next ∈ (branch greedy inner outer).follow sample thread ↔
      next = { thread with address := inner } ∨
        next = { thread with address := outer } := by
  cases greedy <;> simp [branch, Instr.follow, or_comm]

/-- Rounds of the body are walked one after the other, by way of the branch between
them. -/
theorem exists_path_of_power {body : Course} {base loop : Nat}
    (hbody : ∀ start stop marks earlier, body start stop marks →
      ∃ length, Path program sample length ⟨base, start, earlier⟩
        ⟨loop, stop, marks ++ earlier⟩)
    (hback : ∀ position earlier, ∃ length, Path program sample length
      ⟨loop, position, earlier⟩ ⟨base, position, earlier⟩)
    {count start stop : Nat} {marks : Marks} (earlier : Marks)
    (hpower : body.power (count + 1) start stop marks) :
    ∃ length, Path program sample length ⟨base, start, earlier⟩
      ⟨loop, stop, marks ++ earlier⟩ := by
  induction count generalizing start marks earlier with
  | zero =>
      rw [Course.power_one] at hpower
      exact hbody start stop marks earlier hpower
  | succ count ih =>
      obtain ⟨middle, early, late, hfirst, hrest, rfl⟩ := hpower
      obtain ⟨first, hfirst⟩ := hbody start middle early earlier hfirst
      obtain ⟨back, hback⟩ := hback middle (early ++ earlier)
      obtain ⟨second, hsecond⟩ := ih (early ++ earlier) hrest
      rw [List.append_assoc]
      exact ⟨_, hfirst.trans (hback.trans hsecond)⟩

/-- Every course of a flow is walked by its code. -/
theorem exists_path_of_course (flow : Flow) {base exit : Nat}
    (hplaced : Placed program base (flow.code base exit))
    {start stop : Nat} {marks : Marks} (earlier : Marks)
    (hcourse : flow.course sample start stop marks) :
    ∃ length, Path program sample length ⟨base, start, earlier⟩
      ⟨exit, stop, marks ++ earlier⟩ := by
  induction flow generalizing base exit start stop marks earlier with
  | pass =>
      obtain ⟨rfl, rfl⟩ := hcourse
      exact ⟨1, .single (placed_cons.1 hplaced).1 (by simp [Instr.follow])⟩
  | take set =>
      obtain ⟨⟨c, hc, hmem⟩, rfl, rfl⟩ := hcourse
      exact ⟨1, .single (placed_cons.1 hplaced).1
        (by simp [Instr.follow, hc, hmem])⟩
  | check look =>
      obtain ⟨hlook, rfl, rfl⟩ := hcourse
      exact ⟨1, .single (placed_cons.1 hplaced).1
        (by simp [Instr.follow, hlook])⟩
  | seq first second ihFirst ihSecond =>
      obtain ⟨middle, early, late, hfirst, hsecond, rfl⟩ := hcourse
      obtain ⟨hplacedFirst, hplacedSecond⟩ := placed_append.1 hplaced
      rw [length_code] at hplacedSecond
      obtain ⟨_, hfirst⟩ := ihFirst hplacedFirst earlier hfirst
      obtain ⟨_, hsecond⟩ := ihSecond hplacedSecond (early ++ earlier) hsecond
      rw [List.append_assoc]
      exact ⟨_, hfirst.trans hsecond⟩
  | either first second ihFirst ihSecond =>
      obtain ⟨hsplit, hrest⟩ := placed_cons.1 hplaced
      obtain ⟨hplacedFirst, hplacedSecond⟩ := placed_append.1 hrest
      rw [length_code] at hplacedSecond
      rcases hcourse with hfirst | hsecond
      · obtain ⟨_, hfirst⟩ := ihFirst hplacedFirst earlier hfirst
        exact ⟨_, .move hsplit (by simp [Instr.follow]) hfirst⟩
      · obtain ⟨_, hsecond⟩ := ihSecond hplacedSecond earlier hsecond
        exact ⟨_, .move hsplit (by simp [Instr.follow]) hsecond⟩
  | perhaps greedy body ih =>
      obtain ⟨hbranch, hplacedBody⟩ := placed_cons.1 hplaced
      rcases hcourse with hbody | ⟨rfl, rfl⟩
      · obtain ⟨_, hbody⟩ := ih hplacedBody earlier hbody
        exact ⟨_, .move hbranch (mem_follow_branch.2 (Or.inl rfl)) hbody⟩
      · exact ⟨1, .single hbranch (mem_follow_branch.2 (Or.inr rfl))⟩
  | again greedy body ih =>
      obtain ⟨count, hleast, _, hpower⟩ := hcourse
      obtain ⟨count, rfl⟩ : ∃ fewer, count = fewer + 1 :=
        ⟨count - 1, by omega⟩
      obtain ⟨hplacedBody, hloop⟩ := placed_append.1 hplaced
      rw [length_code] at hloop
      have hbranch := (placed_cons.1 hloop).1
      obtain ⟨_, hrounds⟩ := exists_path_of_power
        (fun start stop marks earlier hbody => ih hplacedBody earlier hbody)
        (fun position earlier =>
          ⟨1, .single hbranch (mem_follow_branch.2 (Or.inl rfl))⟩)
        earlier hpower
      exact ⟨_, hrounds.trans
        (.single hbranch (mem_follow_branch.2 (Or.inr rfl)))⟩
  | capture index body ih =>
      obtain ⟨inner, hbody, rfl⟩ := hcourse
      obtain ⟨hopen, hrest⟩ := placed_cons.1 hplaced
      obtain ⟨hplacedBody, hclose⟩ := placed_append.1 hrest
      rw [length_code] at hclose
      obtain ⟨_, hbody⟩ := ih hplacedBody ((2 * index, start) :: earlier) hbody
      refine ⟨_, .move hopen (List.mem_singleton.2 rfl)
        (hbody.trans (.single (placed_cons.1 hclose).1 ?_))⟩
      simp [Instr.follow]

/-- A path through a loop goes round it a number of times and leaves it. -/
theorem exists_course_of_loop {body : Course} {greedy : Bool} {base loop exit : Nat}
    {last : Thread} (hbranch : program.code[loop]? = some (branch greedy base exit))
    (hlast : loop ≠ last.address)
    (hbody : ∀ {length : Nat} {thread : Thread},
      Path program sample length thread last → thread.address = base →
      ∃ middle early rest, rest < length ∧ body thread.position middle early ∧
        Path program sample rest ⟨loop, middle, early ++ thread.marks⟩ last)
    {length : Nat} {thread : Thread} (hpath : Path program sample length thread last)
    (hthread : thread.address = base) :
    ∃ stop marks shorter, shorter < length ∧
      Course.between 1 none body thread.position stop marks ∧
      Path program sample shorter ⟨exit, stop, marks ++ thread.marks⟩ last := by
  -- The path may come back to the base, but each time with fewer moves left.
  induction length using Nat.strongRecOn generalizing thread with
  | ind length ih =>
      obtain ⟨middle, early, rest, hrest, hround, hpath⟩ := hbody hpath hthread
      obtain ⟨shorter, next, hshorter, hnext, hpath⟩ :=
        hpath.exists_next rfl hbranch hlast
      rcases mem_follow_branch.1 hnext with rfl | rfl
      · obtain ⟨stop, late, final, hfinal, ⟨count, hleast, _, hpower⟩, hpath⟩ :=
          ih shorter (by omega) hpath rfl
        have hrounds : body.power (count + 1) thread.position stop (late ++ early) :=
          ⟨middle, early, late, hround, hpower, rfl⟩
        refine ⟨stop, late ++ early, final, by omega, ?_, ?_⟩
        · exact ⟨count + 1, by omega, by simp, hrounds⟩
        · rwa [List.append_assoc]
      · have hone : body.power 1 thread.position middle early := by
          rwa [Course.power_one]
        refine ⟨middle, early, shorter, by omega, ?_, hpath⟩
        exact ⟨1, Nat.le_refl _, by simp, hone⟩

/-- A path that enters the code of a flow at its base and ends outside of it
follows a course of the flow to the exit. -/
theorem exists_course_of_path (flow : Flow) {base exit : Nat}
    (hplaced : Placed program base (flow.code base exit))
    (hexit : Outside base flow.codeLength exit)
    {length : Nat} {thread last : Thread}
    (hpath : Path program sample length thread last)
    (hthread : thread.address = base)
    (hlast : Outside base flow.codeLength last.address) :
    ∃ stop marks shorter, shorter < length ∧
      flow.course sample thread.position stop marks ∧
      Path program sample shorter ⟨exit, stop, marks ++ thread.marks⟩ last := by
  induction flow generalizing base exit length thread with
  | pass =>
      obtain ⟨shorter, next, hshorter, hnext, hrest⟩ := hpath.exists_next
        hthread (placed_cons.1 hplaced).1
        (by simp only [Outside, codeLength] at hlast; omega)
      obtain rfl := List.mem_singleton.1 hnext
      exact ⟨_, _, shorter, hshorter, ⟨rfl, rfl⟩, hrest⟩
  | take set =>
      obtain ⟨shorter, next, hshorter, hnext, hrest⟩ := hpath.exists_next
        hthread (placed_cons.1 hplaced).1
        (by simp only [Outside, codeLength] at hlast; omega)
      simp only [Instr.follow] at hnext
      split at hnext
      case h_1 c hc =>
        split at hnext
        case isTrue hmem =>
          obtain rfl := List.mem_singleton.1 hnext
          exact ⟨_, _, shorter, hshorter, ⟨⟨c, hc, hmem⟩, rfl, rfl⟩, hrest⟩
        case isFalse => simp at hnext
      case h_2 => simp at hnext
  | check look =>
      obtain ⟨shorter, next, hshorter, hnext, hrest⟩ := hpath.exists_next
        hthread (placed_cons.1 hplaced).1
        (by simp only [Outside, codeLength] at hlast; omega)
      simp only [Instr.follow] at hnext
      split at hnext
      case isTrue hlook =>
        obtain rfl := List.mem_singleton.1 hnext
        exact ⟨_, _, shorter, hshorter, ⟨hlook, rfl, rfl⟩, hrest⟩
      case isFalse => simp at hnext
  | seq first second ihFirst ihSecond =>
      obtain ⟨hplacedFirst, hplacedSecond⟩ := placed_append.1 hplaced
      rw [length_code] at hplacedSecond
      have hsecondPos := codeLength_pos second
      simp only [Outside, codeLength] at hexit hlast ihFirst ihSecond
      obtain ⟨middle, early, rest, hrest, hfirst, hpath⟩ :=
        ihFirst hplacedFirst (by omega) hpath hthread (by omega)
      obtain ⟨stop, late, shorter, hshorter, hsecond, hpath⟩ :=
        ihSecond hplacedSecond (by omega) hpath rfl (by omega)
      refine ⟨stop, late ++ early, shorter, by omega,
        ⟨middle, early, late, hfirst, hsecond, rfl⟩, ?_⟩
      rwa [List.append_assoc]
  | either first second ihFirst ihSecond =>
      obtain ⟨hsplit, hrest⟩ := placed_cons.1 hplaced
      obtain ⟨hplacedFirst, hplacedSecond⟩ := placed_append.1 hrest
      rw [length_code] at hplacedSecond
      simp only [Outside, codeLength] at hexit hlast ihFirst ihSecond
      obtain ⟨rest, next, hrest, hnext, hpath⟩ := hpath.exists_next
        hthread hsplit (by omega)
      simp only [Instr.follow, List.mem_cons, List.not_mem_nil, or_false] at hnext
      rcases hnext with rfl | rfl
      · obtain ⟨stop, marks, shorter, hshorter, hfirst, hpath⟩ :=
          ihFirst hplacedFirst (by omega) hpath rfl (by omega)
        exact ⟨stop, marks, shorter, by omega, Or.inl hfirst, hpath⟩
      · obtain ⟨stop, marks, shorter, hshorter, hsecond, hpath⟩ :=
          ihSecond hplacedSecond (by omega) hpath rfl (by omega)
        exact ⟨stop, marks, shorter, by omega, Or.inr hsecond, hpath⟩
  | perhaps greedy body ih =>
      obtain ⟨hbranch, hplacedBody⟩ := placed_cons.1 hplaced
      simp only [Outside, codeLength] at hexit hlast ih
      obtain ⟨rest, next, hrest, hnext, hpath⟩ := hpath.exists_next
        hthread hbranch (by omega)
      rcases mem_follow_branch.1 hnext with rfl | rfl
      · obtain ⟨stop, marks, shorter, hshorter, hbody, hpath⟩ :=
          ih hplacedBody (by omega) hpath rfl (by omega)
        exact ⟨stop, marks, shorter, by omega, Or.inl hbody, hpath⟩
      · exact ⟨_, _, rest, hrest, Or.inr ⟨rfl, rfl⟩, hpath⟩
  | again greedy body ih =>
      obtain ⟨hplacedBody, hloop⟩ := placed_append.1 hplaced
      rw [length_code] at hloop
      have hbranch := (placed_cons.1 hloop).1
      simp only [Outside, codeLength] at hexit hlast ih
      apply exists_course_of_loop hbranch _ _ hpath hthread
      · omega
      · intro length thread hpath hthread
        exact ih hplacedBody (by omega) hpath hthread (by omega)
  | capture index body ih =>
      obtain ⟨hopen, hrest⟩ := placed_cons.1 hplaced
      obtain ⟨hplacedBody, hclose⟩ := placed_append.1 hrest
      rw [length_code] at hclose
      simp only [Outside, codeLength] at hexit hlast ih
      obtain ⟨rest, next, hrest, hnext, hpath⟩ := hpath.exists_next
        hthread hopen (by omega)
      obtain rfl := List.mem_singleton.1 hnext
      obtain ⟨stop, inner, shorter, hshorter, hbody, hpath⟩ :=
        ih hplacedBody (by omega) hpath rfl (by omega)
      obtain ⟨final, next, hfinal, hnext, hpath⟩ :=
        hpath.exists_next rfl (placed_cons.1 hclose).1 (by dsimp only; omega)
      obtain rfl := List.mem_singleton.1 hnext
      refine ⟨stop, _, final, by omega, ⟨inner, hbody, rfl⟩, ?_⟩
      simpa using hpath

theorem not_accepts_of_mem_code {flow : Flow} {base exit : Nat} {instr : Instr}
    (hmem : instr ∈ flow.code base exit) : instr.accepts = false := by
  induction flow generalizing base exit with
  | pass => obtain rfl := List.mem_singleton.1 hmem; rfl
  | take set => obtain rfl := List.mem_singleton.1 hmem; rfl
  | check look => obtain rfl := List.mem_singleton.1 hmem; rfl
  | seq first second ihFirst ihSecond =>
      rcases List.mem_append.1 hmem with hmem | hmem
      · exact ihFirst hmem
      · exact ihSecond hmem
  | either first second ihFirst ihSecond =>
      rcases List.mem_cons.1 hmem with rfl | hmem
      · rfl
      rcases List.mem_append.1 hmem with hmem | hmem
      · exact ihFirst hmem
      · exact ihSecond hmem
  | perhaps greedy body ih =>
      rcases List.mem_cons.1 hmem with rfl | hmem
      · cases greedy <;> rfl
      · exact ih hmem
  | again greedy body ih =>
      rcases List.mem_append.1 hmem with hmem | hmem
      · exact ih hmem
      · obtain rfl := List.mem_singleton.1 hmem
        cases greedy <;> rfl
  | capture index body ih =>
      rcases List.mem_cons.1 hmem with rfl | hmem
      · rfl
      rcases List.mem_append.1 hmem with hmem | hmem
      · exact ih hmem
      · obtain rfl := List.mem_singleton.1 hmem
        rfl

end Flow

def Accepting (program : Program) (thread : Thread) : Prop :=
  ∃ instr, program.code[thread.address]? = some instr ∧ instr.accepts = true

namespace Program

variable (expr : Expr)

theorem placed_ofExpr :
    Placed (ofExpr expr) 0
      ((Flow.ofExpr expr).code 0 (Flow.ofExpr expr).codeLength) := by
  intro offset instr hinstr
  have hbound : offset < (Flow.ofExpr expr).codeLength := by
    rw [← Flow.length_code 0 (Flow.ofExpr expr).codeLength]
    exact (List.getElem?_eq_some_iff.1 hinstr).1
  simp only [ofExpr, Nat.zero_add, List.getElem?_toArray]
  rw [List.getElem?_append_left (by simpa using hbound)]
  exact hinstr

/-- The only accepting instruction stands behind the code of the expression. -/
theorem accepting_ofExpr_iff {thread : Thread} :
    Accepting (ofExpr expr) thread ↔
      thread.address = (Flow.ofExpr expr).codeLength := by
  simp only [Accepting, ofExpr, List.getElem?_toArray]
  constructor
  · rintro ⟨instr, hinstr, haccepts⟩
    rcases Nat.lt_trichotomy thread.address (Flow.ofExpr expr).codeLength
      with hlt | heq | hgt
    · rw [List.getElem?_append_left (by simpa using hlt)] at hinstr
      have := Flow.not_accepts_of_mem_code (List.mem_of_getElem? hinstr)
      simp [this] at haccepts
    · exact heq
    · rw [List.getElem?_eq_none (by simp; omega)] at hinstr
      simp at hinstr
  · intro heq
    exact ⟨.accept, by simp [heq], rfl⟩

/-- The accepting paths of a compiled expression are its courses. -/
theorem exists_accepting_path_iff {start stop : Nat} {marks : Marks} :
    (∃ length last, Path (ofExpr expr) sample length ⟨0, start, []⟩ last ∧
      Accepting (ofExpr expr) last ∧ last.position = stop ∧
      last.marks = marks) ↔
      expr.course sample start stop marks := by
  rw [← Flow.course_ofExpr]
  constructor
  · rintro ⟨length, last, hpath, haccepting, rfl, rfl⟩
    have haddress := (accepting_ofExpr_iff expr).1 haccepting
    obtain ⟨stop, marks, shorter, _, hcourse, hrest⟩ :=
      Flow.exists_course_of_path _ (placed_ofExpr expr)
        (Or.inr (by omega)) hpath rfl (Or.inr (by omega))
    rw [List.append_nil] at hrest
    cases hrest with
    | done => exact hcourse
    | move hinstr hnext _ =>
        have : (ofExpr expr).code[(Flow.ofExpr expr).codeLength]? =
            some .accept := by simp [ofExpr]
        obtain rfl := Option.some.inj (this.symm.trans hinstr)
        simp [Instr.follow] at hnext
  · intro hcourse
    obtain ⟨length, hpath⟩ :=
      Flow.exists_path_of_course _ (placed_ofExpr expr) [] hcourse
    exact ⟨length, _, hpath, (accepting_ofExpr_iff expr).2 rfl, rfl,
      by simp⟩

end Program

end PatternWorkbench.Machine
