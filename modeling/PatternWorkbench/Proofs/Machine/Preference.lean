import PatternWorkbench.Proofs.Machine.Exploration

/-!
# Preference

Of several ways to go on a run takes the first from which acceptance can be
reached.  The path on which every move is of this kind is the preferred path, and
a search ends where it ends, although it never returns to a configuration: what
it passes over cannot succeed, and the preferred path comes to no configuration
twice.
-/

namespace PatternWorkbench.Machine

variable {program : Program} {sample : Array Char}

/-- What decides how a thread can go on. -/
def Thread.place (thread : Thread) : Nat × Nat :=
  (thread.address, thread.position)

/-- Where a thread can go depends on its place, and not on its marks. -/
theorem Instr.map_place_follow {thread other : Thread} (instr : Instr)
    (hplace : other.place = thread.place) :
    (instr.follow sample other).map Thread.place =
      (instr.follow sample thread).map Thread.place := by
  obtain ⟨address, position, marks⟩ := thread
  obtain ⟨_, _, earlier⟩ := other
  obtain ⟨rfl, rfl⟩ := Prod.mk.inj hplace
  cases instr with
  | take set next =>
      simp only [follow]
      split
      case h_1 => split <;> rfl
      case h_2 => rfl
  | check look next =>
      simp only [follow]
      split <;> rfl
  | jump | split | save | accept => rfl

theorem accepting_iff_of_place {thread other : Thread}
    (hplace : other.place = thread.place) :
    Accepting program other ↔ Accepting program thread := by
  rw [Accepting, Accepting, (Prod.mk.inj hplace).1]

theorem Instr.follow_of_accepts {thread : Thread} {instr : Instr}
    (haccepts : instr.accepts = true) : instr.follow sample thread = [] := by
  cases instr <;> first | rfl | contradiction

/-! ## Success -/

namespace Succeeds

theorem of_accepting {thread : Thread} (haccepting : Accepting program thread) :
    Succeeds program sample thread :=
  ⟨0, thread, .done thread, haccepting⟩

/-- A thread succeeds if a path leads from it to one that does. -/
theorem of_path {length : Nat} {thread next : Thread}
    (hpath : Path program sample length thread next)
    (hnext : Succeeds program sample next) : Succeeds program sample thread := by
  obtain ⟨more, last, hrest, haccepting⟩ := hnext
  exact ⟨length + more, last, hpath.trans hrest, haccepting⟩

theorem of_move {thread next : Thread} {instr : Instr}
    (hinstr : program.code[thread.address]? = some instr)
    (hmove : next ∈ instr.follow sample thread)
    (hnext : Succeeds program sample next) : Succeeds program sample thread :=
  hnext.of_path (.single hinstr hmove)

/-- Success does not depend on the marks made before. -/
theorem of_place {thread other : Thread} (hplace : other.place = thread.place)
    (hother : Succeeds program sample other) : Succeeds program sample thread := by
  obtain ⟨length, last, hpath, haccepting⟩ := hother
  induction hpath generalizing thread with
  | done => exact of_accepting ((accepting_iff_of_place hplace).1 haccepting)
  | @move _ other next last instr hinstr hnext _ ih =>
      obtain ⟨haddress, hposition⟩ := Prod.mk.inj hplace
      obtain ⟨twin, htwin, hsame⟩ :=
        Instr.exists_mem_follow_of_eq haddress hposition hnext
      rw [haddress] at hinstr
      exact (ih (Prod.ext hsame.1.symm hsame.2.symm) haccepting).of_move hinstr htwin

end Succeeds

/-! ## Preferred paths -/

/-- A number of moves to an accepting thread, each the first of its instruction
from which acceptance can be reached. -/
inductive Preferred (program : Program) (sample : Array Char) :
    Nat → Thread → Thread → Prop where
  | done {thread : Thread} (haccepting : Accepting program thread) :
      Preferred program sample 0 thread thread
  | move {length : Nat} {thread next last : Thread} {instr : Instr}
      {earlier later : List Thread}
      (hinstr : program.code[thread.address]? = some instr)
      (hfollow : instr.follow sample thread = earlier ++ next :: later)
      (hearlier : ∀ other ∈ earlier, ¬ Succeeds program sample other)
      (hrest : Preferred program sample length next last) :
      Preferred program sample (length + 1) thread last

namespace Preferred

variable {length : Nat} {thread last : Thread}

/-- A preferred path accepts in the end, so its thread succeeds. -/
theorem succeeds (hpreferred : Preferred program sample length thread last) :
    Succeeds program sample thread := by
  induction hpreferred with
  | done haccepting => exact .of_accepting haccepting
  | move hinstr hfollow _ _ ih =>
      exact ih.of_move hinstr (by rw [hfollow]; simp)

theorem not_accepting {next : Thread} {instr : Instr} {earlier later : List Thread}
    (hfollow : instr.follow sample thread = earlier ++ next :: later) :
    instr.accepts = false := by
  cases haccepts : instr.accepts with
  | false => rfl
  | true => simp [Instr.follow_of_accepts haccepts] at hfollow

/-- Of two rows of places the first successes are at the same place. -/
theorem place_eq {next other : Thread} {before later before' later' : List Thread}
    (hplaces : (before ++ next :: later).map Thread.place =
      (before' ++ other :: later').map Thread.place)
    (hbefore : ∀ thread ∈ before, ¬ Succeeds program sample thread)
    (hbefore' : ∀ thread ∈ before', ¬ Succeeds program sample thread)
    (hnext : Succeeds program sample next) (hother : Succeeds program sample other) :
    next.place = other.place := by
  simp only [List.map_append, List.map_cons] at hplaces
  rcases List.append_eq_append_iff.1 hplaces with ⟨between, hlong, hshort⟩ |
    ⟨between, hlong, hshort⟩
  · cases between with
    | nil => exact (List.cons.inj hshort).1
    | cons place between =>
        obtain ⟨rfl, _⟩ := List.cons.inj hshort
        have hmem : next.place ∈ before'.map Thread.place := by simp [hlong]
        obtain ⟨twin, htwin, hplace⟩ := List.mem_map.1 hmem
        exact absurd (hnext.of_place hplace.symm) (hbefore' twin htwin)
  · cases between with
    | nil => exact (List.cons.inj hshort).1.symm
    | cons place between =>
        obtain ⟨rfl, _⟩ := List.cons.inj hshort
        have hmem : other.place ∈ before.map Thread.place := by simp [hlong]
        obtain ⟨twin, htwin, hplace⟩ := List.mem_map.1 hmem
        exact absurd (hother.of_place hplace.symm) (hbefore twin htwin)

/-- How long the preferred path is depends on the place alone. -/
theorem length_eq {length' : Nat} {thread' last' : Thread}
    (hpreferred : Preferred program sample length thread last)
    (hpreferred' : Preferred program sample length' thread' last')
    (hplace : thread'.place = thread.place) : length' = length := by
  induction hpreferred generalizing length' thread' with
  | done haccepting =>
      cases hpreferred' with
      | done => rfl
      | move hinstr hfollow _ _ =>
          obtain ⟨instr, hinstr', haccepts⟩ := (accepting_iff_of_place hplace).2 haccepting
          obtain rfl := Option.some.inj (hinstr.symm.trans hinstr')
          simp [not_accepting hfollow] at haccepts
  | @move length thread next last instr before later hinstr hfollow hbefore hrest ih =>
      cases hpreferred' with
      | done haccepting =>
          obtain ⟨accepted, hinstr', haccepts⟩ := (accepting_iff_of_place hplace).1 haccepting
          obtain rfl := Option.some.inj (hinstr.symm.trans hinstr')
          simp [not_accepting hfollow] at haccepts
      | @move length' _ next' _ instr' before' later' hinstr' hfollow' hbefore' hrest' =>
          rw [(Prod.mk.inj hplace).1, hinstr] at hinstr'
          obtain rfl := Option.some.inj hinstr'
          have hplaces : (instr.follow sample _).map Thread.place = _ :=
            instr.map_place_follow hplace
          rw [hfollow, hfollow'] at hplaces
          have hsame := place_eq hplaces hbefore' hbefore hrest'.succeeds hrest.succeeds
          rw [ih hrest' hsame]

end Preferred

/-! ## The search follows the preferred path -/

/-- What is on top of the stack and cannot succeed is passed over, and nothing
that could succeed is marked meanwhile. -/
theorem explore_append_of_vain (visited : Visited) (vain stack : List Thread)
    (hvain : ∀ thread ∈ vain, ¬ Succeeds program sample thread) :
    ∃ after : Visited, explore program sample visited (vain ++ stack) =
        explore program sample after stack ∧
      after.rows.size = visited.rows.size ∧
      ∀ thread : Thread, after.has thread.address thread.position = true →
        visited.has thread.address thread.position = true ∨
          ¬ Succeeds program sample thread := by
  have hunchanged (visited : Visited) : ∃ after : Visited,
      explore program sample visited stack = explore program sample after stack ∧
        after.rows.size = visited.rows.size ∧
        ∀ thread : Thread, after.has thread.address thread.position = true →
          visited.has thread.address thread.position = true ∨
            ¬ Succeeds program sample thread :=
    ⟨visited, rfl, rfl, fun _ => Or.inl⟩
  generalize hwhole : vain ++ stack = whole
  induction visited, whole using explore.induct program sample generalizing vain with
  | case1 visited =>
      obtain ⟨rfl, rfl⟩ := List.append_eq_nil_iff.1 hwhole
      exact hunchanged visited
  | case2 visited thread rest hopen instr haccepts =>
      cases vain with
      | nil => exact hwhole ▸ hunchanged visited
      | cons first vain =>
          obtain ⟨rfl, rfl⟩ := List.cons.inj hwhole
          have haccepting : Accepting program first :=
            ⟨instr, Array.getElem?_eq_getElem hopen.1, haccepts⟩
          exact absurd (.of_accepting haccepting) (hvain first (by simp))
  | case3 visited thread rest hopen marked instr haccepts ih =>
      cases vain with
      | nil => exact hwhole ▸ hunchanged visited
      | cons first vain =>
          obtain ⟨rfl, rfl⟩ := List.cons.inj hwhole
          obtain ⟨hfirst, hlater⟩ := List.forall_mem_cons.1 hvain
          have hinstr : program.code[first.address]? = some instr :=
            Array.getElem?_eq_getElem hopen.1
          -- What a vain thread moves to is vain, so it joins what is passed over.
          have hmoves : ∀ next ∈ instr.follow sample first ++ vain,
              ¬ Succeeds program sample next := by
            intro next hnext hsucceeds
            rcases List.mem_append.1 hnext with hnext | hnext
            · exact hfirst (hsucceeds.of_move hinstr hnext)
            · exact hlater next hnext hsucceeds
          obtain ⟨after, hexplore, hsize, hgrown⟩ :=
            ih (instr.follow sample first ++ vain) hmoves (List.append_assoc _ _ _)
          refine ⟨after, ?_, by rw [hsize, Visited.size_mark], ?_⟩
          · rw [explore, dif_pos hopen, if_neg haccepts]
            exact hexplore
          · intro other hother
            refine (hgrown other hother).elim (fun hmarked => ?_) Or.inr
            rw [Visited.has_mark _ _ _ _ _ hopen.2.1, Bool.or_eq_true,
              decide_eq_true_eq] at hmarked
            refine hmarked.elim (fun hplace => Or.inr fun hsucceeds => ?_) Or.inl
            exact hfirst (hsucceeds.of_place (Prod.ext hplace.1 hplace.2))
  | case4 visited thread rest hshut ih =>
      cases vain with
      | nil => exact hwhole ▸ hunchanged visited
      | cons first vain =>
          obtain ⟨rfl, rfl⟩ := List.cons.inj hwhole
          rw [explore, dif_neg hshut]
          exact ih vain (List.forall_mem_cons.1 hvain).2 rfl

/-- No preferred path of the given length or a shorter one begins at a place
that is marked. -/
def Spares (program : Program) (sample : Array Char) (visited : Visited)
    (length : Nat) : Prop :=
  ∀ (thread last : Thread) (shorter : Nat), shorter ≤ length →
    Preferred program sample shorter thread last →
    visited.has thread.address thread.position = false

namespace Spares

variable {visited after : Visited} {length : Nat} {thread last : Thread}

theorem none (count : Nat) : Spares program sample (.none count) length :=
  fun _ _ _ _ _ => Visited.has_none _ _ _

/-- Marking where the path begins spares what is left of it. -/
theorem mark (hspares : Spares program sample visited (length + 1))
    (hpreferred : Preferred program sample (length + 1) thread last)
    (hknown : thread.position < visited.rows.size) :
    Spares program sample (visited.mark thread.address thread.position) length := by
  intro other last' shorter hshorter hother
  rw [Visited.has_mark _ _ _ _ _ hknown, Bool.or_eq_false_iff,
    decide_eq_false_iff_not]
  refine ⟨fun hplace => ?_, hspares other last' shorter (by omega) hother⟩
  -- A path from the same place would be as long as this one.
  have := hpreferred.length_eq hother (Prod.ext hplace.1 hplace.2)
  omega

/-- Visiting configurations that lead nowhere does not spoil a search. -/
theorem of_vain (hspares : Spares program sample visited length)
    (hgrown : ∀ thread : Thread, after.has thread.address thread.position = true →
      visited.has thread.address thread.position = true ∨
        ¬ Succeeds program sample thread) :
    Spares program sample after length := by
  intro other last' shorter hshorter hother
  rw [← Bool.not_eq_true]
  intro hmarked
  rcases hgrown other hmarked with hmarked | hvain
  · simp [hspares other last' shorter hshorter hother] at hmarked
  · exact hvain hother.succeeds

end Spares

/-- A run from a thread ends where its preferred path ends. -/
theorem explore_of_preferred {length : Nat} {thread last : Thread}
    (hpreferred : Preferred program sample length thread last)
    (hposition : thread.position ≤ sample.size) {visited : Visited}
    (hsize : visited.rows.size = sample.size + 1)
    (hspares : Spares program sample visited length) (stack : List Thread) :
    (explore program sample visited (thread :: stack)).1 = some last := by
  have hfresh := hspares thread last length (Nat.le_refl _) hpreferred
  induction hpreferred generalizing visited stack with
  | @done thread haccepting =>
      obtain ⟨instr, hinstr, haccepts⟩ := haccepting
      obtain ⟨hinside, rfl⟩ := Array.getElem?_eq_some_iff.1 hinstr
      rw [explore, dif_pos ⟨hinside, by omega, hfresh⟩, if_pos haccepts]
  | @move length thread next last instr earlier later hinstr hfollow hearlier hrest ih =>
      have hpreferred := Preferred.move hinstr hfollow hearlier hrest
      have hvain := Preferred.not_accepting hfollow
      have hnext : next.position ≤ sample.size :=
        Instr.position_le_size_of_mem_follow hposition (by rw [hfollow]; simp)
      obtain ⟨hinside, rfl⟩ := Array.getElem?_eq_some_iff.1 hinstr
      have hmarked := hspares.mark hpreferred (by omega)
      obtain ⟨after, hexplore, hafter, hgrown⟩ := explore_append_of_vain
        (visited.mark thread.address thread.position) earlier
        (next :: later ++ stack) hearlier
      have hspared := hmarked.of_vain hgrown
      rw [explore, dif_pos ⟨hinside, by omega, hfresh⟩, if_neg (by simp [hvain]),
        hfollow, List.append_assoc, hexplore]
      exact ih hnext (by rw [hafter, Visited.size_mark, hsize]) hspared (later ++ stack)
        (hspared next last length (Nat.le_refl _) hrest)

/-- A search finds the preferred path from its start, if there is one. -/
theorem Program.search?_of_preferred {start length : Nat} {last : Thread}
    (hpreferred : Preferred program sample length (.begin start) last)
    (hstart : start ≤ sample.size) :
    program.search? sample start = some ⟨start, last.position, last.marks⟩ := by
  have hfound := explore_of_preferred hpreferred hstart
    (Visited.size_none (sample.size + 1)) (Spares.none _) []
  rw [search?, if_pos hstart, searchFrom]
  split
  case h_1 thread _ hexplored =>
    have hthread : some thread = some last :=
      (congrArg Prod.fst hexplored).symm.trans hfound
    rw [Option.some.inj hthread]
  case h_2 hexplored =>
    have hnone : none = some last := (congrArg Prod.fst hexplored).symm.trans hfound
    contradiction

end PatternWorkbench.Machine
