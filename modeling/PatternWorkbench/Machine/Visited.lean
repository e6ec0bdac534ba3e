/-!
# Explored configurations

A run meets a configuration, an address together with a position, at most once.
The addresses explored at each position are kept as the bits of one number.
-/

namespace PatternWorkbench.Machine

structure Visited where
  rows : Array Nat

namespace Visited

/-- Nothing explored yet at `count` positions. -/
def none (count : Nat) : Visited :=
  ⟨Array.replicate count 0⟩

def has (visited : Visited) (address position : Nat) : Bool :=
  (visited.rows[position]?.getD 0).testBit address

def mark (visited : Visited) (address position : Nat) : Visited :=
  ⟨visited.rows.modify position (· ||| 1 <<< address)⟩

@[simp]
theorem size_mark (visited : Visited) (address position : Nat) :
    (visited.mark address position).rows.size = visited.rows.size := by
  simp [mark]

@[simp]
theorem size_none (count : Nat) : (none count).rows.size = count := by
  simp [none]

@[simp]
theorem has_none (count address position : Nat) :
    (none count).has address position = false := by
  simp only [has, none, Array.getElem?_replicate]
  split <;> simp

/-- Marking adds one configuration and no other. -/
theorem has_mark (visited : Visited) (address position address' position' : Nat)
    (hposition : position < visited.rows.size) :
    (visited.mark address position).has address' position' =
      (decide (address' = address ∧ position' = position) ||
        visited.has address' position') := by
  simp only [has, mark, Array.getElem?_modify]
  by_cases hsame : position = position'
  · subst hsame
    simp only [if_pos, and_true, Array.getElem?_eq_getElem hposition,
      Option.map_some, Option.getD_some, Nat.testBit_or, Nat.one_shiftLeft,
      Nat.testBit_two_pow]
    rw [Bool.or_comm]
    simp [eq_comm]
  · have hother : position' ≠ position := Ne.symm hsame
    simp [hsame, hother]

/-- All configurations of `width` addresses and `height` positions. -/
def configurations (width height : Nat) : List (Nat × Nat) :=
  (List.range height).flatMap fun position =>
    (List.range width).map fun address => (address, position)

theorem mem_configurations {width height address position : Nat} :
    (address, position) ∈ configurations width height ↔
      address < width ∧ position < height := by
  simp only [configurations, List.mem_flatMap, List.mem_range, List.mem_map,
    Prod.mk.injEq]
  constructor
  · rintro ⟨_, hposition, _, haddress, rfl, rfl⟩
    exact ⟨haddress, hposition⟩
  · rintro ⟨haddress, hposition⟩
    exact ⟨position, hposition, address, haddress, rfl, rfl⟩

/-- How many configurations are still unexplored. -/
def remaining (width : Nat) (visited : Visited) : Nat :=
  (configurations width visited.rows.size).countP fun (address, position) =>
    !visited.has address position

/-- A test that fails at one more element holds of fewer. -/
theorem countP_lt_of_imp {α : Type} {p q : α → Bool} {list : List α} {x : α}
    (hx : x ∈ list) (himp : ∀ y, q y = true → p y = true)
    (hp : p x = true) (hq : q x = false) :
    list.countP q < list.countP p := by
  induction list with
  | nil => simp at hx
  | cons head tail ih =>
      have hle : tail.countP q ≤ tail.countP p :=
        List.countP_mono_left fun y _ => himp y
      rcases List.mem_cons.1 hx with rfl | hlater
      · simp only [List.countP_cons, hp, hq]
        simp
        omega
      · have hlt := ih hlater
        simp only [List.countP_cons]
        cases hhead : q head with
        | false => cases p head <;> simp <;> omega
        | true =>
            simp [himp head hhead]
            omega

/-- A run that marks what it meets comes to an end. -/
theorem remaining_mark_lt {width : Nat} {visited : Visited}
    {address position : Nat} (haddress : address < width)
    (hposition : position < visited.rows.size)
    (hfresh : visited.has address position = false) :
    (visited.mark address position).remaining width <
      visited.remaining width := by
  simp only [remaining, size_mark]
  refine countP_lt_of_imp (x := (address, position))
    (mem_configurations.2 ⟨haddress, hposition⟩) ?_ ?_ ?_
  · rintro ⟨address', position'⟩ hunmarked
    simp only [has_mark _ _ _ _ _ hposition, Bool.not_or, Bool.and_eq_true] at hunmarked
    exact hunmarked.2
  · simp [hfresh]
  · simp [has_mark _ _ _ _ _ hposition]

end Visited

end PatternWorkbench.Machine
