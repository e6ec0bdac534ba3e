/-!
# Remembering equal states

States that lead to the same ones under the same conditions need to be built
only once. A table with a fixed number of places remembers which state was built
for which key. The place of a key follows from its digest, and a place remembers
what was put there last, so a state may be forgotten but is never confused.
-/

namespace PatternWorkbench.Machine

structure Sharing where
  places : Array (Option (List Nat × Nat))

namespace Sharing

def empty (places : Nat) : Sharing :=
  ⟨Array.replicate places none⟩

/-- The words of a key mixed one after the other by an exclusive or and a
product with a prime. -/
def digest (key : List Nat) : UInt64 :=
  key.foldl (fun mixed word => (mixed ^^^ word.toUInt64) * 1099511628211)
    14695981039346656037

def place (sharing : Sharing) (key : List Nat) : Nat :=
  (digest key).toNat % sharing.places.size

def find? (sharing : Sharing) (key : List Nat) : Option Nat :=
  match sharing.places[sharing.place key]? with
  | some (some (known, state)) => if known = key then some state else none
  | _ => none

def record (sharing : Sharing) (key : List Nat) (state : Nat) : Sharing :=
  ⟨sharing.places.setIfInBounds (sharing.place key) (some (key, state))⟩

@[simp]
theorem find?_empty (places : Nat) (key : List Nat) :
    (empty places).find? key = none := by
  unfold find? empty
  grind

theorem size_record (sharing : Sharing) (key : List Nat) (state : Nat) :
    (sharing.record key state).places.size = sharing.places.size := by
  simp [record]

/-- A state is found where it was recorded last. -/
theorem find?_record_self (sharing : Sharing) (key : List Nat) (state : Nat)
    (hroom : 0 < sharing.places.size) :
    (sharing.record key state).find? key = some state := by
  have hinside : sharing.place key < sharing.places.size :=
    Nat.mod_lt _ hroom
  have hplace : (sharing.record key state).place key = sharing.place key := by
    simp [place, size_record]
  rw [find?, hplace]
  simp [record, hinside]

/-- Recording a state leaves another key with its state or with none. -/
theorem find?_record_of_ne (sharing : Sharing) {key other : List Nat}
    (state : Nat) (hne : other ≠ key) {known : Nat}
    (hfound : (sharing.record key state).find? other = some known) :
    sharing.find? other = some known := by
  have hplace : (sharing.record key state).place other = sharing.place other := by
    simp [place, size_record]
  unfold find? at hfound ⊢
  rw [hplace] at hfound
  simp only [record] at hfound
  grind

end Sharing

end PatternWorkbench.Machine
