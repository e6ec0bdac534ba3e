import Mathlib.Data.List.Induction
import Mathlib.Tactic.Tauto
import PatternWorkbench.Proofs.Settings.Leaf

/-!
# Layers of settings

However files and values from above are mixed, what counts for each leaf is the
value that was given for it last, then the values of the files with later ones over
earlier ones, then the built-in one.
-/

namespace PatternWorkbench.Settings

/-! ## Calls -/

/-- What is asked of a loader: to read a file, or to give a leaf a value. -/
inductive Call where
  | file (file : File)
  | override (leaf : Leaf) (value : Setting)

def Loader.take (loader : Loader) : Call → Except Fault Loader
  | .file file => .ok (loader.withFile file)
  | .override leaf value => loader.withOverride leaf.spelling value

namespace Call

def file? : Call → Option File
  | .file layer => some layer
  | .override .. => none

def given? (leaf : Leaf) : Call → Option Setting
  | .file _ => none
  | .override other value => if other = leaf then some value else none

end Call

section Values

variable (calls : List Call) (leaf : Leaf)

def lastGiven? : Option Setting :=
  (calls.filterMap (Call.given? leaf)).getLast?

end Values

/-! ## What a loader holds -/

/-- The loader after calls: the files among them, and for each leaf the value that
was given last. -/
structure Holds (calls : List Call) (loader : Loader) (pairs : List (Leaf × Setting)) :
    Prop where
  files : loader.files = calls.filterMap Call.file?
  overrides : loader.overrides = pairs.map fun pair => (pair.1.key, pair.2)
  distinct : (pairs.map Prod.fst).Nodup
  latest : ∀ leaf, pairs.lookup leaf = lastGiven? calls leaf

theorem lookup_filter_ne (pairs : List (Leaf × Setting)) (leaf other : Leaf) :
    (pairs.filter (·.1 ≠ leaf)).lookup other =
      if leaf = other then none else pairs.lookup other := by
  induction pairs with
  | nil => simp
  | cons pair pairs ih =>
      obtain ⟨first, value⟩ := pair
      by_cases hfirst : first = leaf
      · subst hfirst
        rw [List.filter_cons_of_neg (by simp), ih, List.lookup_cons]
        by_cases hother : first = other
        · rw [if_pos hother, if_pos hother]
        · rw [if_neg hother, if_neg hother, beq_eq_false_iff_ne.2 (Ne.symm hother)]
      · rw [List.filter_cons_of_pos (by simpa using hfirst), List.lookup_cons,
          List.lookup_cons, ih]
        by_cases hother : leaf = other
        · rw [if_pos hother, if_pos hother, ← hother, beq_eq_false_iff_ne.2 (Ne.symm hfirst)]
        · rw [if_neg hother, if_neg hother]

section Holding

variable {calls : List Call} {loader : Loader} {pairs : List (Leaf × Setting)}

theorem Holds.withFile (hholds : Holds calls loader pairs) (layer : File) :
    Holds (calls ++ [.file layer]) (loader.withFile layer) pairs := by
  refine ⟨?_, hholds.overrides, hholds.distinct, fun leaf => ?_⟩
  · simp [Loader.withFile, hholds.files, Call.file?]
  · simp [hholds.latest, lastGiven?, Call.given?]

theorem Loader.take_override (loader : Loader) (leaf : Leaf) (value : Setting) :
    loader.take (.override leaf value) = .ok
      { loader with
        overrides := loader.overrides.filter (·.1 != leaf.key) ++ [(leaf.key, value)] } := by
  rw [take, withOverride, Leaf.read_spelling]

theorem nodup_filter_concat (hdistinct : (pairs.map Prod.fst).Nodup) (leaf : Leaf)
    (value : Setting) :
    ((pairs.filter (·.1 ≠ leaf) ++ [(leaf, value)]).map Prod.fst).Nodup := by
  have hsub := hdistinct.sublist
    ((List.filter_sublist (p := fun pair => decide (pair.1 ≠ leaf))).map Prod.fst)
  rw [List.map_append, List.nodup_append]
  refine ⟨hsub, by simp, ?_⟩
  simp only [List.map_singleton, List.mem_singleton]
  rintro first hfirst _ rfl rfl
  obtain ⟨pair, hpair, rfl⟩ := List.mem_map.1 hfirst
  simpa using (List.mem_filter.1 hpair).2

/-- A value takes the place of the one that was given for its leaf before. -/
theorem Holds.override (hholds : Holds calls loader pairs) (leaf : Leaf) (value : Setting) :
    Holds (calls ++ [.override leaf value])
      { loader with
        overrides := loader.overrides.filter (·.1 != leaf.key) ++ [(leaf.key, value)] }
      (pairs.filter (·.1 ≠ leaf) ++ [(leaf, value)]) := by
  have hother : (fun pair : Leaf × Setting => pair.1.key != leaf.key) =
      fun pair => decide (pair.1 ≠ leaf) := by
    funext pair
    rw [Bool.eq_iff_iff, bne_iff_ne, decide_eq_true_eq, Leaf.key_injective.ne_iff]
  refine ⟨?_, ?_, nodup_filter_concat hholds.distinct leaf value, fun other => ?_⟩
  · simp [hholds.files, Call.file?]
  · simp only [hholds.overrides, List.filter_map, List.map_append, List.map_singleton]
    exact congrArg (fun keep => (pairs.filter keep).map _ ++ _) hother
  · rw [List.lookup_append, lookup_filter_ne, hholds.latest]
    by_cases hleaf : leaf = other
    · simp [lastGiven?, Call.given?, hleaf]
    · simp [lastGiven?, Call.given?, hleaf, List.lookup_cons,
        beq_eq_false_iff_ne.2 (Ne.symm hleaf)]

/-- A further call, and what the loader holds after it. -/
theorem Holds.take (hholds : Holds calls loader pairs) (call : Call) :
    ∃ loader' pairs', loader.take call = .ok loader' ∧
      Holds (calls ++ [call]) loader' pairs' := by
  cases call with
  | file layer => exact ⟨_, pairs, rfl, hholds.withFile layer⟩
  | override leaf value =>
      exact ⟨_, _, loader.take_override leaf value, hholds.override leaf value⟩

end Holding

section Building

variable {below : Setting}

end Building

/-! ## What calls come to -/

/-- Calls that differ only in what makes no difference: a file that need not be there
and is not, or the order of two neighbours that are not two files and not two values
for one leaf. -/
inductive Rearranged : List Call → List Call → Prop where
  | dropped {file : File} (htext : file.text = none) (hoptional : file.required = false)
      (before after : List Call) :
      Rearranged (before ++ .file file :: after) (before ++ after)
  | lifted (file : File) (leaf : Leaf) (value : Setting) (before after : List Call) :
      Rearranged (before ++ .override leaf value :: .file file :: after)
        (before ++ .file file :: .override leaf value :: after)
  | exchanged {leaf other : Leaf} (hother : leaf ≠ other) (value second : Setting)
      (before after : List Call) :
      Rearranged (before ++ .override leaf value :: .override other second :: after)
        (before ++ .override other second :: .override leaf value :: after)

namespace Rearranged

variable {calls others : List Call}

theorem mem (hothers : Rearranged calls others) {call : Call} (hcall : call ∈ others) :
    call ∈ calls := by
  cases hothers <;> simp only [List.mem_append, List.mem_cons] at hcall ⊢ <;> tauto

end Rearranged

/-! ## The topmost value -/

end PatternWorkbench.Settings
