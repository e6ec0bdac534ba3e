import PatternWorkbench.Settings.Toml

/-!
# Documents that say nothing twice

A document that is read gives each name in a table one value.  Each statement finds
the tables in this state and leaves them in it.
-/

namespace PatternWorkbench.Settings

def Fields.Distinct (fields : Fields) : Prop :=
  (fields.map Prod.fst).Nodup

/-- No table of a document, nor a table right inside it, says something twice. -/
structure Fields.OneValued (fields : Fields) : Prop where
  distinct : fields.Distinct
  inner : ∀ field ∈ fields, Fields.Distinct field.2.fields

namespace Toml

/-! ## Tables under construction -/

namespace Nodes

def Distinct (nodes : Nodes) : Prop :=
  (nodes.map Prod.fst).Nodup

theorem map_fst_put (name : Text) (node : Node) (nodes : Nodes) :
    (put name node nodes).map Prod.fst =
      if name ∈ nodes.map Prod.fst then nodes.map Prod.fst
      else nodes.map Prod.fst ++ [name] := by
  induction nodes with
  | nil => rfl
  | cons entry nodes ih =>
      obtain ⟨other, kept⟩ := entry
      rw [put]
      split
      case isTrue hsame => simp [hsame]
      case isFalse hother =>
        rw [List.map_cons, ih]
        by_cases hmem : name ∈ nodes.map Prod.fst <;> simp [Ne.symm hother, hmem]

theorem Distinct.put {nodes : Nodes} (hdistinct : nodes.Distinct) (name : Text)
    (node : Node) : Distinct (put name node nodes) := by
  rw [Distinct, map_fst_put]
  split
  case isTrue => exact hdistinct
  case isFalse hnot =>
    refine List.nodup_append.2 ⟨hdistinct, by simp, ?_⟩
    rintro other hmem _ hname rfl
    exact hnot (List.mem_singleton.1 hname ▸ hmem)

theorem mem_put {name : Text} {node : Node} {nodes : Nodes} {entry : Text × Node}
    (hentry : entry ∈ put name node nodes) : entry = (name, node) ∨ entry ∈ nodes := by
  induction nodes with
  | nil => exact Or.inl (List.mem_singleton.1 hentry)
  | cons first nodes ih =>
      obtain ⟨other, kept⟩ := first
      rw [put] at hentry
      split at hentry
      case isTrue =>
        exact (List.mem_cons.1 hentry).imp_right (List.mem_cons_of_mem _)
      case isFalse =>
        rcases List.mem_cons.1 hentry with hfirst | hlater
        · exact Or.inr (hfirst ▸ List.mem_cons_self ..)
        · exact (ih hlater).imp_right (List.mem_cons_of_mem _)

theorem map_fst_toFields (source : Source) (nodes : Nodes) :
    (toFields source nodes).map Prod.fst = nodes.map Prod.fst := by
  induction nodes with
  | nil => rfl
  | cons entry nodes ih => simp [toFields, ih]

theorem toFields_eq_map (source : Source) (nodes : Nodes) :
    toFields source nodes = nodes.map fun entry => (entry.1, entry.2.toSetting source) := by
  induction nodes with
  | nil => rfl
  | cons entry nodes ih => simp [toFields, ih]

/-- No table says something twice, nor does a table right inside it. -/
structure OneValued (nodes : Nodes) : Prop where
  distinct : nodes.Distinct
  inner : ∀ entry ∈ nodes, ∀ source, Fields.Distinct (entry.2.toSetting source).fields

/-- The fields of a document have the names of its nodes. -/
theorem distinct_toFields {nodes : Nodes} {source : Source} :
    Fields.Distinct (toFields source nodes) ↔ nodes.Distinct := by
  rw [Fields.Distinct, map_fst_toFields, Distinct]

theorem OneValued.nil : OneValued [] :=
  ⟨List.nodup_nil, fun _ hentry => absurd hentry List.not_mem_nil⟩

theorem OneValued.put {nodes : Nodes} (hnodes : nodes.OneValued) (name : Text)
    {node : Node} (hnode : ∀ source, Fields.Distinct (node.toSetting source).fields) :
    OneValued (put name node nodes) := by
  refine ⟨hnodes.distinct.put name node, fun entry hentry => ?_⟩
  rcases mem_put hentry with rfl | hold
  · exact hnode
  · exact hnodes.inner entry hold

theorem OneValued.distinct_of_lookup {nodes inner : Nodes} (hnodes : nodes.OneValued)
    {name : Text} {origin : Origin} (hlookup : nodes.lookup name = some (.table origin inner)) :
    inner.Distinct := by
  obtain ⟨before, after, rfl, _⟩ := List.lookup_eq_some_iff.1 hlookup
  exact distinct_toFields.1 (hnodes.inner (name, .table origin inner) (by simp) .given)

theorem OneValued.toFields {nodes : Nodes} (hnodes : nodes.OneValued) (source : Source) :
    Fields.OneValued (toFields source nodes) := by
  refine ⟨distinct_toFields.2 hnodes.distinct, fun field hfield => ?_⟩
  rw [toFields_eq_map] at hfield
  obtain ⟨entry, hentry, rfl⟩ := List.mem_map.1 hfield
  exact hnodes.inner entry hentry source

/-! ## Changes -/

def KeepsDistinct (change : Origin → Nodes → Option Nodes) : Prop :=
  ∀ origin nodes result, Distinct nodes → change origin nodes = some result → Distinct result

def KeepsOneValued (change : Origin → Nodes → Option Nodes) : Prop :=
  ∀ origin nodes result, OneValued nodes → change origin nodes = some result → OneValued result

/-- A change behind a name gives the name another table or other rows. -/
theorem within_cons {pointed : Bool} {change : Origin → Nodes → Option Nodes}
    {name : Text} {names : List Text} {origin : Origin} {nodes result : Nodes}
    (hwithin : within pointed change (name :: names) origin nodes = some result) :
    (∃ origin inner inner', result = put name (.table origin inner') nodes ∧
      within pointed change names origin inner = some inner' ∧
      (inner = [] ∨ nodes.lookup name = some (.table origin inner))) ∨
    ∃ rows, result = put name (.rows rows) nodes := by
  rw [within] at hwithin
  split at hwithin
  case h_1 =>
    obtain ⟨inner', hinner, rfl⟩ := Option.map_eq_some_iff.1 hwithin
    exact Or.inl ⟨_, _, inner', rfl, hinner, Or.inl rfl⟩
  case h_2 origin inner hlookup =>
    split at hwithin
    · contradiction
    · obtain ⟨inner', hinner, rfl⟩ := Option.map_eq_some_iff.1 hwithin
      exact Or.inl ⟨_, _, inner', rfl, hinner, Or.inr hlookup⟩
  case h_3 rows _ =>
    split at hwithin
    · contradiction
    · obtain ⟨last, _, rfl⟩ := Option.map_eq_some_iff.1 hwithin
      exact Or.inr ⟨_, rfl⟩
  case h_4 => contradiction

section Within

variable {change : Origin → Nodes → Option Nodes}

/-- A change deep in a document keeps names apart if it does so where it is made. -/
theorem KeepsDistinct.within (hchange : KeepsDistinct change) (pointed : Bool)
    (path : List Text) : KeepsDistinct (within pointed change path) := by
  intro origin nodes result hnodes hwithin
  cases path with
  | nil => exact hchange origin nodes result hnodes hwithin
  | cons name names =>
      rcases within_cons hwithin with ⟨_, _, _, rfl, _⟩ | ⟨_, rfl⟩
      · exact hnodes.put name _
      · exact hnodes.put name _

theorem KeepsOneValued.within (hchange : KeepsOneValued change)
    (hdistinct : KeepsDistinct change) (pointed : Bool) (path : List Text) :
    KeepsOneValued (within pointed change path) := by
  intro origin nodes result hnodes hwithin
  cases path with
  | nil => exact hchange origin nodes result hnodes hwithin
  | cons name names =>
      rcases within_cons hwithin with ⟨_, inner, _, rfl, hinner, hfound⟩ | ⟨_, rfl⟩
      · have hbefore : inner.Distinct := by
          rcases hfound with rfl | hlookup
          · exact List.nodup_nil
          · exact hnodes.distinct_of_lookup hlookup
        have hafter := hdistinct.within pointed names _ _ _ hbefore hinner
        exact hnodes.put name fun _ => distinct_toFields.2 hafter
      · exact hnodes.put name fun _ => List.nodup_nil

end Within

end Nodes

/-! ## Reading -/

end Toml

end PatternWorkbench.Settings
