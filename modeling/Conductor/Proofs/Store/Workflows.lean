import Conductor.Proofs.Store.Shelf
import Conductor.Proofs.Workflow.Finite

/-! The workflows of a store as a list that only ever grows: one for each id, in the order in which they were added.
What is read of them is the same on either kind of store, except that rows have lost the doubles that are not finite. -/

namespace Conductor

theorem Assoc.get?_keyed {α : Type} (key : α → String) (items : List α) (name : String) :
    get? (items.map fun item => (key item, item)) name = items.find? (key · = name) := by
  induction items with
  | nil => rfl
  | cons first rest ih =>
    rw [List.map_cons, get?, List.find?_cons, ih]
    by_cases h : key first = name <;> simp [h]

namespace StoredWorkflow

abbrev id (x : StoredWorkflow) : String := x.definition.id

/-- A workflow as it is read back from its row. -/
def finite (x : StoredWorkflow) : StoredWorkflow := { x with definition := x.definition.finite }

theorem finite_of_isFinite {x : StoredWorkflow} (h : x.definition.toJson.isFinite = true) : x.finite = x := by
  rw [finite, Definition.finite_of_isFinite h]

theorem read_row_finite (x : StoredWorkflow) : x.row.read = .ok x.finite :=
  WorkflowRow.read_ofDefinition x.definition x.createdAt

end StoredWorkflow

namespace Store

/-- What a store keeps of workflows: entries by their ids, or rows. -/
structure Keeps (s : Store) (kept : List StoredWorkflow) : Prop where
  shelf : s.shelf = .inl (kept.map fun x => (x.id, x)) ∨ s.shelf = .inr (kept.map StoredWorkflow.row)
  distinct : (kept.map StoredWorkflow.id).Nodup

/-- A workflow as a store gives it back. -/
def giving : Store → StoredWorkflow → StoredWorkflow
  | .memory _ => id
  | .table _ => StoredWorkflow.finite

variable {s t : Store} {kept : List StoredWorkflow} {x : StoredWorkflow}

theorem giving_id (s : Store) (x : StoredWorkflow) : (s.giving x).id = x.id := by
  cases s <;> rfl

theorem giving_of_isFinite (s : Store) (h : x.definition.toJson.isFinite = true) : s.giving x = x := by
  cases s with
  | memory m => rfl
  | table t => exact StoredWorkflow.finite_of_isFinite h

theorem Keeps.same (h : s.Keeps kept) (hs : t.shelf = s.shelf) : t.Keeps kept := ⟨hs ▸ h.shelf, h.distinct⟩

theorem Keeps.memory {m : Memory} (h : (Store.memory m).Keeps kept) : m.workflows = kept.map fun x => (x.id, x) :=
  h.shelf.elim Sum.inl.inj nofun

theorem Keeps.table {t : Table} (h : (Store.table t).Keeps kept) : t.workflows = kept.map StoredWorkflow.row :=
  h.shelf.elim nofun Sum.inr.inj

theorem Keeps.row? {t : Table} (h : (Store.table t).Keeps kept) (id : String) :
    t.workflow? id = (kept.find? (·.id = id)).map StoredWorkflow.row := by
  rw [Table.workflow?, h.table, List.find?_map]
  rfl

/-- What becomes of a workflow that is added: it is refused where its id is taken, and is the last one otherwise. -/
inductive Adding (d : Definition) (now : Time) (s : Store) (kept : List StoredWorkflow) :
    Except Failure StoredWorkflow × Store → Prop
  | refused (taken : d.id ∈ kept.map StoredWorkflow.id) : Adding d now s kept (.error (.workflowStored d.id), s)
  | added {t : Store} (keeps : t.Keeps (kept ++ [⟨d, now⟩])) : Adding d now s kept (.ok ⟨d, now⟩, t)

theorem Keeps.distinct_append (h : s.Keeps kept) (hx : x.id ∉ kept.map StoredWorkflow.id) :
    ((kept ++ [x]).map StoredWorkflow.id).Nodup := by
  rw [List.map_append, List.nodup_append]
  refine ⟨h.distinct, List.nodup_singleton _, fun a ha b hb => ?_⟩
  rw [List.mem_singleton.1 hb]
  exact fun he => hx (he ▸ ha)

theorem Keeps.adding (h : s.Keeps kept) (d : Definition) (now : Time) :
    Adding d now s kept (createWorkflow d now s) := by
  have hfind : (kept.find? (·.id = d.id)).isSome = true ↔ d.id ∈ kept.map StoredWorkflow.id := by
    simp [List.find?_isSome]
  cases s with
  | memory m =>
    have hget : m.workflows.get? d.id = kept.find? (·.id = d.id) := by rw [h.memory, Assoc.get?_keyed]
    have htaken : m.workflows.has d.id = true ↔ d.id ∈ kept.map StoredWorkflow.id := by rw [Assoc.has, hget, hfind]
    rw [createWorkflow, run_memory, Memory.createWorkflow_eq]
    by_cases ht : d.id ∈ kept.map StoredWorkflow.id
    · rw [if_pos (htaken.2 ht)]
      exact .refused ht
    · have hnone : m.workflows.get? d.id = none := by
        rw [← Option.not_isSome_iff_eq_none]
        exact fun hs => ht (htaken.1 hs)
      rw [if_neg fun hs => ht (htaken.1 hs)]
      refine .added ⟨.inl (congrArg Sum.inl ?_), h.distinct_append ht⟩
      show m.workflows.put d.id ⟨d, now⟩ = _
      rw [Assoc.put_of_get?_eq_none hnone, h.memory, List.map_append]
      rfl
  | table t =>
    have htaken : (t.workflow? d.id).isSome = true ↔ d.id ∈ kept.map StoredWorkflow.id := by
      rw [h.row?, Option.isSome_map, hfind]
    rw [createWorkflow, run_table, Table.createWorkflow_eq]
    by_cases ht : d.id ∈ kept.map StoredWorkflow.id
    · rw [if_pos (htaken.2 ht)]
      exact .refused ht
    · rw [if_neg fun hs => ht (htaken.1 hs)]
      refine .added ⟨.inr (congrArg Sum.inr ?_), h.distinct_append ht⟩
      show t.workflows ++ [.ofDefinition d now] = _
      rw [h.table, List.map_append]
      rfl

theorem Adding.of_taken {d : Definition} {now : Time} {out : Except Failure StoredWorkflow × Store}
    (h : Adding d now s kept out) (ht : d.id ∈ kept.map StoredWorkflow.id) :
    out = (.error (.workflowStored d.id), s) := by
  cases h with
  | refused taken => rfl
  | added keeps =>
    have htwice := keeps.distinct
    rw [List.map_append] at htwice
    exact absurd (List.mem_singleton_self d.id) (List.disjoint_of_nodup_append htwice ht)

theorem Keeps.findWorkflow (h : s.Keeps kept) (id : String) :
    (findWorkflow id s).1 = .ok ((kept.find? (·.id = id)).map s.giving) := by
  cases s with
  | memory m =>
    have hget : m.workflows.get? id = kept.find? (·.id = id) := by rw [h.memory, Assoc.get?_keyed]
    show Except.ok (m.workflows.get? id) = _
    rw [hget]
    cases kept.find? (·.id = id) <;> rfl
  | table t =>
    rw [Store.findWorkflow, run_table, Table.findWorkflow_eq, h.row?]
    cases kept.find? (·.id = id) with
    | none => rfl
    | some x =>
      rw [Option.map_some]
      exact congrArg (Except.map some) x.read_row_finite

theorem Keeps.find_of_mem (h : s.Keeps kept) (hx : x ∈ kept) : kept.find? (·.id = x.id) = some x := by
  cases hfind : kept.find? (·.id = x.id) with
  | none => simpa using List.find?_eq_none.1 hfind x hx
  | some y =>
    have hid : y.id = x.id := by simpa using List.find?_some hfind
    exact congrArg some (List.inj_on_of_nodup_map h.distinct (List.mem_of_find?_eq_some hfind) hx hid)

theorem Keeps.listWorkflows (h : s.Keeps kept) :
    ∃ listed, (listWorkflows s).1 = .ok listed ∧ listed.Perm (kept.map s.giving) := by
  cases s with
  | memory m =>
    refine ⟨kept, ?_, by rw [giving, List.map_id]⟩
    show Except.ok (m.workflows.map Prod.snd) = _
    rw [h.memory, List.map_map]
    exact congrArg Except.ok (List.map_id kept)
  | table t =>
    let sorted := kept.mergeSort fun a b => decide (a.createdAt ≤ b.createdAt)
    have hrows : (kept.map StoredWorkflow.row).mergeSort (fun a b => decide (a.createdAt ≤ b.createdAt)) =
        sorted.map StoredWorkflow.row :=
      Eq.symm (List.map_mergeSort (f := StoredWorkflow.row) fun _ _ _ _ => rfl)
    have hread : (sorted.map StoredWorkflow.row).mapM WorkflowRow.read = .ok (sorted.map StoredWorkflow.finite) := by
      rw [List.mapM_map, show WorkflowRow.read ∘ StoredWorkflow.row = fun x => pure x.finite from
        funext StoredWorkflow.read_row_finite]
      exact List.mapM_pure
    refine ⟨sorted.map StoredWorkflow.finite, ?_, (List.mergeSort_perm kept _).map _⟩
    rw [Store.listWorkflows, run_table, Table.listWorkflows_eq, h.table, hrows, hread]

/-- What a store keeps is listed once. -/
theorem Keeps.listed_once (h : s.Keeps kept) (hx : x ∈ kept) : ∃ listed, (Store.listWorkflows s).1 = .ok listed ∧
    s.giving x ∈ listed ∧ (listed.map StoredWorkflow.id).count x.id = 1 := by
  obtain ⟨listed, hlist, hperm⟩ := h.listWorkflows
  refine ⟨listed, hlist, hperm.mem_iff.2 (List.mem_map_of_mem hx), ?_⟩
  have hids : (listed.map StoredWorkflow.id).Perm (kept.map StoredWorkflow.id) := by
    have hmap := hperm.map StoredWorkflow.id
    rwa [List.map_map, show StoredWorkflow.id ∘ s.giving = StoredWorkflow.id from funext s.giving_id] at hmap
  rw [hids.count_eq]
  exact List.count_eq_one_of_mem h.distinct (List.mem_map_of_mem hx)

end Store

end Conductor
