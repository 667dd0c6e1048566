import Conductor.Proofs.Store.Rows

/-! Either kind of store gives the same answers. What an operation does to a store of records it does to the table
of their rows, as long as the records are plain; and it leaves them filed in order. -/

namespace Conductor

namespace Memory

variable {α : Type}

/-- The rows of all that a store holds. -/
def table (m : Memory) : Table where
  executions := m.executions.rows Execution.row
  steps := m.steps.rows StepRecord.row
  workflows := m.workflows.rows StoredWorkflow.row

/-- Whether all records can be copied, all costs are numbers and all definitions are finite. -/
def isPlain (m : Memory) : Bool :=
  m.executions.all (·.2.isPlain) && m.steps.all (·.2.isPlain) && m.workflows.all (·.2.isPlain)

/-- What is stored goes by its ids, and workflows stand in the order of their times. -/
structure Filed (issued : Nat) (now : Time) (m : Memory) : Prop where
  executions : m.executions.Filed Execution.id issued
  regular : ∀ entry ∈ m.executions, entry.2.Regular
  steps : m.steps.Filed StepRecord.id issued
  known : ∀ entry ∈ m.steps, entry.2.status.isKnown = true
  owned : ∀ entry ∈ m.steps, m.executions.has entry.2.execution = true
  workflows : ∀ entry ∈ m.workflows, entry.1 = entry.2.definition.id
  order : (m.workflows.map (·.2.createdAt) ++ [now]).Pairwise (· ≤ ·)

theorem Filed.wait {m : Memory} {issued : Nat} {now later : Time} (h : m.Filed issued now) (hlater : now ≤ later) :
    m.Filed issued later := by
  refine { h with order := ?_ }
  have horder := List.pairwise_append.1 h.order
  refine List.pairwise_append.2 ⟨horder.1, List.pairwise_singleton _ _, fun a ha b hb => ?_⟩
  rw [List.mem_singleton.1 hb]
  exact (horder.2.2 a ha now (List.mem_singleton_self _)).trans hlater

/-- An operation that comes to the same on a store and on its table. -/
structure Mirrored (issued : Nat) (now : Time) (m : Memory) (out : Except Failure α × Memory)
    (out' : Except Failure α × Table) : Prop where
  same : out' = (out.1, out.2.table)
  filed : out.2.Filed issued now
  lasts : ∀ id, m.executions.has id = true → out.2.executions.has id = true

variable {m : Memory} {issued : Nat} {now : Time}

theorem plain_execution (h : m.isPlain = true) {id : String} {e : Execution} (he : m.executions.get? id = some e) :
    e.isPlain = true := by
  rw [isPlain, Bool.and_eq_true, Bool.and_eq_true] at h
  exact List.all_eq_true.1 h.1.1 _ (Assoc.mem_of_get?_eq_some he)

theorem plain_step (h : m.isPlain = true) {id : String} {r : StepRecord} (hr : m.steps.get? id = some r) :
    r.isPlain = true := by
  rw [isPlain, Bool.and_eq_true, Bool.and_eq_true] at h
  exact List.all_eq_true.1 h.1.2 _ (Assoc.mem_of_get?_eq_some hr)

theorem plain_workflow (h : m.isPlain = true) {id : String} {s : StoredWorkflow} (hs : m.workflows.get? id = some s) :
    s.isPlain = true := by
  rw [isPlain, Bool.and_eq_true, Bool.and_eq_true] at h
  exact List.all_eq_true.1 h.2 _ (Assoc.mem_of_get?_eq_some hs)

theorem execution?_table (h : m.Filed issued now) (id : String) :
    m.table.execution? id = (m.executions.get? id).map Execution.row := Assoc.find?_rows h.executions.keyed fun _ => rfl

theorem step?_table (h : m.Filed issued now) (id : String) :
    m.table.step? id = (m.steps.get? id).map StepRecord.row := Assoc.find?_rows h.steps.keyed fun _ => rfl

theorem workflow?_table (h : m.Filed issued now) (id : String) :
    m.table.workflow? id = (m.workflows.get? id).map StoredWorkflow.row := Assoc.find?_rows h.workflows fun _ => rfl

theorem Mirrored.look {out : Except Failure α} (h : m.Filed issued now) : Mirrored issued now m (out, m) (out, m.table) :=
  ⟨rfl, h, fun _ h => h⟩

theorem Filed.putExecution (h : m.Filed issued now) {id : String} {old e : Execution}
    (hold : m.executions.get? id = some old) (hid : e.id = id) (he : e.Regular) :
    Mirrored issued now m (.ok (some e), { m with executions := m.executions.put id e })
      (.ok (some e), m.table.putExecution e.row) where
  same := by
    rw [Prod.mk.injEq]
    refine ⟨rfl, ?_⟩
    rw [Table.putExecution, table, table, h.executions.rows_replace ExecutionRow.id (fun _ => rfl) hold hid]
  filed := {
    executions := h.executions.replace hold hid
    regular := fun entry hentry => by
      rcases Assoc.mem_put hentry with rfl | hentry
      · exact he
      · exact h.regular entry hentry
    steps := h.steps
    known := h.known
    owned := fun entry hentry => Assoc.has_put (h.owned entry hentry)
    workflows := h.workflows
    order := h.order }
  lasts _ hid := Assoc.has_put hid

theorem mirrored_updateExecution (h : m.Filed issued now) (hplain : m.isPlain = true) {p : ExecutionPatch}
    (hp : p.Regular) (id : String) (expected : Option (List RunStatus))
    (hafter : (updateExecution id p expected m).2.isPlain = true) :
    Mirrored issued now m (updateExecution id p expected m) (Table.updateExecution id p expected m.table) := by
  obtain ⟨columns, hcolumns, hkept⟩ := hp.columns
  have hfull : p.isEmpty = false := hp.full
  rw [updateExecution_eq] at hafter ⊢
  rw [Table.updateExecution_eq, hcolumns, execution?_table h]
  cases hfound : m.executions.get? id with
  | none => exact .look h
  | some e =>
    have he := plain_execution hplain hfound
    have hregular := h.regular _ (Assoc.mem_of_get?_eq_some hfound)
    simp only [hfound, Option.map_some, hfull, Bool.false_eq_true, if_false, (Bool.and_eq_true _ _ ▸ he).1,
      if_true] at hafter ⊢
    by_cases hasked : expected.all (e.status ∈ ·) = true
    · have hrow : expected.all (e.row.status ∈ ·) = true := hasked
      rw [if_pos hasked] at hafter ⊢
      have hwritten : (p.apply e).isPlain = true :=
        plain_execution hafter ((Assoc.get?_put _ _ _ _).trans (if_pos rfl))
      have hwritten' := hwritten
      rw [Execution.isPlain, Bool.and_eq_true] at hwritten'
      have hwrite := hp.write hwritten
      rw [← hkept (all_of_getD hwritten'.2)] at hwrite
      have hread := (hregular.apply hp).read hwritten []
      have hbare : { p.apply e with steps := [] } = p.apply e := by
        rw [← (hregular.apply hp).bare]
      rw [hbare] at hread
      rw [if_pos hrow, if_pos hwritten'.1, hwrite]
      dsimp only
      rw [hread]
      exact h.putExecution hfound (h.executions.id_of_get? hfound : e.id = id) (hregular.apply hp)
    · have hrow : ¬ expected.all (e.row.status ∈ ·) = true := hasked
      rw [if_neg hasked, if_neg hrow]
      exact .look h

theorem Filed.putStep (h : m.Filed issued now) {id : String} {old r : StepRecord}
    (hold : m.steps.get? id = some old) (hid : r.id = id) (hr : r.status.isKnown = true)
    (hrun : r.execution = old.execution) :
    Mirrored issued now m (.ok r, { m with steps := m.steps.put id r }) (.ok r, m.table.putStep r.row) where
  same := by
    rw [Prod.mk.injEq]
    refine ⟨rfl, ?_⟩
    rw [Table.putStep, table, table, h.steps.rows_replace StepRow.id (fun _ => rfl) hold hid]
  filed := {
    executions := h.executions
    regular := h.regular
    steps := h.steps.replace hold hid
    known := fun entry hentry => by
      rcases Assoc.mem_put hentry with rfl | hentry
      · exact hr
      · exact h.known entry hentry
    owned := fun entry hentry => by
      rcases Assoc.mem_put hentry with rfl | hentry
      · rw [hrun]
        exact h.owned _ (Assoc.mem_of_get?_eq_some hold)
      · exact h.owned entry hentry
    workflows := h.workflows
    order := h.order }
  lasts _ hid := hid

theorem mirrored_updateStep (h : m.Filed issued now) (hplain : m.isPlain = true) {p : StepPatch} (hp : p.Regular)
    (id : String) (hafter : (updateStep id p m).2.isPlain = true) :
    Mirrored issued now m (updateStep id p m) (Table.updateStep id p m.table) := by
  obtain ⟨columns, hcolumns, hkept⟩ := hp.columns
  rw [updateStep_eq] at hafter ⊢
  rw [Table.updateStep_eq, hcolumns, step?_table h]
  cases hfound : m.steps.get? id with
  | none => exact .look h
  | some r =>
    have hr := plain_step hplain hfound
    simp only [hfound, Option.map_some, (Bool.and_eq_true _ _ ▸ hr).1, if_true] at hafter ⊢
    have hwritten : (p.apply r).isPlain = true := plain_step hafter ((Assoc.get?_put _ _ _ _).trans (if_pos rfl))
    have hwritten' := hwritten
    rw [StepRecord.isPlain, Bool.and_eq_true] at hwritten'
    have hwrite := hp.write hwritten
    rw [← hkept (all_of_getD hwritten'.2)] at hwrite
    have hknown := hp.known (h.known _ (Assoc.mem_of_get?_eq_some hfound))
    rw [if_pos hwritten'.1, hwrite]
    dsimp only
    rw [StepRecord.read_row hknown hwritten]
    exact h.putStep hfound (h.steps.id_of_get? hfound : r.id = id) hknown rfl

/-! What is made -/

theorem mirrored_createExecution (h : m.Filed issued now) (workflow : String) (members : Members) (time : Time) :
    Mirrored (issued + 1) now m (createExecution s!"id-{issued + 1}" workflow (.obj members) time m)
      (Table.createExecution s!"id-{issued + 1}" workflow (.obj members) time m.table) where
  same := by
    refine Prod.ext rfl ?_
    let e : Execution := { id := s!"id-{issued + 1}", workflow, input := .obj members, createdAt := time }
    show ({ m.table with executions := m.table.executions ++ [e.row] } : Table) =
      table { m with executions := m.executions.put s!"id-{issued + 1}" e }
    rw [table, table, h.executions.rows_add]
  filed := {
    executions := h.executions.add rfl
    regular := fun entry hentry => by
      rcases Assoc.mem_put hentry with rfl | hentry
      · exact ⟨rfl, rfl, ⟨members, rfl⟩, [], rfl⟩
      · exact h.regular entry hentry
    steps := h.steps.later (Nat.le_succ _)
    known := h.known
    owned := fun entry hentry => Assoc.has_put (h.owned entry hentry)
    workflows := h.workflows
    order := h.order }
  lasts _ hid := Assoc.has_put hid

theorem mirrored_createStep (h : m.Filed issued now) {execution : String} (hhas : m.executions.has execution = true)
    (step : String) :
    ∃ r, (createStep s!"id-{issued + 1}" execution step m).1 = .ok r ∧
      Mirrored (issued + 1) now m (createStep s!"id-{issued + 1}" execution step m)
        (Table.createStep s!"id-{issued + 1}" execution step m.table) := by
  let r : StepRecord := { id := s!"id-{issued + 1}", execution, step }
  have hmade : createStep s!"id-{issued + 1}" execution step m =
      (.ok r, { m with steps := m.steps.put s!"id-{issued + 1}" r }) := by
    rw [createStep_eq, if_pos hhas]
  rw [hmade]
  refine ⟨r, rfl, Prod.ext rfl ?_, ⟨h.executions.later (Nat.le_succ _), h.regular, h.steps.add rfl, fun entry hentry => ?_,
    fun entry hentry => ?_, h.workflows, h.order⟩, fun _ h => h⟩
  · show ({ m.table with steps := m.table.steps ++ [r.row] } : Table) =
      table { m with steps := m.steps.put s!"id-{issued + 1}" r }
    rw [table, table, h.steps.rows_add]
  · rcases Assoc.mem_put hentry with rfl | hentry
    · rfl
    · exact h.known entry hentry
  · rcases Assoc.mem_put hentry with rfl | hentry
    · exact hhas
    · exact h.owned entry hentry

theorem mirrored_createWorkflow (h : m.Filed issued now) (d : Definition) :
    Mirrored issued now m (createWorkflow d now m) (Table.createWorkflow d now m.table) := by
  rw [createWorkflow_eq, Table.createWorkflow_eq, workflow?_table h]
  cases hfound : m.workflows.get? d.id with
  | some s =>
    have hhas : m.workflows.has d.id = true := by rw [Assoc.has, hfound]; rfl
    simp only [hhas, if_true, Option.map_some, Option.isSome_some]
    exact .look h
  | none =>
    have hhas : m.workflows.has d.id = false := by rw [Assoc.has, hfound]; rfl
    have hput := Assoc.put_of_get?_eq_none hfound (⟨d, now⟩ : StoredWorkflow)
    simp only [hhas, Bool.false_eq_true, if_false, Option.map_none, Option.isSome_none]
    refine ⟨Prod.ext rfl ?_, ⟨h.executions, h.regular, h.steps, h.known, h.owned, fun entry hentry => ?_, ?_⟩,
      fun _ h => h⟩
    · show ({ m.table with workflows := m.table.workflows ++ [StoredWorkflow.row ⟨d, now⟩] } : Table) =
        table { m with workflows := m.workflows.put d.id ⟨d, now⟩ }
      rw [table, table, hput, Assoc.rows_append]
      rfl
    · rcases Assoc.mem_put hentry with rfl | hentry
      · rfl
      · exact h.workflows entry hentry
    · show ((m.workflows.put d.id ⟨d, now⟩).map (·.2.createdAt) ++ [now]).Pairwise (· ≤ ·)
      rw [hput, List.map_append, List.pairwise_append]
      refine ⟨h.order, List.pairwise_singleton _ _, fun a ha b hb => ?_⟩
      rw [List.mem_singleton.1 hb]
      rcases List.mem_append.1 ha with ha | ha
      · exact (List.pairwise_append.1 h.order).2.2 a ha now (List.mem_singleton_self _)
      · exact (List.mem_singleton.1 ha).le

/-! What is read -/

theorem mapM_ok {α β : Type} {read : β → Except Failure α} {row : α → β} {items : List α}
    (h : ∀ a ∈ items, read (row a) = .ok a) : (items.map row).mapM read = .ok items := by
  induction items with
  | nil => rfl
  | cons first rest ih =>
    rw [List.map_cons, List.mapM_cons, h first (List.mem_cons_self ..),
      ih fun a ha => h a (List.mem_cons_of_mem _ ha)]
    rfl

theorem mirrored_findExecution (h : m.Filed issued now) (hplain : m.isPlain = true) (id : String) :
    Mirrored issued now m (findExecution id m) (Table.findExecution id m.table) := by
  rw [findExecution_eq, Table.findExecution_eq, lookup, Table.lookup, execution?_table h]
  cases hfound : m.executions.get? id with
  | none => exact .look h
  | some e =>
    have he := plain_execution hplain hfound
    have hmine (r : StepRecord) (hr : r ∈ m.stepsOf id) : r.row.read = .ok r ∧ r.copyable = true := by
      obtain ⟨entry, hentry, rfl⟩ := List.mem_map.1 (List.mem_filter.1 hr).1
      have hr : entry.2.isPlain = true := by
        rw [isPlain, Bool.and_eq_true, Bool.and_eq_true] at hplain
        exact List.all_eq_true.1 hplain.1.2 _ hentry
      exact ⟨StepRecord.read_row (h.known entry hentry) hr, (Bool.and_eq_true _ _ ▸ hr).1⟩
    have hrows : m.table.steps.filter (·.execution = id) = (m.stepsOf id).map StepRecord.row := by
      show (m.steps.rows StepRecord.row).filter (·.execution = id) = _
      rw [stepsOf, Assoc.rows_eq, List.filter_map]
      rfl
    have hcopyable : (e.copyable && (m.stepsOf id).all (·.copyable)) = true := by
      rw [Bool.and_eq_true, List.all_eq_true]
      exact ⟨(Bool.and_eq_true _ _ ▸ he).1, fun r hr => (hmine r hr).2⟩
    have hread := (h.regular _ (Assoc.mem_of_get?_eq_some hfound)).read he (m.stepsOf id)
    rw [Option.map_some]
    dsimp only
    rw [if_pos hcopyable, hrows, mapM_ok fun r hr => (hmine r hr).1]
    show Mirrored issued now m _ ((e.row.read (m.stepsOf id)).map some, m.table)
    rw [hread]
    exact .look h

theorem mirrored_listExecutions (h : m.Filed issued now) (hplain : m.isPlain = true) :
    Mirrored issued now m (listExecutions m) (Table.listExecutions m.table) := by
  have hplain' : ∀ e ∈ m.executions.map Prod.snd, e.isPlain = true ∧ e.Regular := by
    intro e he
    obtain ⟨entry, hentry, rfl⟩ := List.mem_map.1 he
    rw [isPlain, Bool.and_eq_true, Bool.and_eq_true] at hplain
    exact ⟨List.all_eq_true.1 hplain.1.1 _ hentry, h.regular entry hentry⟩
  have hcopyable : (m.executions.map Prod.snd).all (·.copyable) = true :=
    List.all_eq_true.2 fun e he => (Bool.and_eq_true _ _ ▸ (hplain' e he).1).1
  have hrows : m.table.executions.mergeSort (fun a b => decide (b.createdAt ≤ a.createdAt)) =
      ((m.executions.map Prod.snd).mergeSort fun a b => decide (b.createdAt ≤ a.createdAt)).map Execution.row := by
    show (m.executions.rows Execution.row).mergeSort _ = _
    rw [Assoc.rows_eq, ← List.map_mergeSort]
    exact fun a _ b _ => rfl
  have hread : ((m.table.executions.mergeSort fun a b => decide (b.createdAt ≤ a.createdAt)).mapM
      fun row => row.read []) =
      .ok ((m.executions.map Prod.snd).mergeSort fun a b => decide (b.createdAt ≤ a.createdAt)) := by
    rw [hrows]
    refine mapM_ok fun e he => ?_
    obtain ⟨he, hregular⟩ := hplain' e (List.mem_mergeSort.1 he)
    rw [hregular.read he, ← hregular.bare]
  rw [listExecutions_eq, Table.listExecutions_eq, if_pos hcopyable, hread]
  exact .look h

theorem mirrored_findWorkflow (h : m.Filed issued now) (hplain : m.isPlain = true) (id : String) :
    Mirrored issued now m (findWorkflow id m) (Table.findWorkflow id m.table) := by
  show Mirrored issued now m (.ok (m.workflows.get? id), m) _
  rw [Table.findWorkflow_eq, workflow?_table h]
  cases hfound : m.workflows.get? id with
  | none => exact .look h
  | some s =>
    rw [Option.map_some]
    dsimp only
    rw [StoredWorkflow.read_row (plain_workflow hplain hfound)]
    exact .look h

theorem mirrored_listWorkflows (h : m.Filed issued now) (hplain : m.isPlain = true) :
    Mirrored issued now m (listWorkflows m) (Table.listWorkflows m.table) := by
  have hsorted : m.table.workflows.mergeSort (fun a b => decide (a.createdAt ≤ b.createdAt)) = m.table.workflows := by
    refine List.mergeSort_of_pairwise ?_
    have horder := (List.pairwise_append.1 h.order).1
    show (m.workflows.rows StoredWorkflow.row).Pairwise _
    rw [Assoc.rows, List.pairwise_map]
    rw [List.pairwise_map] at horder
    exact horder.imp fun h => decide_eq_true h
  have hread : m.table.workflows.mapM WorkflowRow.read = .ok (m.workflows.map Prod.snd) := by
    show (m.workflows.rows StoredWorkflow.row).mapM WorkflowRow.read = _
    rw [Assoc.rows_eq]
    refine mapM_ok fun s hs => ?_
    obtain ⟨entry, hentry, rfl⟩ := List.mem_map.1 hs
    rw [isPlain, Bool.and_eq_true, Bool.and_eq_true] at hplain
    exact StoredWorkflow.read_row (List.all_eq_true.1 hplain.2 _ hentry)
  rw [Table.listWorkflows_eq, hsorted, hread]
  exact .look h

end Memory

end Conductor
