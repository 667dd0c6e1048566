import Conductor.Proofs.Act
import Conductor.Proofs.Except
import Conductor.Store

/-! What each operation of a store comes to: its answer, and the store that it leaves. Nothing else looks inside the
operations. -/

namespace Conductor

namespace Memory

variable (m : Memory) (id : String)

theorem updateExecution_eq (p : ExecutionPatch) (expected : Option (List RunStatus)) :
    updateExecution id p expected m = match m.executions.get? id with
      | none => (.error (.noExecution id), m)
      | some e =>
        if expected.all (e.status ∈ ·) then
          if e.copyable then
            (if (p.apply e).copyable then .ok (some (p.apply e)) else .error .notCopyable,
              { m with executions := m.executions.put id (p.apply e) })
          else (.error .notCopyable, m)
        else (.ok none, m) := by
  simp only [updateExecution, Act.bind_apply, Act.get_apply, Act.andThen_ok]
  cases m.executions.get? id with
  | none => rfl
  | some e =>
    dsimp only
    cases expected.all (e.status ∈ ·) with
    | false => rfl
    | true => cases e.copyable <;> cases (p.apply e).copyable <;> rfl

theorem createStep_eq (execution step : String) :
    createStep id execution step m =
      if m.executions.has execution then
        (.ok { id, execution, step }, { m with steps := m.steps.put id { id, execution, step } })
      else (.error (.noExecution execution), m) := by
  simp only [createStep, Act.bind_apply, Act.get_apply, Act.andThen_ok]
  cases m.executions.has execution <;> rfl

theorem updateStep_eq (p : StepPatch) :
    updateStep id p m = match m.steps.get? id with
      | none => (.error (.noRecord id), m)
      | some r =>
        if r.copyable then
          (if (p.apply r).copyable then .ok (p.apply r) else .error .notCopyable,
            { m with steps := m.steps.put id (p.apply r) })
        else (.error .notCopyable, m) := by
  simp only [updateStep, Act.bind_apply, Act.get_apply, Act.andThen_ok]
  cases m.steps.get? id with
  | none => rfl
  | some r =>
    dsimp only
    cases r.copyable <;> cases (p.apply r).copyable <;> rfl

/-- A run with its records, if all of it can be copied. -/
def lookup (id : String) : Except Failure (Option Execution) :=
  match m.executions.get? id with
  | none => .ok none
  | some e =>
    if e.copyable && (m.stepsOf id).all (·.copyable) then .ok (some { e with steps := m.stepsOf id })
    else .error .notCopyable

theorem findExecution_eq : findExecution id m = (m.lookup id, m) := by
  simp only [findExecution, Act.bind_apply, Act.get_apply, Act.andThen_ok, lookup]
  cases m.executions.get? id with
  | none => rfl
  | some e =>
    dsimp only
    cases e.copyable && (m.stepsOf id).all (·.copyable) <;> rfl

theorem lookup_eq_none {m : Memory} {id : String} : m.lookup id = .ok none ↔ m.executions.get? id = none := by
  rw [lookup]
  cases m.executions.get? id with
  | none => exact ⟨fun _ => rfl, fun _ => rfl⟩
  | some e =>
    dsimp only
    split_ifs <;> exact ⟨nofun, nofun⟩

theorem lookup_eq_some {m : Memory} {id : String} {e : Execution} (h : m.lookup id = .ok (some e)) :
    ∃ x, m.executions.get? id = some x ∧ x.copyable = true ∧ e = { x with steps := m.stepsOf id } := by
  rw [lookup] at h
  cases hx : m.executions.get? id with
  | none =>
    rw [hx] at h
    cases h
  | some x =>
    rw [hx] at h
    dsimp only at h
    split_ifs at h with hcopy
    cases h
    exact ⟨x, rfl, (Bool.and_eq_true_iff.1 hcopy).1, rfl⟩

theorem listExecutions_eq :
    listExecutions m =
      (if (m.executions.map Prod.snd).all (·.copyable) then
        .ok ((m.executions.map Prod.snd).mergeSort fun a b => decide (b.createdAt ≤ a.createdAt))
      else .error .notCopyable, m) := by
  simp only [listExecutions, Act.bind_apply, Act.get_apply, Act.andThen_ok]
  cases (m.executions.map Prod.snd).all (·.copyable) <;> rfl

theorem createWorkflow_eq (d : Definition) (now : Time) :
    createWorkflow d now m =
      if m.workflows.has d.id then (.error (.workflowStored d.id), m)
      else (.ok ⟨d, now⟩, { m with workflows := m.workflows.put d.id ⟨d, now⟩ }) := by
  simp only [createWorkflow, Act.bind_apply, Act.get_apply, Act.andThen_ok]
  cases m.workflows.has d.id <;> rfl

end Memory

namespace Table

variable (t : Table) (id : String)

theorem updateExecution_eq (p : ExecutionPatch) (expected : Option (List RunStatus)) :
    updateExecution id p expected t = match p.columns with
      | .error f => (.error f, t)
      | .ok columns => match t.execution? id with
        | none => (.error (.noExecution id), t)
        | some row =>
          if p.isEmpty then ((row.read []).map some, t)
          else if expected.all (row.status ∈ ·) then
            match p.write columns row with
            | .error f => (.error f, t)
            | .ok new => ((new.read []).map some, t.putExecution new)
          else (.ok none, t) := by
  simp only [updateExecution, Act.bind_apply, Act.of_apply]
  cases p.columns with
  | error f => rfl
  | ok columns =>
    simp only [Act.andThen_ok, Act.bind_apply, Act.get_apply]
    cases t.execution? id with
    | none => rfl
    | some row =>
      dsimp only
      split_ifs with hempty hasked
      · rw [Act.bind_apply, Act.of_apply]
        cases row.read [] <;> rfl
      · simp only [Act.bind_apply, Act.of_apply]
        cases p.write columns row with
        | error f => rfl
        | ok new =>
          simp only [Act.andThen_ok, Act.bind_apply, Act.modify_apply, Act.of_apply]
          cases new.read [] <;> rfl
      · rfl

theorem updateStep_eq (p : StepPatch) :
    updateStep id p t = match p.columns with
      | .error f => (.error f, t)
      | .ok columns => match t.step? id with
        | none => (.error (.noRecord id), t)
        | some row => match p.write columns row with
          | .error f => (.error f, t)
          | .ok new => (new.read, t.putStep new) := by
  simp only [updateStep, Act.bind_apply, Act.of_apply]
  cases p.columns with
  | error f => rfl
  | ok columns =>
    simp only [Act.andThen_ok, Act.bind_apply, Act.get_apply]
    cases t.step? id with
    | none => rfl
    | some row =>
      simp only [Act.bind_apply, Act.of_apply]
      cases p.write columns row with
      | error f => rfl
      | ok new => simp only [Act.andThen_ok, Act.bind_apply, Act.modify_apply, Act.of_apply]

/-- A run with its records, as far as its rows can be read. -/
def lookup (id : String) : Except Failure (Option Execution) :=
  match t.execution? id with
  | none => .ok none
  | some row => do
    let steps ← (t.steps.filter (·.execution = id)).mapM StepRow.read
    (row.read steps).map some

theorem findExecution_eq : findExecution id t = (t.lookup id, t) := by
  simp only [findExecution, Act.bind_apply, Act.get_apply, Act.andThen_ok, lookup]
  cases t.execution? id with
  | none => rfl
  | some row =>
    simp only [Act.bind_apply, Act.of_apply]
    cases (t.steps.filter (·.execution = id)).mapM StepRow.read with
    | error f => rfl
    | ok steps =>
      simp only [Act.andThen_ok, Act.bind_apply, Act.of_apply]
      show _ = ((row.read steps).map some, t)
      cases row.read steps <;> rfl

theorem lookup_eq_none {t : Table} {id : String} : t.lookup id = .ok none ↔ t.execution? id = none := by
  rw [lookup]
  cases t.execution? id with
  | none => exact ⟨fun _ => rfl, fun _ => rfl⟩
  | some row =>
    refine ⟨fun h => ?_, nofun⟩
    obtain ⟨steps, -, h⟩ := bind_eq_ok h
    obtain ⟨e, -, h⟩ := map_eq_ok h
    cases h

theorem lookup_eq_some {t : Table} {id : String} {e : Execution} (h : t.lookup id = .ok (some e)) :
    ∃ row steps, t.execution? id = some row ∧ (t.steps.filter (·.execution = id)).mapM StepRow.read = .ok steps ∧
      row.read steps = .ok e := by
  rw [lookup] at h
  cases hrow : t.execution? id with
  | none =>
    rw [hrow] at h
    cases h
  | some row =>
    rw [hrow] at h
    obtain ⟨steps, hsteps, h⟩ := bind_eq_ok h
    obtain ⟨x, hx, h⟩ := map_eq_ok h
    cases h
    exact ⟨row, steps, rfl, hsteps, hx⟩

theorem exists_lookup_eq_error {t : Table} {id : String} {row : ExecutionRow} (hfound : t.execution? id = some row)
    (h : ∀ steps e, (t.steps.filter (·.execution = id)).mapM StepRow.read = .ok steps → row.read steps ≠ .ok e) :
    ∃ f, t.lookup id = .error f := by
  cases hlook : t.lookup id with
  | error f => exact ⟨f, rfl⟩
  | ok found =>
    cases found with
    | none =>
      rw [lookup_eq_none, hfound] at hlook
      cases hlook
    | some e =>
      obtain ⟨row', steps, hrow, hsteps, hread⟩ := lookup_eq_some hlook
      rw [hfound] at hrow
      cases hrow
      exact absurd hread (h steps e hsteps)

theorem listExecutions_eq :
    listExecutions t =
      ((t.executions.mergeSort fun a b => decide (b.createdAt ≤ a.createdAt)).mapM fun row => row.read [], t) := by
  simp only [listExecutions, Act.bind_apply, Act.get_apply, Act.andThen_ok, Act.of_apply]

theorem createWorkflow_eq (d : Definition) (now : Time) :
    createWorkflow d now t =
      if (t.workflow? d.id).isSome then (.error (.workflowStored d.id), t)
      else (.ok ⟨d, now⟩, { t with workflows := t.workflows ++ [.ofDefinition d now] }) := by
  simp only [createWorkflow, Act.bind_apply, Act.get_apply, Act.andThen_ok]
  cases (t.workflow? d.id).isSome <;> rfl

theorem findWorkflow_eq :
    findWorkflow id t = (match t.workflow? id with
      | none => .ok none
      | some row => row.read.map some, t) := by
  simp only [findWorkflow, Act.bind_apply, Act.get_apply, Act.andThen_ok]
  cases t.workflow? id with
  | none => rfl
  | some row =>
    simp only [Act.bind_apply, Act.of_apply]
    cases row.read <;> rfl

theorem listWorkflows_eq :
    listWorkflows t =
      ((t.workflows.mergeSort fun a b => decide (a.createdAt ≤ b.createdAt)).mapM WorkflowRow.read, t) := by
  simp only [listWorkflows, Act.bind_apply, Act.get_apply, Act.andThen_ok, Act.of_apply]

end Table

namespace Store

variable {α : Type} (onMemory : Act Memory α) (onTable : Act Table α)

theorem run_memory (m : Memory) :
    run onMemory onTable (.memory m) = ((onMemory m).1, .memory (onMemory m).2) := rfl

theorem run_table (t : Table) : run onMemory onTable (.table t) = ((onTable t).1, .table (onTable t).2) := rfl

end Store

end Conductor
