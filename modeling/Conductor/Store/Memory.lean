import Conductor.Store.Patch

/-! A store of records as they are. What is read is a copy, so a record that cannot be copied cannot be read or
updated again; the update that made it so has written it nevertheless. -/

namespace Conductor

structure Memory where
  executions : Assoc Execution := []
  steps : Assoc StepRecord := []
  workflows : Assoc StoredWorkflow := []

namespace Memory

def createExecution (id workflow : String) (input : Json) (now : Time) : Act Memory Execution := do
  let e : Execution := { id, workflow, input, createdAt := now }
  modify fun m => { m with executions := m.executions.put id e }
  return e

/-- Writes a patch as long as the stored status is an expected one. -/
def updateExecution (id : String) (patch : ExecutionPatch) (expected : Option (List RunStatus)) :
    Act Memory (Option Execution) := do
  match (← get).executions.get? id with
  | none => throw (.noExecution id)
  | some e =>
    if expected.all (e.status ∈ ·) then
      if !e.copyable then throw .notCopyable
      let updated := patch.apply e
      modify fun m => { m with executions := m.executions.put id updated }
      if !updated.copyable then throw .notCopyable
      return some updated
    else return none

def createStep (id execution step : String) : Act Memory StepRecord := do
  if !(← get).executions.has execution then throw (.noExecution execution)
  let r : StepRecord := { id, execution, step }
  modify fun m => { m with steps := m.steps.put id r }
  return r

def updateStep (id : String) (patch : StepPatch) : Act Memory StepRecord := do
  match (← get).steps.get? id with
  | none => throw (.noRecord id)
  | some r =>
    if !r.copyable then throw .notCopyable
    let updated := patch.apply r
    modify fun m => { m with steps := m.steps.put id updated }
    if !updated.copyable then throw .notCopyable
    return updated

/-- The records of a run, in the order in which they were made. -/
def stepsOf (m : Memory) (execution : String) : List StepRecord :=
  (m.steps.map Prod.snd).filter (·.execution = execution)

def findExecution (id : String) : Act Memory (Option Execution) := do
  let m ← get
  match m.executions.get? id with
  | none => return none
  | some e =>
    let steps := m.stepsOf id
    if !(e.copyable && steps.all (·.copyable)) then throw .notCopyable
    return some { e with steps }

/-- Newest first; runs of the same time in the order in which they were made. -/
def listExecutions : Act Memory (List Execution) := do
  let found := (← get).executions.map Prod.snd
  if !found.all (·.copyable) then throw .notCopyable
  return found.mergeSort fun a b => decide (b.createdAt ≤ a.createdAt)

def createWorkflow (d : Definition) (now : Time) : Act Memory StoredWorkflow := do
  if (← get).workflows.has d.id then throw (.workflowStored d.id)
  let stored : StoredWorkflow := ⟨d, now⟩
  modify fun m => { m with workflows := m.workflows.put d.id stored }
  return stored

def findWorkflow (id : String) : Act Memory (Option StoredWorkflow) := do
  return (← get).workflows.get? id

def listWorkflows : Act Memory (List StoredWorkflow) := do
  return (← get).workflows.map Prod.snd

end Memory

end Conductor
