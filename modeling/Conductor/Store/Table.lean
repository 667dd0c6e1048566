import Conductor.Store.Patch
import Conductor.Text.Numeral
import Conductor.Workflow.Writer

/-! A store of rows: documents in the columns `input`, `output` and `steps`, doubles in the cost columns, text
in all others. A value that fits no column is refused before a row is looked for, a missing one where a row
would lose it. A row is checked when it is read, not when it is written, and an update without fields asks no
status. -/

namespace Conductor

structure ExecutionRow where
  id : String
  workflow : String
  status : RunStatus
  input : Json
  output : Json
  createdAt : Time
  startedAt : Option Time
  completedAt : Option Time
  error : Json
  cost : Json
  deriving Inhabited

structure StepRow where
  id : String
  execution : String
  step : String
  status : StepStatus
  output : Json
  error : Json
  cost : Json
  startedAt : Option Time
  completedAt : Option Time
  deriving Inhabited

structure WorkflowRow where
  id : String
  name : String
  description : Option String
  steps : Json
  createdAt : Time
  deriving Inhabited

/-- Rows in the order in which they were inserted. -/
structure Table where
  executions : List ExecutionRow := []
  steps : List StepRow := []
  workflows : List WorkflowRow := []

open Reading in
def objectColumn (name : String) (doc : Json) : Reading Json :=
  (Json.obj <$> object doc).below name

namespace ExecutionRow

open Reading in
def reading (row : ExecutionRow) (steps : List StepRecord) : Reading Execution :=
  let status : Reading RunStatus :=
    if row.status.isKnown then done row.status else refused [⟨["status"], .notListed⟩]
  (fun status input output cost =>
    { id := row.id, workflow := row.workflow, status, input, output, steps
      createdAt := row.createdAt, startedAt := row.startedAt, completedAt := row.completedAt
      error := row.error, cost := .real cost : Execution })
    <$> status <*> objectColumn "input" row.input <*> objectColumn "output" row.output
    <*> (real row.cost).below "total_cost_usd"

def read (row : ExecutionRow) (steps : List StepRecord) : Except Failure Execution :=
  (row.reading steps).toExcept.mapError (.malformed "WorkflowExecution")

end ExecutionRow

namespace StepRow

open Reading in
def reading (row : StepRow) : Reading StepRecord :=
  let status : Reading StepStatus :=
    if row.status.isKnown then done row.status else refused [⟨["status"], .notListed⟩]
  (fun status cost =>
    { id := row.id, execution := row.execution, step := row.step, status
      output := row.output, error := row.error, cost := .real cost
      startedAt := row.startedAt, completedAt := row.completedAt : StepRecord })
    <$> status <*> (real row.cost).below "cost_usd"

def read (row : StepRow) : Except Failure StepRecord :=
  row.reading.toExcept.mapError (.malformed "StepExecutionRecord")

end StepRow

namespace WorkflowRow

/-- Steps are stored without the doubles that are not finite. -/
def ofDefinition (d : Definition) (now : Time) : WorkflowRow :=
  ⟨d.id, d.name, d.description, Json.finite (.arr (Step.allToJson d.steps)), now⟩

def read (row : WorkflowRow) : Except Failure StoredWorkflow :=
  match (Step.readAll row.steps).below "steps" with
  | .done steps => .ok ⟨⟨row.id, row.name, row.description, steps⟩, row.createdAt⟩
  | .refused problems => .error (.malformed "StoredWorkflow" problems)

end WorkflowRow

/-! Columns -/

/-- A whole number that is stored takes 64 bits with its sign. -/
def fitsColumn (n : Int) : Bool := -9223372036854775808 ≤ n && n ≤ 9223372036854775807

/-- What a cost column makes of a value. A text that spells a number becomes that number, zero loses its sign,
and what is not a number is taken for missing. -/
def costColumn : Json → Except Failure Json
  | .null => .ok .null
  | .bool b => .ok (.real (if b then 1.0 else 0.0))
  | .num (.whole n) => if fitsColumn n then .ok (.real (Float.ofInt n)) else .error .tooLarge
  | .num (.real x) => .ok (if x.isNaN then .null else .real (x + 0.0))
  | .str s =>
    let (negative, body) := splitSign (trimNumeral s)
    match readUnsigned body with
    | some x => .ok (.real (signed negative x + 0.0))
    | none => .ok (.str s)
  | _ => .error .notStorable

/-- What a text column makes of a value. -/
def textColumn : Json → Except Failure Json
  | .null => .ok .null
  | .bool b => .ok (.str (if b then "1" else "0"))
  | .num (.whole n) => if fitsColumn n then .ok (.str (toString n)) else .error .tooLarge
  | .num (.real x) => .ok (if x.isNaN then .null else .str (realText x))
  | .str s => .ok (.str s)
  | _ => .error .notStorable

/-- The columns of a patch that may not fit. -/
structure Columns where
  status : Option Json
  error : Option Json
  cost : Option Json

namespace Columns

def column (read : Json → Except Failure Json) : Option Json → Except Failure (Option Json)
  | some doc => (read doc).map some
  | none => .ok none

def ofFields (status error cost : Option Json) : Except Failure Columns := do
  let status ← column textColumn status
  let error ← column textColumn error
  let cost ← column costColumn cost
  return ⟨status, error, cost⟩

end Columns

namespace ExecutionPatch

def columns (p : ExecutionPatch) : Except Failure Columns :=
  Columns.ofFields (p.status.map RunStatus.toJson) p.error p.cost

/-- A row does without neither status nor cost. -/
def write (p : ExecutionPatch) (columns : Columns) (row : ExecutionRow) : Except Failure ExecutionRow :=
  if columns.status.any Json.isNull then .error (.notNull "executions.status")
  else if columns.cost.any Json.isNull then .error (.notNull "executions.total_cost_usd")
  else .ok { row with
    status := (columns.status.map RunStatus.ofJson).getD row.status
    output := (p.output.map Snapshot.stored).getD row.output
    startedAt := p.startedAt.getD row.startedAt
    completedAt := p.completedAt.getD row.completedAt
    error := columns.error.getD row.error
    cost := columns.cost.getD row.cost }

end ExecutionPatch

namespace StepPatch

def columns (p : StepPatch) : Except Failure Columns :=
  Columns.ofFields (p.status.map StepStatus.toJson) p.error p.cost

/-- A row does without neither status nor cost. -/
def write (p : StepPatch) (columns : Columns) (row : StepRow) : Except Failure StepRow :=
  if columns.status.any Json.isNull then .error (.notNull "step_executions.status")
  else if columns.cost.any Json.isNull then .error (.notNull "step_executions.cost_usd")
  else .ok { row with
    status := (columns.status.map StepStatus.ofJson).getD row.status
    output := (p.output.map Snapshot.stored).getD row.output
    startedAt := p.startedAt.getD row.startedAt
    completedAt := p.completedAt.getD row.completedAt
    error := columns.error.getD row.error
    cost := columns.cost.getD row.cost }

end StepPatch

namespace Table

def execution? (t : Table) (id : String) : Option ExecutionRow := t.executions.find? (·.id = id)

def step? (t : Table) (id : String) : Option StepRow := t.steps.find? (·.id = id)

def workflow? (t : Table) (id : String) : Option WorkflowRow := t.workflows.find? (·.id = id)

def putExecution (t : Table) (row : ExecutionRow) : Table :=
  { t with executions := t.executions.map fun old => if old.id = row.id then row else old }

def putStep (t : Table) (row : StepRow) : Table :=
  { t with steps := t.steps.map fun old => if old.id = row.id then row else old }

def createExecution (id workflow : String) (input : Json) (now : Time) : Act Table Execution := do
  let row : ExecutionRow :=
    ⟨id, workflow, .pending, input, .obj [], now, none, none, .null, .real 0.0⟩
  modify fun t => { t with executions := t.executions ++ [row] }
  return { id, workflow, input, createdAt := now }

def updateExecution (id : String) (patch : ExecutionPatch) (expected : Option (List RunStatus)) :
    Act Table (Option Execution) := do
  let columns ← Failure.of patch.columns
  match (← get).execution? id with
  | none => throw (.noExecution id)
  | some row =>
    if patch.isEmpty then return some (← Failure.of (row.read []))
    else if expected.all (row.status ∈ ·) then
      let updated ← Failure.of (patch.write columns row)
      modify (·.putExecution updated)
      return some (← Failure.of (updated.read []))
    else return none

def createStep (id execution step : String) : Act Table StepRecord := do
  let row : StepRow := ⟨id, execution, step, .pending, .null, .null, .real 0.0, none, none⟩
  modify fun t => { t with steps := t.steps ++ [row] }
  return { id, execution, step }

def updateStep (id : String) (patch : StepPatch) : Act Table StepRecord := do
  let columns ← Failure.of patch.columns
  match (← get).step? id with
  | none => throw (.noRecord id)
  | some row =>
    let updated ← Failure.of (patch.write columns row)
    modify (·.putStep updated)
    Failure.of updated.read

def findExecution (id : String) : Act Table (Option Execution) := do
  let t ← get
  match t.execution? id with
  | none => return none
  | some row =>
    let steps ← Failure.of ((t.steps.filter (·.execution = id)).mapM StepRow.read)
    return some (← Failure.of (row.read steps))

/-- Newest first; runs of the same time in the order of their rows. -/
def listExecutions : Act Table (List Execution) := do
  let rows := (← get).executions.mergeSort fun a b => decide (b.createdAt ≤ a.createdAt)
  Failure.of (rows.mapM fun row => row.read [])

def createWorkflow (d : Definition) (now : Time) : Act Table StoredWorkflow := do
  if ((← get).workflow? d.id).isSome then throw (.workflowStored d.id)
  modify fun t => { t with workflows := t.workflows ++ [.ofDefinition d now] }
  return ⟨d, now⟩

def findWorkflow (id : String) : Act Table (Option StoredWorkflow) := do
  match (← get).workflow? id with
  | none => return none
  | some row => return some (← Failure.of row.read)

def listWorkflows : Act Table (List StoredWorkflow) := do
  let rows := (← get).workflows.mergeSort fun a b => decide (a.createdAt ≤ b.createdAt)
  Failure.of (rows.mapM WorkflowRow.read)

end Table

end Conductor
