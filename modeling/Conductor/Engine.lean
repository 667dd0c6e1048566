import Conductor.Estimate
import Conductor.Run

/-! The engine: running workflows, following and cancelling runs, adding workflows. A run whose steps fail is
not an error of the engine; it comes back with the status `failed`. -/

namespace Conductor

/-- How far a run has come. -/
structure Progress where
  execution : String
  status : RunStatus
  steps : List StepRecord
  completedSteps : Nat
  totalSteps : Nat
  startedAt : Option Time
  completedAt : Option Time
  elapsed : Int
  cost : Float

structure Summary where
  id : String
  name : String
  description : Option String
  agents : List String

def Definition.summary (d : Definition) : Summary := ⟨d.id, d.name, d.description, d.agents⟩

structure Listing where
  predefined : List Summary
  custom : List Summary

namespace Engine

variable (env : Setting)

def requireProject (input : Json) : Act World Unit :=
  match input.field? "projectId" with
  | some project => if project.truthy then return else throw .noProject
  | none => throw .noProject

/-- A workflow that comes with the library, or one that was added. -/
def findDefinition (id : String) : Act World Definition := do
  match Catalog.workflow? id with
  | some d => return d
  | none =>
    match ← World.findWorkflow env id with
    | some stored => return stored.definition
    | none => throw (.unknownWorkflow id)

/-- Reads a definition; one without an id takes the next one. -/
def readDefinition (doc : Json) : Act World Definition := do
  if Definition.needsId doc then
    modify fun w => { w with named := w.named + 1 }
  let n := (← get).named
  Failure.ofExcept .ofDefect (Validation.parse s!"wf-{n}" doc)

/-- Runs the top-level steps in turn. A run that was cancelled stops before its next step. -/
def runSteps (execution : String) : List Step → Flow Unit
  | [] => return
  | step :: rest => do
    let current ← Run.onWorld (World.findExecution env execution)
    if current.any (·.status = .cancelled) then return
    discard (Run.step env execution [] step)
    runSteps execution rest

/-- What a run leaves on its record in any case. -/
def results (context : Context) (total : Float) : ExecutionPatch :=
  { output := some (context.snapshot (.ofEntries context.flatten.outputs)), cost := some (.real total) }

/-- Ends a run that is still running; one that was cancelled meanwhile only gets its results. -/
def conclude (id : String) (status : RunStatus) (error : Option String) (results : ExecutionPatch) :
    Act World Execution := do
  let now ← World.now
  let ended := { results with
    status := some status, completedAt := some (some now), error := error.map .str }
  let updated ← World.updateExecution env id (.ok ended) (some [.running])
  if updated.isNone then
    discard (World.updateExecution env id (.ok results) none)
  World.getExecution env id

def finish (id : String) (status : RunStatus) (error : Option String) : Flow Execution := do
  let results := results (← get) (← Run.spent [])
  Run.onWorld (conclude env id status error results)

/-- Marks a run as running, unless it was cancelled before. -/
def start (id : String) : Act World Bool := do
  let now ← World.now
  let started ← World.updateExecution env id
    (.ok { status := some .running, startedAt := some (some now) }) (some [.pending])
  return started.isSome

/-- Starts a run, runs its steps and ends it. A failed step ends it with the message of the step. -/
def drive (d : Definition) (id : String) : Flow Execution := do
  if ← Run.onWorld (start env id) then
    match ← Failure.outcome (runSteps env id d.steps) with
    | .ok _ => finish env id .completed none
    | .error f => if f.isOfStep then finish env id .failed (some f.message) else throw f
  else finish env id .completed none

/-- Marks a run that broke off as failed, unless it has ended; that this fails too is passed over, unless it does so
with an exit. -/
def abort (id : String) (f : Failure) : Act World Unit := do
  let now ← World.now
  let patch : ExecutionPatch := {
    status := some .failed, error := some (.str f.message), completedAt := some (some now) }
  Failure.handling (discard (World.updateExecution env id (.ok patch) (some RunStatus.active))) fun _ => return

def run (d : Definition) (input : Json) : Act World Execution := do
  let e ← World.createExecution env d.id input
  let driven : Act World Execution := fun w =>
    let ((result, _), s) := ((drive env d e.id).run { input }).run ⟨w, .empty⟩
    (result, s.world)
  Failure.handling driven fun f => do
    abort env e.id f
    throw f

/-- Runs a workflow by its id. -/
def execute (workflow : String) (input : Json) : Act World Execution := do
  requireProject input
  run env (← findDefinition env workflow) input

/-- Runs a definition once, without checking or storing it. -/
def executeCustom (doc : Json) (input : Json) : Act World Execution := do
  requireProject input
  run env (← readDefinition doc) input

/-- The same for a definition that has been read before. -/
def executeModel (d : Definition) (input : Json) : Act World Execution := do
  requireProject input
  run env d input

/-- The milliseconds since a start, worked out in seconds first. -/
def elapsedSince (start now : Time) : Int :=
  max 0 (Number.truncate (Float.ofInt (now - start) / 1000000.0 * 1000.0))

open Reading in
def progressReading (e : Execution) (now : Time) : Reading Progress :=
  let status : Reading RunStatus :=
    if e.status.isKnown then done e.status else refused [⟨["status"], .notListed⟩]
  (fun status cost =>
    { execution := e.id, status
      steps := e.steps
      completedSteps := e.steps.countP (·.status = .completed)
      totalSteps := e.steps.length
      startedAt := e.startedAt
      completedAt := e.completedAt
      elapsed := (e.startedAt.map fun start => elapsedSince start now).getD 0
      cost })
    <$> status <*> (real e.cost).below "total_cost_usd"

def progressOf (e : Execution) (now : Time) : Except Failure Progress :=
  (progressReading e now).toExcept.mapError (.malformed "WorkflowStatus")

def status (id : String) : Act World Progress := do
  let e ← World.getExecution env id
  Failure.of (progressOf e (← World.now))

def cancel (id : String) : Act World Execution := World.cancel env id

/-- Adds a workflow whose id is not taken. -/
def store (d : Definition) : Act World StoredWorkflow := do
  if (Catalog.workflow? d.id).isSome then throw (.workflowTaken d.id)
  if (← World.findWorkflow env d.id).isSome then throw (.workflowTaken d.id)
  World.createWorkflow env d

/-- Reads a document, checks it and adds the workflow. -/
def createCustom (doc : Json) : Act World StoredWorkflow := do
  Failure.ofExcept .ofDefect (Validation.checkDocument doc)
  let d ← readDefinition doc
  Failure.ofExcept .ofDefect (Validation.check env.agents d)
  store env d

/-- The same for a definition that has been read before. -/
def createModel (d : Definition) : Act World StoredWorkflow := do
  Failure.ofExcept .ofDefect (Validation.check env.agents d)
  store env d

def listWorkflows : Act World Listing := do
  let custom ← World.listWorkflows env
  return ⟨Catalog.workflows.map Definition.summary, custom.map (·.definition.summary)⟩

def estimate (workflow : String) (input : Json) : Act World Estimate := do
  let d ← findDefinition env workflow
  Failure.ofExcept .expression (Estimate.ofDefinition env.config d input)

end Engine

end Conductor
