import Conductor.Agent.Script
import Conductor.Config
import Conductor.Context
import Conductor.Ledger
import Conductor.Store

/-! Everything that operations change: the store, the clock, the ids given out, the calls made. Requests to the
store are counted by kind, and a setting may say that some of them fail, or that others cancel runs between
them. What the store was like before, what happened to steps and how requests failed is kept as well. -/

namespace Conductor

inductive Method where
  | createExecution
  | updateExecution
  | createStep
  | updateStep
  | findExecution
  | listExecutions
  | createWorkflow
  | findWorkflow
  | listWorkflows
  deriving DecidableEq, Repr

/-- Where the work on a step can be made to wait: before each of its requests, before its agent is called, and before
the answer of the agent is taken up. -/
inductive Moment where
  | create
  | start
  | call
  | answer
  | finish
  deriving DecidableEq, Repr

/-- A request fails instead of running; or a run is cancelled as soon as it is created. -/
inductive Fault where
  | raise (e : Raised)
  | cancel
  deriving DecidableEq, Repr

/-- What stays the same while operations run. Faults go by the kind of a request and its number among the
requests of that kind, counted from one. Arrivals are the runs that others cancel just before a request or a
call, by the number of requests and calls made so far. Pauses are the rounds for which the work on a branch waits, by
that number as well, by the account of the branch, by the step and by the moment. -/
structure Setting where
  agents : Registry Script
  faults : Method → Nat → Option Fault := fun _ _ => none
  config : Config := {}
  arrivals : Nat → List String := fun _ => []
  pauses : Nat → Account → String → Moment → Nat := fun _ _ _ _ => 0

/-- What happens to a step of a run: it is started, with what it may read and the store as it stands then, or
it fails, for a cause of its own or for one that names a step that it holds. -/
inductive Event where
  | started (execution step : String) (context : Context) (store : Store)
  | failed (execution step : String) (cause : Failure)

/-- How a call of an agent ended, by the number of the call among all that were made before. -/
structure CallEnd where
  number : Nat
  outcome : Except Failure (Json × Bool)

structure World where
  store : Store := .memory {}
  /-- What the store was before each request that reached it, the latest first. -/
  past : List Store := []
  /-- The latest event first. -/
  journal : List Event := []
  /-- The milliseconds that have passed. -/
  clock : Int := 0
  /-- How many records have been given an id. -/
  issued : Nat := 0
  /-- How many definitions have been given an id. -/
  named : Nat := 0
  requests : List Method := []
  calls : List Call := []
  /-- How calls ended, in the order in which their answers were taken up. -/
  answers : List CallEnd := []
  /-- How requests failed, and the exits that calls raised, the latest failure first. What others do is not among
  them. -/
  refusals : List Failure := []

namespace World

variable {α : Type}

/-- How many requests and calls have been made. -/
def turns (w : World) : Nat := w.requests.length + w.calls.length

def onStore (action : Act Store α) : Act World α := fun w =>
  let (result, store) := action w.store
  (result, { w with store, past := w.store :: w.past })

def note (event : Event) : Act World Unit := modify fun w => { w with journal := event :: w.journal }

def now : Act World Time := return .ofMillis (← get).clock

def cancelPatch (now : Time) : ExecutionPatch :=
  { status := some .cancelled, completedAt := some (some now) }

/-- Cancels a run for others, to whom alone it matters whether that fails. -/
def cancelAside (id : String) : Act World Unit := do
  let patch := cancelPatch (← now)
  discard (Failure.outcome (onStore (Store.updateExecution id patch (some RunStatus.active))))

/-- Lets others have their turn. -/
def arrive (env : Setting) : Act World Unit := do
  (env.arrivals (← get).turns).forM cancelAside

def nextId (w : World) : String :=
  let n := w.issued + 1
  s!"id-{n}"

/-- Counts a request and fails if it is to fail; gives the fault that is left to the request itself. -/
def request (env : Setting) (method : Method) : Act World (Option Fault) := do
  arrive env
  modify fun w => { w with requests := method :: w.requests }
  let fault := env.faults method ((← get).requests.count method)
  match fault with
  | some (.raise e) => throw (.raised e)
  | other => return other

/-- Keeps how an operation fails. -/
def reporting (action : Act World α) : Act World α :=
  tryCatch action fun f => do
    modify fun w => { w with refusals := f :: w.refusals }
    throw f

/-- An operation that gives its record an id uses the next one up only when it succeeds. -/
def issuing (action : String → Act World α) : Act World α := do
  let result ← action (← get).nextId
  modify fun w => { w with issued := w.issued + 1 }
  return result

def createExecution (env : Setting) (workflow : String) (input : Json) : Act World Execution := reporting do
  let fault ← request env .createExecution
  let e ← issuing fun id => do
    onStore (Store.createExecution id workflow input (← now))
  if fault = some .cancel then
    discard (onStore (Store.updateExecution e.id { status := some .cancelled } none))
  return e

def updateExecution (env : Setting) (id : String) (patch : Except Failure ExecutionPatch)
    (expected : Option (List RunStatus)) : Act World (Option Execution) := reporting do
  discard (request env .updateExecution)
  onStore (Store.updateExecution id (← Failure.of patch) expected)

def createStep (env : Setting) (execution step : String) : Act World StepRecord := reporting do
  discard (request env .createStep)
  issuing fun id => onStore (Store.createStep id execution step)

def updateStep (env : Setting) (id : String) (patch : Except Failure StepPatch) :
    Act World StepRecord := reporting do
  discard (request env .updateStep)
  onStore (Store.updateStep id (← Failure.of patch))

def findExecution (env : Setting) (id : String) : Act World (Option Execution) := reporting do
  discard (request env .findExecution)
  onStore (Store.findExecution id)

def listExecutions (env : Setting) : Act World (List Execution) := reporting do
  discard (request env .listExecutions)
  onStore Store.listExecutions

def createWorkflow (env : Setting) (d : Definition) : Act World StoredWorkflow := reporting do
  discard (request env .createWorkflow)
  onStore (Store.createWorkflow d (← now))

def findWorkflow (env : Setting) (id : String) : Act World (Option StoredWorkflow) := reporting do
  discard (request env .findWorkflow)
  onStore (Store.findWorkflow id)

def listWorkflows (env : Setting) : Act World (List StoredWorkflow) := reporting do
  discard (request env .listWorkflows)
  onStore Store.listWorkflows

def getExecution (env : Setting) (id : String) : Act World Execution := do
  match ← findExecution env id with
  | some e => return e
  | none => throw (.noExecution id)

/-- Cancels a run that has not ended; the status is asked and written in one update. -/
def cancel (env : Setting) (id : String) : Act World Execution := do
  let patch := cancelPatch (← now)
  match ← updateExecution env id (.ok patch) (some RunStatus.active) with
  | some _ => getExecution env id
  | none => throw (.notCancellable (← getExecution env id).status)

/-- Raises what a call ends with. -/
def fail (e : Raised) : Act World α :=
  if e.exit then reporting (throw (.raised e)) else throw (.raised e)

/-- Calls an operation of an agent, and tells whether it hands back its payload. A call that cancels a run
fails when the run cannot be cancelled. -/
def invoke (env : Setting) (agent operation : String) (script : Script) (payload : Json) :
    Act World (Json × Bool) := do
  arrive env
  let earlier := (← get).calls.countP fun call => call.agent = agent && call.operation = operation
  let behaviour := script earlier payload
  modify fun w => { w with
    calls := w.calls ++ [⟨agent, operation, payload⟩]
    clock := w.clock + behaviour.advance }
  if let some id := behaviour.cancels then
    discard (cancel env id)
  match behaviour.outcome with
  | .fails e => fail e
  | .replies envelope => return (envelope, behaviour.echoes)

/-- Takes up how a call has ended, and fails if the call did. -/
def takeUp (answer : CallEnd) : Act World (Json × Bool) := do
  modify fun w => { w with answers := w.answers ++ [answer] }
  Failure.of answer.outcome

end World

end Conductor
