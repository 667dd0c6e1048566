import Conductor.Context
import Conductor.Ledger
import Conductor.Process
import Conductor.World

/-! Running steps. Every step that is started gets a record, which is finished whatever happens; a failure is
written to the records of the step and of all that enclose it. The branches of a parallel step are
processes that take turns: each runs on a fork of the context until it waits for branches of its own, for the store
or for an agent, and all of them run to their end. An exit is neither written down nor handled; a parallel step raises
it again once its branches are over. -/

namespace Conductor

/-- What the branches of a run share. -/
structure Stage where
  world : World
  ledger : Ledger

/-- The work on a run: it may fail, writes to a context of its own, and takes turns with other work on what
is shared. -/
abbrev Flow := ExceptT Failure (StateT Context (Process Stage))

structure StepResult where
  output : Output
  cost : Float

/-- A branch that has ended, with what it wrote. -/
structure BranchEnd where
  key : String
  isGate : Bool
  own : Layer
  outcome : Except Failure StepResult

namespace Run

variable {α : Type}

def onStage (action : Act Stage α) : Flow α := ExceptT.mk fun context =>
  Process.ofState fun s =>
    let (result, s) := action s
    ((result, context), s)

def onWorld (action : Act World α) : Flow α := onStage fun s =>
  let (result, world) := action s.world
  (result, { s with world })

/-- Publishes an output. -/
def record (step : String) (output : Output) (key : Option String) : Flow Unit :=
  modify fun context => context.record step output key

def charge (account : Account) (amount : Float) : Flow Unit :=
  onStage (modify fun s => { s with ledger := s.ledger.charge account amount })

def spent (account : Account) : Flow Float := onStage do return (← get).ledger.total account

def view : Flow View := return (← get).view

/-- Notes that a step is started, with what it may read. -/
def noteStart (execution step : String) : Flow Unit := do
  let context ← get
  onWorld do
    let store := (← get).store
    World.note (.started execution step context store)

/-- Failures inside a step name the innermost step. -/
def within (execution step : String) (action : Flow α) : Flow α :=
  Failure.handling action fun f => do
    onWorld (World.note (.failed execution step f))
    throw (f.ofStep step)

variable (env : Setting) (execution : String)

/-- Waits as long as the setting says. -/
def wait (account : Account) (step : String) (moment : Moment) : Flow Unit := do
  let turns ← onWorld do return (← get).turns
  (Process.rest (env.pauses turns account step moment) : Process Stage Unit)

/-- Finishes the record of a step. Only an output that is present is written. -/
def finish (account : Account) (step id : String) (status : StepStatus) (cost : Float) (output : Output)
    (error : Option String) : Flow Unit := do
  wait env account step .finish
  let now ← onWorld World.now
  let snapshot := (← get).snapshot output
  discard (onWorld (World.updateStep env id (.ok {
    status := some status
    completedAt := some (some now)
    cost := some (.real cost)
    output := if output.value.isNull then none else some snapshot
    error := error.map .str })))

/-- Finishes the record of a step by how its body has ended; an exit leaves it as it is. -/
def conclude (account : Account) (step id : String) (before : Float) : Except Failure Output → Flow StepResult
  | .ok output => do
    let cost := (← spent account) - before
    finish env account step id .completed cost output none
    return { output, cost }
  | .error f => if f.isExit then throw f else do
    finish env account step id .failed ((← spent account) - before) Json.null (some f.message)
    throw f

/-- Starts a step that has a record, runs its body and finishes the record. -/
def carryOut (account : Account) (step id : String) (body : Flow Output) : Flow StepResult := do
  wait env account step .start
  let now ← onWorld World.now
  discard (onWorld (World.updateStep env id
    (.ok { status := some .running, startedAt := some (some now) })))
  let before ← spent account
  conclude env account step id before (← Failure.outcome body)

/-- Runs the body of a step between the start and the end of its record. -/
def attempt (account : Account) (step : String) (body : Flow Output) : Flow StepResult := do
  wait env account step .create
  let r ← onWorld (World.createStep env execution step)
  noteStart execution step
  carryOut env account step r.id body

def recorded (account : Account) (step : String) (body : Flow Output) : Flow StepResult :=
  within execution step (attempt env execution account step body)

/-- Records a step that is not run. -/
def skip (account : Account) (step : String) : Flow Unit := do
  wait env account step .create
  let r ← onWorld (World.createStep env execution step)
  wait env account step .finish
  let now ← onWorld World.now
  discard (onWorld (World.updateStep env r.id
    (.ok { status := some .skipped, completedAt := some (some now), cost := some (.real 0.0) })))

def skipAll (account : Account) (steps : List Step) : Flow Unit :=
  (Step.flatAll steps).forM fun step => skip env execution account step.id

/-- Makes a call and tells with what payload, and how the call ended. -/
def call (account : Account) (id agent operation : String) (input : Members) : Flow (Output × CallEnd) := do
  wait env account id .call
  let script ← Failure.ofExcept .lookup (env.agents.get agent operation)
  let payload ← Failure.ofExcept .expression (Template.resolveOutput (← view) input)
  let number ← onWorld do return (← get).calls.length
  let outcome ← Failure.outcome (onWorld (World.invoke env agent operation script payload.value))
  return (payload, ⟨number, outcome⟩)

/-- Takes up the answer to a call when it is there. What the call costs is charged only then. -/
def settle (account : Account) (id key : String) (payload : Output) (answer : CallEnd) : Flow Output := do
  wait env account id .answer
  let (envelope, echoed) ← onWorld (World.takeUp answer)
  let response ← Failure.ofExcept (.malformed "AgentResponse") (Response.read envelope).toExcept
  charge account response.usage.cost
  let output : Output := ⟨response.data, if echoed then payload.tables else []⟩
  record id output (some key)
  return output

/-- Calls an agent, which may take its time to answer. -/
def callAgent (account : Account) (id agent operation : String) (input : Members) (key : String) :
    Flow Output := do
  let (payload, answer) ← call env account id agent operation input
  settle env account id key payload answer

/-- The outputs of those sources that have one, by key. -/
def collect (c : Context) (sources : List String) : Assoc Output :=
  sources.foldl (fun acc source =>
    match c.stepOutput? source with
    | some output => acc.put (c.keyFor source) output
    | none => acc) []

def concatenate (outputs : Assoc Output) : List Output :=
  outputs.flatMap fun entry =>
    match entry.2.value with
    | .arr _ => entry.2.items
    | .null => []
    | _ => [entry.2]

def sum (outputs : Assoc Output) : Except Failure Number :=
  outputs.foldlM (fun acc entry =>
    match entry.2.value with
    | .null => .ok acc
    | .num n =>
      match Number.add? acc n with
      | some total => .ok total
      | none => .error .tooLarge
    | _ => .error (.notNumeric entry.1)) (.whole 0)

def combine (c : Context) (sources : List String) : Combine → Except Failure Output
  | .merge => .ok (.ofEntries (collect c sources))
  | .concat => .ok (.ofItems (concatenate (collect c sources)))
  | .sum => (sum (collect c sources)).map fun total => Json.num total

def aggregate (id : String) (sources : List String) (how : Combine) (key : String) :
    Flow Output := do
  let output ← Failure.of (combine (← get) sources how)
  record id output (some key)
  return output

def transform (id : String) (fields : Members) (key : String) : Flow Output := do
  let output ← Failure.ofExcept .expression (Template.resolveOutput (← view) fields)
  record id output (some key)
  return output

/-- The first rule that does not hold fails the step with its message. -/
def checkRules (view : View) (id : String) : List Rule → Except Failure Unit
  | [] => .ok ()
  | rule :: rest =>
    match Template.evaluateText view rule.field with
    | .error e => .error (.expression e)
    | .ok value =>
      match Template.satisfies rule.condition value with
      | .error e => .error (.expression e)
      | .ok true => checkRules view id rest
      | .ok false => .error (.ruleFailed id rule.message)

def validate (id : String) (rules : List Rule) : Flow Output := do
  Failure.of (checkRules (← view) id rules)
  return Json.null

/-- Runs a branch on a context of its own. -/
def onFork (fork : Context) (step : Step) (action : Flow StepResult) : Process Stage BranchEnd := do
  let (outcome, context) ← action.run fork
  return { key := step.resultKey, isGate := step.isGate, own := context.own, outcome }

def BranchEnd.failure? (b : BranchEnd) : Option Failure :=
  match b.outcome with
  | .ok _ => none
  | .error f => some f

/-- Merges what a branch that succeeded wrote, and adds its output; an exit is raised again. -/
def join (outputs : Assoc Output) (b : BranchEnd) : Flow (Assoc Output) := do
  match b.outcome with
  | .error f => if f.isExit then throw f else return outputs
  | .ok result =>
    modify fun context => { context with own := context.own.absorb b.own }
    return if b.isGate then outputs else outputs.put b.key result.output

/-- Joins the branches in their order; the first that failed decides how a failure reads. -/
def joinAll (id : String) (ends : List BranchEnd) : Flow Output := do
  let outputs ← ends.foldlM join []
  match ends.findSome? BranchEnd.failure? with
  | some f => throw (.stepFailed id f.message)
  | none =>
    record id (.ofEntries outputs) none
    return .ofEntries outputs

/-- Opens accounts below one and gives the number of the first of them. -/
def openAccounts (account : Account) (count : Nat) : Flow Nat := onStage do
  let first := (← get).ledger.forks account
  modify fun s => { s with
    ledger := (List.range count).foldl (fun ledger _ => ledger.fork account) s.ledger }
  return first

mutual

def step (account : Account) : Step → Flow StepResult
  | .agent id agent operation input key =>
    recorded env execution account id
      (callAgent env account id agent operation input (Step.agent id agent operation input key).resultKey)
  | .condition id test whenTrue whenFalse =>
    recorded env execution account id do
      let holds ← Failure.ofExcept .expression (Template.condition (← view) test)
      if holds then
        skipAll env execution account whenFalse
        let outputs ← sequence account [] whenTrue
        record id (.ofEntries outputs) none
        return .ofEntries outputs
      else
        skipAll env execution account whenTrue
        let outputs ← sequence account [] whenFalse
        record id (.ofEntries outputs) none
        return .ofEntries outputs
  | .parallel id steps =>
    recorded env execution account id do
      let first ← openAccounts account steps.length
      let fork := (← get).fork
      let ends ← (Process.all (branches fork account first steps) : Process Stage (List BranchEnd))
      joinAll id ends
  | .aggregate id sources how key =>
    recorded env execution account id
      (aggregate id sources how (Step.aggregate id sources how key).resultKey)
  | .transform id fields key =>
    recorded env execution account id
      (transform id fields (Step.transform id fields key).resultKey)
  | .validate id rules => recorded env execution account id (validate id rules)

/-- Runs the steps of a sequence up to the first failure and collects their outputs by key. -/
def sequence (account : Account) (outputs : Assoc Output) : List Step → Flow (Assoc Output)
  | [] => return outputs
  | first :: rest => do
    let result ← step account first
    sequence account (if first.isGate then outputs else outputs.put first.resultKey result.output) rest

/-- Branches on forks of one context, each with an account of its own. -/
def branches (fork : Context) (account : Account) (n : Nat) :
    List Step → List (Process Stage BranchEnd)
  | [] => []
  | first :: rest =>
    onFork fork first (step (n :: account) first) :: branches fork account (n + 1) rest

end

end Run

end Conductor
