import Conductor.Config.File
import Conductor.Engine
import Conductor.Json.Reader
import Conductor.Text.Terminal

/-! The command line: arguments are read into a command, and a command is run against the engine. Files and
the environment are given as values; the result is an exit code with what is printed. -/

namespace Conductor

inductive Command where
  | listWorkflows
  | runWorkflow (name input : String)
  | runFile (path input : String)
  | createWorkflow (path : String)
  | estimate (name input : String)
  | listExecutions
  | showExecution (id : String)
  | cancelExecution (id : String)
  deriving DecidableEq, Repr

inductive CommandResult where
  | usage
  | exits (code : Nat) (printed : String)
  | dies (f : Failure)

namespace Command

/-- Arguments of a command: those that are no options, and the last value of its one option. -/
structure Arguments where
  positional : List String := []
  input : Option String := none

def inputOption : String := "--input"

/-- Splits off the value that is joined to an option. -/
def joined? (arg : String) : Option String :=
  let name := (inputOption ++ "=").toList
  if name.isPrefixOf arg.toList then some (String.ofList (arg.toList.drop name.length))
  else match arg.toList with
    | '-' :: 'i' :: c :: rest => some (String.ofList (c :: rest))
    | _ => none

/-- An argument that begins with a dash and has more to it is an option. -/
def isOption (arg : String) : Bool :=
  match arg.toList with
  | '-' :: _ :: _ => true
  | _ => false

/-- Reads arguments; after `--` none is an option. None when an option is not known or lacks its value. -/
def arguments (takesInput : Bool) (acc : Arguments) : List String → Option Arguments
  | [] => some acc
  | arg :: rest =>
    if arg = "--" then some { acc with positional := acc.positional ++ rest }
    else if takesInput && (arg = inputOption || arg = "-i") then
      match rest with
      | [] => none
      | value :: rest => arguments takesInput { acc with input := some value } rest
    else match (if takesInput then joined? arg else none) with
      | some value => arguments takesInput { acc with input := some value } rest
      | none =>
        if isOption arg then none
        else arguments takesInput { acc with positional := acc.positional ++ [arg] } rest

/-- A command without arguments. -/
def plainCommand (command : Command) (args : List String) : Option Command :=
  match arguments false {} args with
  | some ⟨[], _⟩ => some command
  | _ => none

def namedCommand (command : String → Command) (args : List String) : Option Command :=
  match arguments false {} args with
  | some ⟨[name], _⟩ => some (command name)
  | _ => none

/-- A command on a name with an input, which is an empty object when none is given. -/
def inputCommand (command : String → String → Command) (args : List String) : Option Command :=
  match arguments true {} args with
  | some ⟨[name], input⟩ => some (command name (input.getD "\x7b\x7d"))
  | _ => none

def workflowCommand? : List String → Option Command
  | "list" :: args => plainCommand .listWorkflows args
  | "run" :: args => inputCommand .runWorkflow args
  | "run-file" :: args => inputCommand .runFile args
  | "create" :: args => namedCommand .createWorkflow args
  | "estimate" :: args => inputCommand .estimate args
  | _ => none

def executionCommand? : List String → Option Command
  | "list" :: args => plainCommand .listExecutions args
  | "status" :: args => namedCommand .showExecution args
  | "cancel" :: args => namedCommand .cancelExecution args
  | _ => none

/-- The group that the first argument names. -/
def group? : List String → Option (List String → Option Command)
  | "workflow" :: _ => some workflowCommand?
  | "execution" :: _ => some executionCommand?
  | _ => none

/-- Two dashes before the name of a group or a command say nothing. -/
def afterDashes : List String → List String
  | "--" :: args => args
  | args => args

/-! Files -/

/-- What a command needs from outside. -/
structure Surroundings where
  files : Files := []
  env : Config.Environment := []

/-- The settings that a command is run with. -/
def loadConfig (s : Surroundings) (path : Option String) : Except Failure Config := Config.find s.files s.env path

/-! Running -/

/-- Failures that are reported and not fatal. -/
def isReported : Failure → Bool
  | .defect _ => true
  | .expression e => e.isGrammar
  | .noProject => true
  | .workflowTaken _ => true
  | .unknownWorkflow _ => true
  | .lookup (.agent _) => true
  | .lookup (.operation _ _) => true
  | .stepFailed _ _ => true
  | .ruleFailed _ _ => true
  | .noExecution _ => true
  | .noRecord _ => true
  | .notCancellable _ => true
  | _ => false

def dollars (x : Float) : String := "$" ++ fixedText 6 x

/-- What is printed, a text on a line. -/
def lines (texts : List String) : String := withoutSequences (String.join (texts.map (· ++ "\n")))

def summaryLine (kind : String) (s : Summary) : String :=
  let agents := ", ".intercalate s.agents
  s!"{kind}\t{s.id}\t{s.name}\t({agents})"

def costOf (cost : Json) : Float := (cost.number?.bind Number.toReal?).getD 0.0

/-- The text of an error that is there. -/
def errorText? (error : Json) : Option String := if error.truthy then some error.plain else none

def executionLines (e : Execution) : List String :=
  [s!"Execution {e.id}: {e.status.name}", "Total cost: " ++ dollars (costOf e.cost)] ++
    (if e.output.truthy then ["Output: " ++ e.output.indented] else []) ++
    ((errorText? e.error).map fun message => s!"Error: {message}").toList

def reportExecution (e : Execution) : CommandResult :=
  .exits (if e.status = .failed then 1 else 0) (lines (executionLines e))

def estimateLines (e : Estimate) : List String :=
  (e.breakdown.map fun item =>
    s!"- {item.step} ({item.agent}): {item.tokens} tokens, " ++ dollars item.cost) ++
    [s!"Estimated total: {e.tokens} tokens, " ++ dollars e.cost]

def stepLine (r : StepRecord) : String :=
  let status := s!"- {r.step}: {r.status.name}"
  (errorText? r.error).elim status fun message => s!"{status} ({message})"

def progressLines (p : Progress) : List String :=
  (s!"Execution {p.execution}: {p.status.name} ({p.completedSteps}/{p.totalSteps} steps, " ++
    s!"{p.elapsed} ms, " ++ dollars p.cost ++ ")") :: p.steps.map stepLine

/-- Runs an operation and reports its value, or the failures that are reported. -/
def reporting {α : Type} (action : Act World α) (report : α → CommandResult) : StateM World CommandResult :=
  fun w =>
    let (result, w') := action w
    match result with
    | .ok value => (report value, w')
    | .error f =>
      let message := f.message
      (if isReported f then .exits 1 (lines [s!"Error: {message}"]) else .dies f, w')

/-- Runs an operation of which no failure is reported. -/
def printing {α : Type} (action : Act World α) (report : α → List String) : StateM World CommandResult :=
  fun w =>
    let (result, w') := action w
    match result with
    | .ok value => (.exits 0 (lines (report value)), w')
    | .error f => (.dies f, w')

mutual

/-- Whether a document holds a whole number of too many digits. -/
def hasLongNumber : Json → Bool
  | .num (.whole n) => Nat.pow 10 maxDigits ≤ n.natAbs
  | .arr items => anyLongNumber items
  | .obj members => anyLongMember members
  | _ => false

def anyLongNumber : List Json → Bool
  | [] => false
  | doc :: rest => hasLongNumber doc || anyLongNumber rest

def anyLongMember : List (String × Json) → Bool
  | [] => false
  | (_, doc) :: rest => hasLongNumber doc || anyLongMember rest

end

/-- The object that the input option holds, or how the command ends. -/
def parseInput (text : String) : Except CommandResult Json :=
  match Json.read? text with
  | none => .error .usage
  | some doc =>
    if hasLongNumber doc then .error (.dies (.unreadable .longNumber))
    else match doc with
      | .obj members => .ok (.obj members)
      | _ => .error .usage

def stops (printed : String) : CommandResult := .exits 1 (lines [printed])

/-- The definition in a file, or how the command ends. -/
def loadDefinition (s : Surroundings) (path : String) : Except CommandResult Json :=
  let name := File.tidyPath path
  match File.find s.files name with
  | .nothing => .error (stops s!"File not found: {name}")
  | .tooLong => .error (.dies (.nameTooLong name))
  | .directory => .error (.dies (.isDirectory name))
  | .text content =>
    match File.read content with
    | .error .longNumber => .error (.dies (.unreadable .longNumber))
    | .error _ => .error (stops s!"Could not parse {name}")
    | .ok (.obj members) => .ok (.obj members)
    | .ok _ => .error (stops "Workflow file must contain a mapping")

/-- Goes on with a value, or ends. -/
def orEnd {α : Type} (found : Except CommandResult α) (next : α → StateM World CommandResult) :
    StateM World CommandResult :=
  match found with
  | .ok value => next value
  | .error result => pure result

def printExecution (e : Execution) : String := s!"{e.id}\t{e.workflow}\t{e.status.name}"

def run (s : Surroundings) (env : Setting) : Command → StateM World CommandResult
  | listWorkflows =>
    printing (Engine.listWorkflows env) fun found =>
      found.predefined.map (summaryLine "predefined") ++ found.custom.map (summaryLine "custom")
  | runWorkflow name input =>
    orEnd (parseInput input) fun doc => reporting (Engine.execute env name doc) reportExecution
  | runFile path input =>
    orEnd (loadDefinition s path) fun definition =>
      orEnd (parseInput input) fun doc =>
        reporting (Engine.executeCustom env definition doc) reportExecution
  | createWorkflow path =>
    orEnd (loadDefinition s path) fun definition =>
      reporting (Engine.createCustom env definition) fun stored =>
        .exits 0 (lines [s!"Created workflow {stored.definition.id}: {stored.definition.name}"])
  | estimate name input =>
    orEnd (parseInput input) fun doc =>
      reporting (Engine.estimate env name doc) fun e => .exits 0 (lines (estimateLines e))
  | listExecutions =>
    printing (World.listExecutions env) fun found =>
      if found.isEmpty then ["No executions found"] else found.map printExecution
  | showExecution id =>
    reporting (Engine.status env id) fun p => .exits 0 (lines (progressLines p))
  | cancelExecution id =>
    reporting (Engine.cancel env id) fun e =>
      .exits 0 (lines [s!"Execution {e.id}: {e.status.name}"])

/-- Runs the command that arguments ask for. The settings are read before the arguments of a group are. -/
def dispatch (s : Surroundings) (agents : Registry Script) (faults : Method → Nat → Option Fault)
    (args : List String) : StateM World CommandResult :=
  let args := afterDashes args
  match group? args with
  | none => pure .usage
  | some read =>
    match loadConfig s none with
    | .error f => pure (.dies f)
    | .ok config =>
      match read (afterDashes args.tail) with
      | none => pure .usage
      | some command => run s { agents, faults, config } command

end Command

end Conductor
