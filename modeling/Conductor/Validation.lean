import Conductor.Registry
import Conductor.Template
import Conductor.Workflow.Reader

/-! Whether a definition can run as it is written. The checks have an order and the first that fails decides:
name, steps, kinds of steps, agents, ids, circles of references, references to steps that have not run. -/

namespace Conductor

inductive Defect where
  | noName
  | noSteps
  | stepsNotList
  | badStep (step : Json)
  | badKind (kind : Json)
  | malformed (problems : List Problem)
  | unknownAgent (agent : String)
  | unknownOperation (agent operation : String)
  | duplicateId (id : String)
  | expression (e : ParseError)
  | circular
  | early (step reference : String)

def Defect.message : Defect → String
  | .noName => "Workflow name is required"
  | .noSteps => "Workflow must have at least one step"
  | .stepsNotList => "Workflow steps must be a list"
  | .badStep step => s!"Invalid step: {step.shown}"
  | .badKind kind => s!"Invalid step type: {kind.plain}"
  | .malformed problems =>
    let report := headline "WorkflowDefinition" problems
    s!"Invalid workflow definition: {report}"
  | .unknownAgent agent => s!"Unknown agent: {agent}"
  | .unknownOperation agent operation => s!"Unknown operation: {agent}.{operation}"
  | .duplicateId id => s!"Duplicate step id: {id}"
  | .expression e => e.message
  | .circular => "Circular dependency detected"
  | .early step reference => s!"Step '{step}' references step '{reference}' before it has run"

namespace Validation

/-! Documents are checked before they are read, for the sake of plainer messages. -/

/-- The members of a step that may hold further steps. -/
def nestedFields : List String := ["then", "else", "else_", "branches"]

def checkKind (members : Members) : Except Defect Unit :=
  match Assoc.get? members "type" with
  | some (.str s) => if (StepKind.ofName? s).isSome then .ok () else .error (.badKind (.str s))
  | some kind => .error (.badKind kind)
  | none => .error (.badKind .null)

mutual

def checkStepKinds : Json → Except Defect Unit
  | .obj members => do
    checkKind members
    let nested := nestedKinds members
    nestedFields.forM fun name => (Assoc.get? nested name).getD (.ok ())
  | doc => .error (.badStep doc)

def checkAllKinds : List Json → Except Defect Unit
  | [] => .ok ()
  | doc :: rest => do
    checkStepKinds doc
    checkAllKinds rest

def checkListKinds : Json → Except Defect Unit
  | .arr items => checkAllKinds items
  | _ => .ok ()

def nestedKinds : List (String × Json) → Assoc (Except Defect Unit)
  | [] => []
  | (name, doc) :: rest => (name, checkListKinds doc) :: nestedKinds rest

end

def checkName (name : Option Json) : Except Defect Unit :=
  match name with
  | some (.str s) => if allBlank s then .error .noName else .ok ()
  | _ => .error .noName

def checkSteps (steps : Json) : Except Defect Unit :=
  if !steps.truthy then .error .noSteps
  else match steps with
    | .arr items => checkAllKinds items
    | _ => .error .stepsNotList

def checkDocument : Json → Except Defect Unit
  | .obj members => do
    checkName (Assoc.get? members "name")
    checkSteps ((Assoc.get? members "steps").getD .null)
  | _ => .ok ()

variable {α : Type}

def checkAgent (r : Registry α) : Step → Except Defect Unit
  | .agent _ agent operation _ _ =>
    if !r.hasAgent agent then .error (.unknownAgent agent)
    else if !r.hasOperation agent operation then .error (.unknownOperation agent operation)
    else .ok ()
  | _ => .ok ()

def checkIds (seen : List String) : List String → Except Defect Unit
  | [] => .ok ()
  | id :: rest => if id ∈ seen then .error (.duplicateId id) else checkIds (id :: seen) rest

/-- Each rule in turn; only the field of a rule reads steps. -/
def ruleReferences : List Rule → Except ParseError (List String)
  | [] => .ok []
  | rule :: rest => do
    let first ← Template.bareReferences rule.field
    let others ← ruleReferences rest
    return first ++ others

/-- The steps whose outputs a step reads. -/
def references : Step → Except ParseError (List String)
  | .agent _ _ _ input _ => Template.references (.obj input)
  | .condition _ test _ _ => Template.bareReferences test
  | .parallel _ _ => .ok []
  | .aggregate _ sources _ _ => .ok sources
  | .transform _ fields _ => Template.references (.obj fields)
  | .validate _ rules => ruleReferences rules

/-- Steps by id, each with the ids that it reads. -/
abbrev Graph := Assoc (List String)

def graph : List Step → Except Defect Graph
  | [] => .ok []
  | step :: rest =>
    match references step with
    | .error e => .error (.expression e)
    | .ok names => (graph rest).map ((step.id, names) :: ·)

namespace Graph

def targets (g : Graph) (name : String) : List String := (g.get? name).getD []

/-- How many names are not on a path. -/
def left (g : Graph) (path : List String) : Nat := (g.names.filter (· ∉ path)).length

theorem left_cons_lt {g : Graph} {path : List String} {name : String} (h : name ∈ g.names) (hp : name ∉ path) :
    left g (name :: path) < left g path := by
  have hsplit : g.names.filter (· ∉ name :: path) = (g.names.filter (· ∉ path)).filter (· ≠ name) := by
    rw [List.filter_filter]
    simp [List.mem_cons]
  rw [left, left, hsplit, List.length_filter_lt_length_iff_exists]
  exact ⟨name, List.mem_filter.2 ⟨h, by simpa using hp⟩, by simp⟩

/-- Walks down from a name along what is read, as far as the graph has it. The walk has come to the name on a path,
and is done with some names; it adds to these. A name that it comes to twice on one path closes a circle. -/
def visit (g : Graph) (path done : List String) (name : String) (_h : name ∈ g.names) :
    Except Defect (List String) :=
  if name ∈ done then .ok done
  else if _hp : name ∈ path then .error .circular
  else do
    let done ← (targets g name).foldlM (fun done target =>
      if ht : target ∈ g.names then visit g (name :: path) done target ht else .ok done) done
    return name :: done
termination_by left g path
decreasing_by exact left_cons_lt _h _hp

/-- Walks down from each of the names that the graph has. -/
def visitAll (g : Graph) (path done names : List String) : Except Defect (List String) :=
  names.foldlM (fun done name => if h : name ∈ g.names then visit g path done name h else .ok done) done

def checkCircles (g : Graph) : Except Defect Unit := discard (visitAll g [] [] g.names)

end Graph

def checkReferences (g : Graph) (visible : List String) (step : Step) : Except Defect Unit :=
  match (Template.sortNames (Graph.targets g step.id)).find? (· ∉ visible) with
  | some name => .error (.early step.id name)
  | none => .ok ()

mutual

/-- A step may read what is visible where it stands; what it holds may read no more than that. -/
def checkStep (g : Graph) (visible : List String) : Step → Except Defect Unit
  | .condition id test whenTrue whenFalse => do
    checkReferences g visible (.condition id test whenTrue whenFalse)
    checkSequence g visible whenTrue
    checkSequence g visible whenFalse
  | .parallel id branches => do
    checkReferences g visible (.parallel id branches)
    checkBranches g visible branches
  | step => checkReferences g visible step

/-- Each step makes its id visible to the next ones, with the ids of all that it holds. -/
def checkSequence (g : Graph) (visible : List String) : List Step → Except Defect Unit
  | [] => .ok ()
  | step :: rest => do
    checkStep g visible step
    checkSequence g (visible ++ step.flat.map Step.id) rest

/-- Branches do not see each other. -/
def checkBranches (g : Graph) (visible : List String) : List Step → Except Defect Unit
  | [] => .ok ()
  | step :: rest => do
    checkStep g visible step
    checkBranches g visible rest

end

/-- Checks a definition that has been read. -/
def check (r : Registry α) (d : Definition) : Except Defect Unit := do
  if allBlank d.name then throw .noName
  if d.steps.isEmpty then throw .noSteps
  d.flat.forM (checkAgent r)
  checkIds [] (d.flat.map Step.id)
  let g ← graph d.flat
  g.checkCircles
  checkSequence g [] d.steps

def parse (fresh : String) (doc : Json) : Except Defect Definition :=
  match Definition.read fresh doc with
  | .done d => .ok d
  | .refused problems => .error (.malformed problems)

/-- Reads a document and checks it. -/
def checkRead (r : Registry α) (fresh : String) (doc : Json) : Except Defect Definition := do
  checkDocument doc
  let d ← parse fresh doc
  check r d
  return d

end Validation

end Conductor
