import Conductor.File.Quoted
import Conductor.Store.Record
import Conductor.Validation

/-! Why an operation fails, and what is said about it. -/

namespace Conductor

/-- What code from outside raises. An exit is meant for whoever drives the whole program: those who handle failures
let it pass. -/
structure Raised where
  message : String
  exit : Bool := false
  deriving DecidableEq, Repr

instance : Coe String Raised := ⟨fun message => { message }⟩

instance : Coe Raised String := ⟨Raised.message⟩

inductive Failure where
  | defect (d : Defect)
  | expression (e : ParseError)
  | noProject
  | workflowTaken (id : String)
  | unknownWorkflow (id : String)
  | lookup (e : LookupError)
  | stepFailed (step message : String)
  | ruleFailed (step message : String)
  | noExecution (id : String)
  | noRecord (id : String)
  | notCancellable (status : RunStatus)
  | unknownFields (names : List String)
  | workflowStored (id : String)
  | raised (e : Raised)
  | malformed (model : String) (problems : List Problem)
  | notNumeric (source : String)
  | tooLarge
  | notNull (column : String)
  | notStorable
  | notCopyable
  | unsupportedStore (url : String)
  | unreadable (flaw : FileFlaw)
  | isDirectory (path : String)
  | nameTooLong (path : String)

namespace Failure

def message : Failure → String
  | defect d => d.message
  | expression e => e.message
  | noProject => "projectId is required"
  | workflowTaken id => s!"Workflow id already exists: {id}"
  | unknownWorkflow id => s!"Unknown workflow: {id}"
  | lookup e => e.message
  | stepFailed _ message => message
  | ruleFailed _ message => message
  | noExecution id => s!"Workflow execution with id '{id}' not found"
  | noRecord id => s!"Step execution with id '{id}' not found"
  | notCancellable status => s!"Cannot cancel workflow with status: {status.name}"
  | unknownFields names =>
    let list := ", ".intercalate names
    s!"Cannot update fields: {list}"
  | workflowStored id => s!"Workflow {id} already exists"
  | raised e => e.message
  | malformed model problems => headline model problems
  | notNumeric source => s!"Cannot sum non-numeric output of {source}"
  | tooLarge => "int too large to convert to float"
  | notNull column => s!"NOT NULL constraint failed: {column}"
  | notStorable => "Error binding parameter: type is not supported"
  | notCopyable => "cannot pickle 'mappingproxy' object"
  | unsupportedStore url => s!"Unsupported database backend: {url}"
  | unreadable flaw => flaw.message
  | isDirectory path => s!"Is a directory: {quote path}"
  | nameTooLong path => s!"File name too long: {quote path}"

def ofDefect : Defect → Failure
  | .expression e => expression e
  | d => defect d

/-- Whether a failure already names the step where it arose. -/
def isOfStep : Failure → Bool
  | stepFailed .. => true
  | ruleFailed .. => true
  | _ => false

/-- Whether a failure passes by those who handle failures. -/
def isExit : Failure → Bool
  | raised e => e.exit
  | _ => false

/-- A failure inside a step becomes a failure of that step, and keeps its message. -/
def ofStep (step : String) (f : Failure) : Failure :=
  if f.isOfStep then f else stepFailed step f.message

@[simp] theorem message_ofStep (step : String) (f : Failure) : (f.ofStep step).message = f.message := by
  unfold ofStep
  split <;> rfl

@[simp] theorem isExit_ofStep (step : String) (f : Failure) : (f.ofStep step).isExit = false := by
  unfold ofStep
  split
  · cases f <;> first | rfl | simp_all [isOfStep]
  · rfl

end Failure

namespace Failure

variable {m : Type → Type} [Monad m] {ε α : Type}

/-- Goes on with a value, or fails for a cause. -/
def ofExcept (cause : ε → Failure) (result : Except ε α) : ExceptT Failure m α :=
  match result with
  | .ok value => pure value
  | .error e => throw (cause e)

def of (result : Except Failure α) : ExceptT Failure m α := ofExcept id result

/-- The outcome of an operation as a value. -/
def outcome (action : ExceptT Failure m α) : ExceptT Failure m (Except Failure α) :=
  ExceptT.lift action.run

/-- Handles a failure, unless it is an exit. -/
def handling (action : ExceptT Failure m α) (handle : Failure → ExceptT Failure m α) : ExceptT Failure m α :=
  tryCatch action fun f => if f.isExit then throw f else handle f

end Failure

/-- Operations on a state that stays changed when they fail. -/
abbrev Act (σ : Type) := ExceptT Failure (StateM σ)

end Conductor
