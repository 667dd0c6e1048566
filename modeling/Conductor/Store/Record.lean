import Conductor.Json.Writer
import Conductor.Workflow.Step

/-! What is stored: runs of workflows, a record for each step of a run that was started or skipped, and the
workflows that were added to the built-in ones. A patch from outside may write whatever it likes into a
status, an error or a cost. -/

namespace Conductor

/-- A point in time, in microseconds. -/
abbrev Time := Int

namespace Time

def ofMillis (n : Int) : Time := 1000 * n

/-- The nearest millisecond, of two the even one. -/
def toMillis (t : Time) : Int :=
  let size : Int := roundDiv t.natAbs 1000
  if t < 0 then -size else size

end Time

/-- Only a patch from outside can bring another status than the five of a run. -/
inductive RunStatus where
  | pending
  | running
  | completed
  | failed
  | cancelled
  | other (doc : Json)
  deriving DecidableEq, Inhabited

namespace RunStatus

def name : RunStatus → String
  | pending => "pending"
  | running => "running"
  | completed => "completed"
  | failed => "failed"
  | cancelled => "cancelled"
  | other doc => doc.plain

def known : List RunStatus := [pending, running, completed, failed, cancelled]

def ofName (s : String) : RunStatus := (known.find? (·.name = s)).getD (other (.str s))

def toJson : RunStatus → Json
  | other doc => doc
  | status => .str status.name

def ofJson : Json → RunStatus
  | .str s => ofName s
  | doc => other doc

def isKnown : RunStatus → Bool
  | other _ => false
  | _ => true

theorem toJson_of_isKnown {status : RunStatus} (h : status.isKnown = true) : status.toJson = .str status.name := by
  cases status <;> first | rfl | simp [isKnown] at h

theorem ofJson_toJson {status : RunStatus} (h : status.isKnown = true) : ofJson status.toJson = status := by
  rw [toJson_of_isKnown h, ofJson]
  cases status <;> first | decide | simp [isKnown] at h

/-- The statuses of a run that may still be cancelled. -/
def active : List RunStatus := [pending, running]

end RunStatus

inductive StepStatus where
  | pending
  | running
  | completed
  | failed
  | skipped
  | other (doc : Json)
  deriving DecidableEq, Inhabited

namespace StepStatus

def name : StepStatus → String
  | pending => "pending"
  | running => "running"
  | completed => "completed"
  | failed => "failed"
  | skipped => "skipped"
  | other doc => doc.plain

def known : List StepStatus := [pending, running, completed, failed, skipped]

def ofName (s : String) : StepStatus := (known.find? (·.name = s)).getD (other (.str s))

def toJson : StepStatus → Json
  | other doc => doc
  | status => .str status.name

def ofJson : Json → StepStatus
  | .str s => ofName s
  | doc => other doc

def isKnown : StepStatus → Bool
  | other _ => false
  | _ => true

theorem toJson_of_isKnown {status : StepStatus} (h : status.isKnown = true) : status.toJson = .str status.name := by
  cases status <;> first | rfl | simp [isKnown] at h

theorem ofJson_toJson {status : StepStatus} (h : status.isKnown = true) : ofJson status.toJson = status := by
  rw [toJson_of_isKnown h, ofJson]
  cases status <;> first | decide | simp [isKnown] at h

end StepStatus

/-- A record that cannot be copied holds the table of steps of a run. -/
structure StepRecord where
  id : String
  execution : String
  step : String
  status : StepStatus := .pending
  output : Json := .null
  error : Json := .null
  cost : Json := .real 0.0
  startedAt : Option Time := none
  completedAt : Option Time := none
  copyable : Bool := true
  deriving Inhabited

structure Execution where
  id : String
  workflow : String
  status : RunStatus := .pending
  input : Json
  output : Json := .obj []
  steps : List StepRecord := []
  createdAt : Time
  startedAt : Option Time := none
  completedAt : Option Time := none
  error : Json := .null
  cost : Json := .real 0.0
  copyable : Bool := true
  deriving Inhabited

structure StoredWorkflow where
  definition : Definition
  createdAt : Time
  deriving Inhabited

end Conductor
