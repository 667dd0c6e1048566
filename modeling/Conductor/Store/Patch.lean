import Conductor.Failure
import Conductor.Output

/-! Patches: the fields that an update writes. A field that a patch does not name keeps its value. A status, an error
and a cost may be any document; a time is a time or nothing. -/

namespace Conductor

structure ExecutionPatch where
  status : Option RunStatus := none
  output : Option Snapshot := none
  startedAt : Option (Option Time) := none
  completedAt : Option (Option Time) := none
  error : Option Json := none
  cost : Option Json := none

structure StepPatch where
  status : Option StepStatus := none
  output : Option Snapshot := none
  startedAt : Option (Option Time) := none
  completedAt : Option (Option Time) := none
  error : Option Json := none
  cost : Option Json := none

namespace Time

/-- The first and the last time of the calendar, its years being 1 to 9999. -/
def first : Time := -63839664000000000

def last : Time := 251698233599999999

/-- Milliseconds with places: the places are scaled as a double before they are rounded, a half to the even
microsecond. -/
def ofRealMillis (x : Float) : Time :=
  let whole := Number.truncate x
  match Dyad.ofFloat? ((x - Float.ofInt whole) * 1000.0) with
  | some d =>
    let exact : Int := 1000 * whole * d.denominator + d.numerator
    let size : Int := roundDiv exact.natAbs d.denominator
    if exact < 0 then -size else size
  | none => 1000 * whole

/-- A time given in milliseconds; none that lies outside the calendar. -/
def read (doc : Json) : Except Failure (Option Time) :=
  let within (t : Time) : Except Failure (Option Time) :=
    if first ≤ t ∧ t ≤ last then .ok (some t) else .error .tooLarge
  match doc.number? with
  | some (.whole n) => within (ofMillis n)
  | some (.real x) => if x.isInf then .error .tooLarge else within (ofRealMillis x)
  | none => .ok none

end Time

namespace Patch

/-- Refuses names that no field goes by. -/
def checkNames (allowed names : List String) : Except Failure Unit :=
  let unknown := names.filter (· ∉ allowed)
  if unknown.isEmpty then .ok () else .error (.unknownFields (Template.sortNames unknown))

/-- Reads a field that is named. -/
def field {α : Type} (members : Members) (name : String) (read : Json → Except Failure α) :
    Except Failure (Option α) :=
  match Assoc.get? members name with
  | some doc => (read doc).map some
  | none => .ok none

end Patch

namespace ExecutionPatch

def fields : List String :=
  ["status", "output", "started_at", "completed_at", "error", "total_cost_usd"]

open Patch in
def ofFields (members : Members) : Except Failure ExecutionPatch := do
  let startedAt ← field members "started_at" Time.read
  let completedAt ← field members "completed_at" Time.read
  checkNames fields (Assoc.names members)
  return {
    status := (Assoc.get? members "status").map RunStatus.ofJson
    output := (Assoc.get? members "output").map fun doc => doc
    startedAt, completedAt
    error := Assoc.get? members "error"
    cost := Assoc.get? members "total_cost_usd" }

def isEmpty (p : ExecutionPatch) : Bool :=
  p.status.isNone && p.output.isNone && p.startedAt.isNone && p.completedAt.isNone &&
    p.error.isNone && p.cost.isNone

/-- Whether a record can still be copied once the patch is written. -/
def keepsCopyable (p : ExecutionPatch) : Bool := p.output.all (·.closed.isNone)

def apply (p : ExecutionPatch) (e : Execution) : Execution :=
  { e with
    status := p.status.getD e.status
    output := (p.output.map Snapshot.value).getD e.output
    startedAt := p.startedAt.getD e.startedAt
    completedAt := p.completedAt.getD e.completedAt
    error := p.error.getD e.error
    cost := p.cost.getD e.cost
    copyable := p.keepsCopyable }

end ExecutionPatch

namespace StepPatch

def fields : List String :=
  ["status", "output", "error", "cost_usd", "started_at", "completed_at"]

open Patch in
def ofFields (members : Members) : Except Failure StepPatch := do
  let startedAt ← field members "started_at" Time.read
  let completedAt ← field members "completed_at" Time.read
  checkNames fields (Assoc.names members)
  return {
    status := (Assoc.get? members "status").map StepStatus.ofJson
    output := (Assoc.get? members "output").map fun doc => doc
    startedAt, completedAt
    error := Assoc.get? members "error"
    cost := Assoc.get? members "cost_usd" }

/-- Whether a record can still be copied once the patch is written. -/
def keepsCopyable (p : StepPatch) : Bool := p.output.all (·.closed.isNone)

def apply (p : StepPatch) (r : StepRecord) : StepRecord :=
  { r with
    status := p.status.getD r.status
    output := (p.output.map Snapshot.value).getD r.output
    startedAt := p.startedAt.getD r.startedAt
    completedAt := p.completedAt.getD r.completedAt
    error := p.error.getD r.error
    cost := p.cost.getD r.cost
    copyable := p.keepsCopyable }

end StepPatch

end Conductor
