import Conductor.Store.Memory
import Conductor.Store.Table

/-! The two kinds of store behind one set of operations. -/

namespace Conductor

inductive Store where
  | memory (m : Memory)
  | table (t : Table)

namespace Store

variable {α : Type}

/-- Runs an operation on whichever kind of store there is. -/
def run (onMemory : Act Memory α) (onTable : Act Table α) : Act Store α := fun
  | .memory m => let (result, m') := onMemory m; (result, .memory m')
  | .table t => let (result, t') := onTable t; (result, .table t')

def createExecution (id workflow : String) (input : Json) (now : Int) : Act Store Execution :=
  run (Memory.createExecution id workflow input now) (Table.createExecution id workflow input now)

def updateExecution (id : String) (patch : ExecutionPatch) (expected : Option (List RunStatus)) :
    Act Store (Option Execution) :=
  run (Memory.updateExecution id patch expected) (Table.updateExecution id patch expected)

def createStep (id execution step : String) : Act Store StepRecord :=
  run (Memory.createStep id execution step) (Table.createStep id execution step)

def updateStep (id : String) (patch : StepPatch) : Act Store StepRecord :=
  run (Memory.updateStep id patch) (Table.updateStep id patch)

def findExecution (id : String) : Act Store (Option Execution) :=
  run (Memory.findExecution id) (Table.findExecution id)

def listExecutions : Act Store (List Execution) := run Memory.listExecutions Table.listExecutions

def createWorkflow (d : Definition) (now : Int) : Act Store StoredWorkflow :=
  run (Memory.createWorkflow d now) (Table.createWorkflow d now)

def findWorkflow (id : String) : Act Store (Option StoredWorkflow) :=
  run (Memory.findWorkflow id) (Table.findWorkflow id)

def listWorkflows : Act Store (List StoredWorkflow) := run Memory.listWorkflows Table.listWorkflows

end Store

end Conductor
