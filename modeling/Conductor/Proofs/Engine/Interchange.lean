import Conductor.Proofs.Engine.Mirror
import Conductor.Proofs.Engine.Operations

/-! Requests, one after the other, to an engine that keeps records and to one that keeps rows. Both start with nothing
and give the same answers and the same errors. -/

namespace Conductor

open World

/-- What can be asked: something of the engine, a look at the runs, or to let some time pass. -/
inductive Request where
  | ofEngine (op : Operation)
  | findExecution (id : String)
  | listExecutions
  | wait (ms : Nat)

inductive Answer where
  | execution (e : Execution)
  | progress (p : Progress)
  | estimate (e : Estimate)
  | workflow (s : StoredWorkflow)
  | workflows (l : Listing)
  | found (e : Option Execution)
  | executions (es : List Execution)
  | waited

namespace World

def wait (ms : Nat) : Act World Unit := modify fun w => { w with clock := w.clock + ms }

instance (ms : Nat) : Act.Mirrors (wait ms) := by
  have hgrows : Act.Grows (modify fun w : World => { w with clock := w.clock + ms }) :=
    Act.follows_modify fun _ => later_of_eq rfl rfl rfl (Nat.le_refl _)
  exact Act.mirrors_modify hgrows (fun _ => rfl) (fun _ hw => hw.wait (Int.natCast_nonneg ms)) fun _ => rfl

end World

/-- An operation with what it gives. -/
def Operation.ask (env : Setting) : Operation → Act World Answer
  | execute workflow input => return .execution (← Engine.execute env workflow input)
  | executeCustom doc input => return .execution (← Engine.executeCustom env doc input)
  | executeModel d input => return .execution (← Engine.executeModel env d input)
  | cancel id => return .execution (← Engine.cancel env id)
  | status id => return .progress (← Engine.status env id)
  | estimate workflow input => return .estimate (← Engine.estimate env workflow input)
  | createCustom doc => return .workflow (← Engine.createCustom env doc)
  | createModel d => return .workflow (← Engine.createModel env d)
  | listWorkflows => return .workflows (← Engine.listWorkflows env)

namespace Request

variable (env : Setting)

def ask : Request → Act World Answer
  | ofEngine op => op.ask env
  | findExecution id => return .found (← World.findExecution env id)
  | listExecutions => return .executions (← World.listExecutions env)
  | wait ms => do
    World.wait ms
    return .waited

variable {env} {w : World}

instance [env.Forward] (op : Operation) : Act.Mirrors (op.ask env) := by
  cases op <;> unfold Operation.ask <;> infer_instance

instance [env.Forward] (request : Request) : Act.Mirrors (request.ask env) := by
  cases request <;> unfold ask <;> infer_instance

end Request

end Conductor
