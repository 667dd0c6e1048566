import Conductor.Proofs.Engine.Interchange
import Conductor.Proofs.Engine.Paths

/-! Everything that the library can be asked from outside, one thing after the other: what an engine is asked, and
what its store is asked directly. -/

namespace Conductor

open World

/-- One use of the library. Runs may be added to the store directly, and so may workflows. -/
inductive Use where
  | ofRequest (request : Request)
  | createExecution (workflow : String) (input : Json)
  | createWorkflow (d : Definition)
  | findWorkflow (id : String)
  | listWorkflows

namespace Use

def run (env : Setting) : Use → Act World Unit
  | ofRequest request => discard (request.ask env)
  | createExecution workflow input => discard (World.createExecution env workflow input)
  | createWorkflow d => discard (World.createWorkflow env d)
  | findWorkflow id => discard (World.findWorkflow env id)
  | listWorkflows => discard (World.listWorkflows env)

def runAll (env : Setting) (uses : List Use) (w : World) : World :=
  uses.foldl (fun w use => (use.run env w).2) w

end Use

/-- Leave to do anything. -/
def Remit.anything : Remit := ⟨fun _ => True, fun _ => True, fun _ => True, True⟩

theorem Remit.within_anything (m : Remit) : m.Within .anything :=
  ⟨fun _ _ => trivial, fun _ _ => trivial, fun _ _ => trivial, fun _ => trivial⟩

section

variable {env : Setting} {base : World}

theorem Engine.Launches.treads {action : Act World Execution} (h : Launches env action) :
    Act.Follows (Treads env base .anything) action :=
  ⟨fun _ hr => (h.seen hr).path.mono (Remit.within_anything _)⟩

instance (op : Operation) : Act.Follows (Treads env base .anything) (op.ask env) := by
  cases op with
  | execute workflow input =>
    have h : Act.Follows (Treads env base .anything) _ := (Engine.Launches.execute workflow input).treads
    unfold Operation.ask
    infer_instance
  | executeCustom doc input =>
    have h : Act.Follows (Treads env base .anything) _ := (Engine.Launches.executeCustom doc input).treads
    unfold Operation.ask
    infer_instance
  | executeModel d input =>
    have h : Act.Follows (Treads env base .anything) _ := (Engine.Launches.executeModel d input).treads
    unfold Operation.ask
    infer_instance
  | cancel id =>
    have h : Act.Follows (Tends env base .anything) (Engine.cancel env id) := Engine.follows_cancel trivial
    unfold Operation.ask
    infer_instance
  | status id =>
    unfold Operation.ask
    infer_instance
  | estimate workflow input =>
    unfold Operation.ask
    infer_instance
  | createCustom doc =>
    have h : Act.Follows (Tends env base .anything) (Engine.createCustom env doc) :=
      Engine.follows_createCustom trivial doc
    unfold Operation.ask
    infer_instance
  | createModel d =>
    have h : Act.Follows (Tends env base .anything) (Engine.createModel env d) := Engine.follows_createModel trivial d
    unfold Operation.ask
    infer_instance
  | listWorkflows =>
    unfold Operation.ask
    infer_instance

instance (ms : Nat) : Act.Follows (Tends env base .anything) (World.wait ms) :=
  Act.follows_modify fun _ => tends_of_idle rfl rfl rfl (fun _ => Int.le_add_of_nonneg_right (Int.natCast_nonneg ms))
    List.prefix_rfl (Nat.le_refl _)

instance (request : Request) : Act.Follows (Treads env base .anything) (request.ask env) := by
  cases request <;> unfold Request.ask <;> infer_instance

instance (use : Use) : Act.Follows (Treads env base .anything) (use.run env) := by
  cases use with
  | ofRequest request =>
    unfold Use.run
    infer_instance
  | createExecution workflow input =>
    have h : Act.Follows (Treads env base .anything) (World.createExecution env workflow input) :=
      ⟨fun _ hr => ((opened_createExecution trivial hr).1 hr).1⟩
    unfold Use.run
    infer_instance
  | createWorkflow d =>
    have h : Act.Follows (Tends env base .anything) (World.createWorkflow env d) := follows_createWorkflow trivial d
    unfold Use.run
    infer_instance
  | findWorkflow id =>
    unfold Use.run
    infer_instance
  | listWorkflows =>
    unfold Use.run
    infer_instance

theorem Use.path (uses : List Use) {w : World} (hr : Ready base w) : Path env base .anything w (runAll env uses w) := by
  induction uses generalizing w with
  | nil => exact .refl
  | cons use rest ih =>
    have hfirst : Act.Follows (Treads env base .anything) (use.run env) := inferInstance
    have hpath : Path env base .anything w (use.run env w).2 := hfirst.within w hr
    exact hpath.trans (ih (hpath.ready hr))

end

end Conductor
