import Conductor.Proofs.Engine.Lifecycle
import Conductor.Proofs.Run.Mirror

/-! The operations of the engine with records and with rows. What the engine writes to a run is regular, and the work
on it does the same on both; so do the operations around it, as long as what is stored stays plain. -/

namespace Conductor

open World

namespace Engine

variable {env : Setting} {own : String}

/-! Patches of a run -/

theorem regular_results (c : Context) {total : Float} (htotal : total ≠ -0.0) : (results c total).Regular where
  full := rfl
  status _ := nofun
  output := by
    rintro _ ⟨⟩
    exact ⟨_, rfl⟩
  error _ := nofun
  cost := by
    rintro _ ⟨⟩
    exact ⟨total, rfl, htotal⟩

theorem regular_endPatch {results : ExecutionPatch} (hresults : results.Regular) {status : RunStatus}
    (hstatus : status.isKnown = true) (error : Option String) (now : Time) :
    (endPatch results status error now).Regular where
  full := rfl
  status := by
    rintro _ ⟨⟩
    exact hstatus
  output := hresults.output
  error _ h := Run.text_of_map h
  cost := hresults.cost

theorem regular_breakPatch (f : Failure) (now : Time) : (breakPatch f now).Regular :=
  regular_endPatch (ExecutionPatch.regular_of_status .failed rfl none none) rfl (some f.message) now

/-! A run -/

instance (id : String) : Act.Mirrors (start env id) := by
  have hupdate (now : Time) : Act.Mirrors (World.updateExecution env id
      (.ok { status := some .running, startedAt := some (some now) }) (some [.pending])) :=
    mirrors_updateExecution (ExecutionPatch.regular_of_status .running rfl (some (some now)) none) id (some [.pending])
  unfold start
  infer_instance

theorem mirrors_conclude {results : ExecutionPatch} (hresults : results.Regular) {status : RunStatus}
    (hstatus : status.isKnown = true) (id : String) (error : Option String) :
    Act.Mirrors (conclude env id status error results) := by
  have hend (now : Time) : Act.Mirrors (World.updateExecution env id (.ok { results with
      status := some status, completedAt := some (some now), error := error.map .str }) (some [.running])) :=
    mirrors_updateExecution (regular_endPatch hresults hstatus error now) id (some [.running])
  have hresult : Act.Mirrors (World.updateExecution env id (.ok results) none) :=
    mirrors_updateExecution hresults id none
  unfold conclude
  infer_instance

theorem mirrors_finish {status : RunStatus} (hstatus : status.isKnown = true) (id : String) (error : Option String) :
    Flow.Mirrors own (finish env id status error) := by
  have hrest (c : Context) : Flow.Mirrors own (do
      let results := results c (← Run.spent [])
      Run.onWorld (conclude env id status error results)) := by
    refine Run.mirrors_spent_bind fun total htotal => ?_
    have hconclude : Act.Mirrors (conclude env id status error (results c total)) :=
      mirrors_conclude (regular_results c htotal) hstatus id error
    infer_instance
  unfold finish
  infer_instance

instance [env.Forward] (d : Definition) (id : String) : Flow.Mirrors id (drive env d id) := by
  have hcompleted : Flow.Mirrors id (finish env id .completed none) := mirrors_finish rfl id none
  have hfailed (error : Option String) : Flow.Mirrors id (finish env id .failed error) := mirrors_finish rfl id error
  have hend (outcome : Except Failure Unit) : Flow.Mirrors id (match outcome with
      | .ok _ => finish env id .completed none
      | .error f => if f.isOfStep then finish env id .failed (some f.message) else throw f :
        Flow Execution) := by
    cases outcome <;> infer_instance
  unfold drive
  infer_instance

instance (id : String) (f : Failure) : Act.Mirrors (abort env id f) := by
  have hupdate (now : Time) : Act.Mirrors (World.updateExecution env id (.ok {
      status := some .failed, error := some (.str f.message), completedAt := some (some now) })
      (some RunStatus.active)) := mirrors_updateExecution (regular_breakPatch f now) id (some RunStatus.active)
  unfold abort
  infer_instance

theorem has_drive {w : World} (h : Begun own w) (d : Definition) (c : Context) {id : String} (hid : w.Has id) :
    ((drive env d own).exec c ⟨w, .empty⟩).2.world.Has id := by
  have hworks : Works .any w _ := within_drive env (fun _ _ hquiet => hquiet.mono Scope.le_any) d c (s := ⟨w, .empty⟩)
    (fun s hs => (works_runSteps env d.steps c hs.under).mono Scope.le_any) h
  exact (hworks h.under.1).leads.has hid

theorem mirrored_driven [env.Forward] {w : World} {d : Definition} {input : Json} (hw : w.Filed) (h : Begun own w)
    (hplain : (driven env d own input w).2.Plain) :
    Mirrored w (driven env d own input w) (driven env d own input w.tabled) := by
  refine Act.mirrored_tryCatch hplain fun hran => ?_
  have hdrive : Flow.Mirrors own (drive env d own) := inferInstance
  have hfit : (mirror own).fit ⟨w, .empty⟩ := ⟨hw, h.under.2, Ledger.proper_empty⟩
  obtain ⟨hseen, hfiled⟩ :=
    Process.Mirrored.run (hdrive.mirror { input }) hfit (hdrive.grows.safe { input } ⟨w, .empty⟩) hran
  refine ⟨?_, hfiled.filed, fun id hid => has_drive h d { input } hid⟩
  have hexec : (drive env d own).exec { input } ⟨w.tabled, .empty⟩ = _ := hseen
  rw [hexec]
  rfl

instance [env.Forward] (d : Definition) (members : Members) : Act.Mirrors (run env d (.obj members)) := by
  refine ⟨inferInstance, fun w hw hplain => ?_⟩
  rw [run_eq] at hplain ⊢
  exact Act.mirrored_bind hw hplain fun e t hout ht _ hran =>
    mirrored_driven ht (begun_createExecution env hw.sound hout) hran

/-! What else there is to ask -/

/-- Only an object names a project. -/
theorem mirrors_withProject {α : Type} {input : Json} {next : Act World α}
    (h : ∀ members, input = .obj members → Act.Mirrors next) :
    Act.Mirrors (requireProject input >>= fun _ => next) := by
  cases input with
  | obj members =>
    have hnext := h members rfl
    have hproject : Act.Mirrors (requireProject (.obj members)) := by
      unfold requireProject
      split <;> infer_instance
    infer_instance
  | _ => exact inferInstanceAs (Act.Mirrors (throw .noProject : Act World α))

instance (id : String) : Act.Mirrors (findDefinition env id) := by
  have hfound (found : Option StoredWorkflow) : Act.Mirrors (match found with
      | some stored => pure stored.definition
      | none => throw (.unknownWorkflow id) : Act World Definition) := by
    cases found <;> infer_instance
  unfold findDefinition
  split <;> infer_instance

instance (doc : Json) : Act.Mirrors (readDefinition doc) := by
  have hgrows : Act.Grows (modify fun w : World => { w with named := w.named + 1 }) :=
    Act.follows_modify fun _ => later_of_eq rfl rfl rfl (Nat.le_refl _)
  have hname : Act.Mirrors (modify fun w : World => { w with named := w.named + 1 }) :=
    Act.mirrors_modify hgrows (fun _ => rfl) (fun _ h => h) fun _ => rfl
  have hread : Act.Mirrors (do
      let n := (← get).named
      Failure.ofExcept .ofDefect (Validation.parse s!"wf-{n}" doc)) := Act.mirrors_get_bind fun _ => rfl
  unfold readDefinition
  dsimp only at hread ⊢
  infer_instance

instance [env.Forward] (workflow : String) (input : Json) : Act.Mirrors (execute env workflow input) := by
  refine mirrors_withProject fun members h => ?_
  subst h
  infer_instance

instance [env.Forward] (doc input : Json) : Act.Mirrors (executeCustom env doc input) := by
  refine mirrors_withProject fun members h => ?_
  subst h
  infer_instance

instance [env.Forward] (d : Definition) (input : Json) : Act.Mirrors (executeModel env d input) := by
  refine mirrors_withProject fun members h => ?_
  subst h
  infer_instance

instance (id : String) : Act.Mirrors (status env id) := by
  unfold status
  infer_instance

instance (id : String) : Act.Mirrors (cancel env id) := by
  unfold cancel
  infer_instance

instance (d : Definition) : Act.Mirrors (store env d) := by
  unfold store
  infer_instance

instance (doc : Json) : Act.Mirrors (createCustom env doc) := by
  unfold createCustom
  infer_instance

instance (d : Definition) : Act.Mirrors (createModel env d) := by
  unfold createModel
  infer_instance

instance : Act.Mirrors (listWorkflows env) := by
  unfold listWorkflows
  infer_instance

instance (workflow : String) (input : Json) : Act.Mirrors (estimate env workflow input) := by
  unfold estimate
  infer_instance

end Engine

end Conductor
