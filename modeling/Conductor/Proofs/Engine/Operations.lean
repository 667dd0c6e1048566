import Conductor.Proofs.Engine.Lifecycle

/-! Operations of the engine, one after the other. Each is part of at most one run, which it makes;
to every other run it does no more than others may. -/

namespace Conductor

open World Store

/-- What is asked of the engine. A definition is given as a document, or as it has been read before. -/
inductive Operation where
  | execute (workflow : String) (input : Json)
  | executeCustom (doc input : Json)
  | executeModel (d : Definition) (input : Json)
  | cancel (id : String)
  | status (id : String)
  | estimate (workflow : String) (input : Json)
  | createCustom (doc : Json)
  | createModel (d : Definition)
  | listWorkflows

namespace Operation

def run (env : Setting) : Operation → Act World Unit
  | execute workflow input => discard (Engine.execute env workflow input)
  | executeCustom doc input => discard (Engine.executeCustom env doc input)
  | executeModel d input => discard (Engine.executeModel env d input)
  | cancel id => discard (Engine.cancel env id)
  | status id => discard (Engine.status env id)
  | estimate workflow input => discard (Engine.estimate env workflow input)
  | createCustom doc => discard (Engine.createCustom env doc)
  | createModel d => discard (Engine.createModel env d)
  | listWorkflows => discard (Engine.listWorkflows env)

def runAll (env : Setting) (ops : List Operation) (w : World) : World :=
  ops.foldl (fun w op => (op.run env w).2) w

theorem runAll_append (env : Setting) (first second : List Operation) (w : World) :
    runAll env (first ++ second) w = runAll env second (runAll env first w) := List.foldl_append ..

end Operation

namespace Engine

variable {α β : Type} (env : Setting)

/-- An operation is part of one run at most, and that one was not there before. -/
def Goes (action : Act World α) : Prop :=
  ∀ w, w.Sound → ∃ own, w.store.execution? own = none ∧ Went own w (action w).2

theorem goes_of_within {action : Act World α} (h : Act.Within (Works .others) action) : Goes action :=
  fun w hw => ⟨w.nextId, hw.executions _ (Nat.lt_succ_self _), went_of_others (h w) hw⟩

theorem Goes.after {action : Act World α} {next : α → Act World β} (h : Act.Within (Works .others) action)
    (hn : ∀ v, Goes (next v)) : Goes (action >>= next) := by
  intro w hw
  have hmid := h w
  rw [Act.bind_apply]
  rcases hout : action w with ⟨f | v, t⟩
  · obtain ⟨own, hfresh, hwent⟩ := goes_of_within h w hw
    rw [hout] at hwent
    exact ⟨own, hfresh, hwent⟩
  · rw [hout] at hmid
    obtain ⟨own, hfresh, hwent⟩ := hn v t (hmid hw).sound
    exact ⟨own, fresh_of_others hmid hw hfresh, (went_of_others hmid hw).trans hwent⟩

theorem Goes.discard {action : Act World α} (h : Goes action) : Goes (discard action) := by
  intro w hw
  rw [Act.discard_apply]
  exact h w hw

theorem within_requireProject (input : Json) : Act.Within (Works .others) (requireProject input) := by
  unfold requireProject
  split
  · split
    · exact Act.within_pure _
    · exact Act.within_throw _
  · exact Act.within_throw _

theorem within_findDefinition (id : String) : Act.Within (Works .others) (findDefinition env id) := by
  unfold findDefinition
  split
  · exact Act.within_pure _
  · refine (within_findWorkflow Scope.le_rfl id).bind fun found => ?_
    cases found with
    | some stored => exact Act.within_pure _
    | none => exact Act.within_throw _

theorem within_readDefinition (doc : Json) : Act.Within (Works .others) (readDefinition doc) := by
  have hread : Act.Within (Works .others) (do
      let n := (← get).named
      Failure.ofExcept .ofDefect (Validation.parse s!"wf-{n}" doc)) :=
    Act.within_get.bind fun w => Act.within_ofExcept _ _
  unfold readDefinition
  dsimp only
  split
  · refine Act.Within.bind (Act.within_modify fun w => ?_) fun _ => hread
    exact works_of_eq rfl rfl rfl rfl
  · exact hread

theorem within_status (id : String) : Act.Within (Works .others) (status env id) :=
  (within_getExecution Scope.le_rfl id).bind fun _ => within_now.bind fun _ => Act.within_of _

theorem within_estimate (workflow : String) (input : Json) :
    Act.Within (Works .others) (estimate env workflow input) :=
  (within_findDefinition env workflow).bind fun _ => Act.within_ofExcept _ _

theorem within_store (d : Definition) : Act.Within (Works .others) (Engine.store env d) := by
  have hfind : Act.Within (Works .others) (do
      if (← World.findWorkflow env d.id).isSome then throw (.workflowTaken d.id)
      World.createWorkflow env d) := by
    refine (within_findWorkflow Scope.le_rfl d.id).bind fun found => ?_
    dsimp only
    split
    · exact (Act.within_throw _).bind fun _ => within_createWorkflow Scope.le_rfl d
    · exact within_createWorkflow Scope.le_rfl d
  unfold Engine.store
  dsimp only
  split
  · exact (Act.within_throw _).bind fun _ => hfind
  · exact hfind

theorem within_createCustom (doc : Json) : Act.Within (Works .others) (createCustom env doc) :=
  (Act.within_ofExcept _ _).bind fun _ => (within_readDefinition doc).bind fun d =>
    (Act.within_ofExcept _ _).bind fun _ => within_store env d

theorem within_createModel (d : Definition) : Act.Within (Works .others) (createModel env d) :=
  (Act.within_ofExcept _ _).bind fun _ => within_store env d

theorem within_listWorkflows : Act.Within (Works .others) (Engine.listWorkflows env) :=
  (World.within_listWorkflows Scope.le_rfl).bind fun _ => Act.within_pure _

theorem goes_run (op : Operation) : Goes (op.run env) := by
  cases op with
  | execute workflow input =>
    refine Goes.discard (Goes.after (within_requireProject input) fun _ => ?_)
    exact Goes.after (within_findDefinition env workflow) fun d w hw => went_run env d input hw
  | executeCustom doc input =>
    refine Goes.discard (Goes.after (within_requireProject input) fun _ => ?_)
    exact Goes.after (within_readDefinition doc) fun d w hw => went_run env d input hw
  | executeModel d input =>
    exact Goes.discard (Goes.after (within_requireProject input) fun _ w hw => went_run env d input hw)
  | cancel id => exact (goes_of_within (World.within_cancel Scope.le_rfl id)).discard
  | status id => exact (goes_of_within (within_status env id)).discard
  | estimate workflow input => exact (goes_of_within (within_estimate env workflow input)).discard
  | createCustom doc => exact (goes_of_within (within_createCustom env doc)).discard
  | createModel d => exact (goes_of_within (within_createModel env d)).discard
  | listWorkflows => exact (goes_of_within (within_listWorkflows env)).discard

/-! What operations start is noted -/

theorem reports_of_within {action : Act World α} (h : Act.Within (Works .others) action) :
    Act.Within (Reports .any) action := fun w => (h w).reports_of_others Scope.le_any

theorem reports_run (d : Definition) (input : Json) : Act.Within (Reports .any) (run env d input) := fun _ hw =>
  within_run env (fun _ _ hquiet => hquiet.reports.mono Scope.le_any) d input
    (fun _ _ hs => (reports_runSteps env d.steps { input } hs.under).mono Scope.le_any) hw hw

theorem reports_operation (op : Operation) : Act.Within (Reports .any) (op.run env) := by
  cases op with
  | execute workflow input =>
    refine ((reports_of_within (within_requireProject input)).bind fun _ => ?_).discard
    exact (reports_of_within (within_findDefinition env workflow)).bind fun d => reports_run env d input
  | executeCustom doc input =>
    refine ((reports_of_within (within_requireProject input)).bind fun _ => ?_).discard
    exact (reports_of_within (within_readDefinition doc)).bind fun d => reports_run env d input
  | executeModel d input =>
    exact ((reports_of_within (within_requireProject input)).bind fun _ => reports_run env d input).discard
  | cancel id => exact (reports_of_within (World.within_cancel Scope.le_rfl id)).discard
  | status id => exact (reports_of_within (within_status env id)).discard
  | estimate workflow input => exact (reports_of_within (within_estimate env workflow input)).discard
  | createCustom doc => exact (reports_of_within (within_createCustom env doc)).discard
  | createModel d => exact (reports_of_within (within_createModel env d)).discard
  | listWorkflows => exact (reports_of_within (within_listWorkflows env)).discard

end Engine

namespace Operation

variable (env : Setting) {w : World}

/-- Whatever is asked of the engine, whatever fails and whoever waits meanwhile: when a record shows that its step was
started, that was noted, with what the step could read then. -/
theorem starts_are_noted (ops : List Operation) (hw : w.Sound) (hn : w.Noted) : (runAll env ops w).Noted := by
  induction ops generalizing w with
  | nil => exact hn
  | cons op rest ih =>
    obtain ⟨hgrown, hnoted⟩ := Engine.reports_operation env op w hw
    exact ih hgrown.sound (hnoted hn)

example (ops : List Operation) : (runAll env ops {}).Noted := starts_are_noted env ops sound_empty noted_empty

theorem leads_runAll (ops : List Operation) (hw : w.Sound) :
    (runAll env ops w).Sound ∧ ∀ id, Leads (Lives id) w (runAll env ops w) := by
  induction ops generalizing w with
  | nil => exact ⟨hw, fun id => .refl w⟩
  | cons op rest ih =>
    obtain ⟨own, _, hwent⟩ := Engine.goes_run env op w hw
    obtain ⟨hsound, hleads⟩ := ih hwent.sound
    refine ⟨hsound, fun id => Leads.trans ?_ (hleads id)⟩
    refine hwent.leads.mono fun s t hruns => ?_
    by_cases hid : id = own
    · exact hid ▸ hruns.lives
    · exact (hruns.leaves id hid).lives

theorem leads_leaves (op : Operation) (hw : w.Sound) {id : String} (hid : w.Has id) :
    Leads (Leaves id) w (op.run env w).2 := by
  obtain ⟨own, hfresh, hwent⟩ := Engine.goes_run env op w hw
  have hne : id ≠ own := by
    rintro rfl
    rw [Has, hfresh] at hid
    cases hid
  exact hwent.leads.mono fun s t hruns => hruns.leaves id hne

/-- At any time the status of a run stays or makes one of six moves. A run that is completed or has
failed stays as it is for ever, with its records. A run that was cancelled keeps all but its output
and its cost for ever, and keeps those and its records too during every operation that did not make
it. -/
theorem lifecycle (ops : List Operation) (hw : w.Sound) (hp : w.past = []) (id : String) :
    (runAll env ops w).timeline.IsChain (fun s t => Moves (s.status? id) (t.status? id)) ∧
    (runAll env ops w).timeline.Pairwise (Settled id) ∧
    (runAll env ops w).timeline.Pairwise (Dropped id) ∧
    ∀ earlier op later, ops = earlier ++ op :: later →
      ∀ e, (runAll env earlier w).store.execution? id = some e → e.status = .cancelled →
        ∀ s ∈ (runAll env (earlier ++ [op]) w).timeline.drop (runAll env earlier w).past.length,
          s.execution? id = some e ∧ s.recordsOf id = (runAll env earlier w).store.recordsOf id := by
  have hstart : w.timeline.IsChain (Lives id) := by
    rw [timeline, hp]
    exact List.isChain_singleton _
  have hchain := ((leads_runAll env ops hw).2 id).isChain_timeline hstart
  refine ⟨hchain.imp fun _ _ h => h.moves, ?_, ?_, ?_⟩
  · exact List.isChain_iff_pairwise.1 (hchain.imp fun _ _ h => h.settled)
  · exact List.isChain_iff_pairwise.1 (hchain.imp fun _ _ h => h.dropped)
  · intro earlier op later _ e he hcancelled
    obtain ⟨hsound, _⟩ := leads_runAll env earlier hw
    have hhas : (runAll env earlier w).Has id := by
      rw [Has, he]
      rfl
    have hleads := leads_leaves env op hsound hhas
    rw [runAll_append]
    refine hleads.since (fun s => s.execution? id = some e ∧
      s.recordsOf id = (runAll env earlier w).store.recordsOf id) ?_ ⟨he, rfl⟩
    rintro s t ⟨hs, hrecords⟩ hleaves
    refine ⟨?_, hleaves.records.trans hrecords⟩
    rcases hleaves.execution with heq | ⟨e', now, hs', hactive, _⟩
    · rw [heq, hs]
    · rw [hs] at hs'
      cases hs'
      rw [hcancelled] at hactive
      exact absurd hactive (by decide)

/-- A run of one step that others cancel before that step is started. -/
theorem lifecycle_cancelled_early :
    let doc := Json.obj [("name", .str "sum up"), ("steps", .arr [.obj [("type", .str "aggregate"),
      ("id", .str "sum"), ("sources", .arr [.str "first"])]])]
    let env : Setting := { agents := ⟨[]⟩, arrivals := fun n => if n = 3 then ["id-1"] else [] }
    let ops := [executeCustom doc (.obj [("projectId", .str "p")]), .cancel "id-1"]
    ({} : World).Sound ∧ ({} : World).past = [] ∧
    (runAll env ops {}).timeline.map (·.status? "id-1") =
      [none, some .pending, some .running, some .running] ++
      List.replicate 9 (some .cancelled) ∧
    (runAll env ops {}).timeline.IsChain (fun s t => Moves (s.status? "id-1") (t.status? "id-1")) ∧
    (runAll env ops {}).timeline.Pairwise (Settled "id-1") ∧
    (runAll env ops {}).timeline.Pairwise (Dropped "id-1") := by
  refine ⟨sound_empty, rfl, by decide +kernel, ?_⟩
  obtain ⟨hmoves, hsettled, hdropped, _⟩ := lifecycle _ _ sound_empty rfl "id-1"
  exact ⟨hmoves, hsettled, hdropped⟩

end Operation

end Conductor
