import Conductor.Proofs.Process.Mirror
import Conductor.Proofs.Run.Growth
import Conductor.Proofs.World.Mirror

/-! The work on a run, with records and with rows: turn by turn the branches do the same on both, as long as what is
stored stays plain. -/

namespace Conductor

open World

/-- A stage on which a run has its record. -/
structure Stage.Fit (own : String) (s : Stage) : Prop where
  filed : s.world.Filed
  has : s.world.Has own
  ledger : s.ledger.Proper

/-- The work on a run as it is seen in a table. -/
def mirror (own : String) : Mirror Stage where
  drift := drift
  drifts _ _ := trivial
  calm s := s.world.Plain
  calm_of_drift h hb := hb.before h.world
  fit := Stage.Fit own
  image s := { s with world := s.world.tabled }

namespace Flow

open Round

variable {α β : Type} {own : String}

/-- Work that only adds to what there has been, with records and with rows alike. -/
class Mirrors (own : String) (f : Flow α) : Prop where
  grows : Grows f
  mirror : ∀ c, Process.Mirrored (mirror own) (f c)

section Combinators

variable {f : Flow α} {g : α → Flow β}

theorem mirrored_still (out : Except Failure α × Context) :
    Process.Mirrored (mirror own) (fun s => (.done out, s)) := Process.mirrored_pure out

instance (v : α) : Mirrors own (pure v : Flow α) := ⟨inferInstance, fun _ => mirrored_still _⟩

instance (e : Failure) : Mirrors own (throw e : Flow α) := ⟨inferInstance, fun _ => mirrored_still _⟩

instance : Mirrors own (get : Flow Context) := ⟨inferInstance, fun _ => mirrored_still _⟩

instance (change : Context → Context) : Mirrors own (modify change : Flow PUnit) :=
  ⟨inferInstance, fun _ => mirrored_still _⟩

instance [hf : Mirrors own f] [hg : ∀ v, Mirrors own (g v)] : Mirrors own (f >>= g) := by
  have hfirst := hf.grows
  have hnext (v : α) := (hg v).grows
  refine ⟨inferInstance, fun c s hs => ?_⟩
  rw [bind_apply, bind_apply]
  refine (hf.mirror c s hs).bind (fun out => ?_) fun out t => ?_
  · obtain ⟨v | v, c'⟩ := out
    · exact mirrored_still _
    · exact (hg v).mirror c'
  · obtain ⟨v | v, c'⟩ := out
    · exact drift.guar_refl t
    · exact Grows.turn (g v) c' t

instance [hf : Mirrors own f] : Mirrors own (discard f) := by
  have hgrows := hf.grows
  refine ⟨inferInstance, fun c s hs => ?_⟩
  rw [discard_apply, discard_apply]
  exact (hf.mirror c s hs).bind (fun _ => mirrored_still _) fun _ t => drift.guar_refl t

instance [hf : Mirrors own f] : Mirrors own (Failure.outcome f) := by
  have hgrows := hf.grows
  refine ⟨inferInstance, fun c s hs => ?_⟩
  rw [outcome_apply, outcome_apply]
  exact (hf.mirror c s hs).bind (fun _ => mirrored_still _) fun _ t => drift.guar_refl t

instance {handle : Failure → Flow α} [hf : Mirrors own f] [hh : ∀ e, Mirrors own (handle e)] :
    Mirrors own (tryCatch f handle) := by
  have hfirst := hf.grows
  have hhandle (e : Failure) := (hh e).grows
  refine ⟨inferInstance, fun c s hs => ?_⟩
  rw [tryCatch_apply, tryCatch_apply]
  refine (hf.mirror c s hs).bind (fun out => ?_) fun out t => ?_
  · obtain ⟨e | v, c'⟩ := out
    · exact (hh e).mirror c'
    · exact mirrored_still _
  · obtain ⟨e | v, c'⟩ := out
    · exact Grows.turn (handle e) c' t
    · exact drift.guar_refl t

instance {handle : Failure → Flow α} [hf : Mirrors own f] [hh : ∀ e, Mirrors own (handle e)] :
    Mirrors own (Failure.handling f handle) := by
  have hpass (e : Failure) : Mirrors own (if e.isExit then throw e else handle e) := by
    cases e.isExit with
    | true => exact inferInstanceAs (Mirrors own (throw e : Flow α))
    | false => exact hh e
  unfold Failure.handling
  infer_instance

instance (result : Except Failure α) : Mirrors own (Failure.of result : Flow α) := by
  cases result <;> exact ⟨inferInstance, fun _ => mirrored_still _⟩

instance {ε : Type} (cause : ε → Failure) (result : Except ε α) :
    Mirrors own (Failure.ofExcept cause result : Flow α) := by
  cases result <;> exact ⟨inferInstance, fun _ => mirrored_still _⟩

/-- What goes on from a result that is known has only to be the same for that one. -/
theorem mirrors_ofExcept_bind {ε : Type} {cause : ε → Failure} {result : Except ε α}
    (h : ∀ v, result = .ok v → Mirrors own (g v)) : Mirrors own (Failure.ofExcept cause result >>= g) := by
  cases result with
  | error e => exact inferInstanceAs (Mirrors own (throw (cause e) : Flow β))
  | ok v => exact h v rfl

theorem mirrors_onWorld {action : Act World α} [Act.Grows action] (h : ∀ w, w.Filed → w.Has own → (action w).2.Plain →
    World.Mirrored w (action w) (action w.tabled)) : Mirrors own (Run.onWorld action) := by
  refine ⟨inferInstance, fun c s hs => mirroredTurn_iff.2 fun hcalm => ?_⟩
  have hm := h s.world hs.filed hs.has hcalm
  refine ⟨?_, ⟨hm.filed, hm.lasts own hs.has, hs.ledger⟩, mirrored_done⟩
  show (Round.done ((action s.world.tabled).1, c), ({ s with world := (action s.world.tabled).2 } : Stage)) = _
  rw [hm.same]
  rfl

instance (action : Act World α) [h : Act.Mirrors action] : Mirrors own (Run.onWorld action) := by
  have hgrows := h.grows
  exact mirrors_onWorld fun w hw _ => h.mirror w hw

theorem mirrors_onLedger {action : Act Stage α}
    (h : ∀ s w, action { s with world := w } = ((action s).1, { (action s).2 with world := w }))
    (hp : ∀ s, s.ledger.Proper → (action s).2.ledger.Proper) : Mirrors own (Run.onStage action) := by
  have hworld (s : Stage) : (action s).2.world = s.world := by rw [h s s.world]
  refine ⟨grows_onLedger hworld hp, fun c s hs => mirroredTurn_iff.2 fun _ => ?_⟩
  refine ⟨?_, ⟨?_, ?_, hp s hs.ledger⟩, mirrored_done⟩
  · show (Round.done ((action { s with world := s.world.tabled }).1, c),
      (action { s with world := s.world.tabled }).2) = (Round.done ((action s).1, c),
        ({ (action s).2 with world := (action s).2.world.tabled } : Stage))
    rw [h, hworld]
  · show (action s).2.world.Filed
    rw [hworld]
    exact hs.filed
  · show (action s).2.world.Has own
    rw [hworld]
    exact hs.has

instance {ι : Type} {items : List ι} {each : ι → Flow PUnit} [h : ∀ item, Mirrors own (each item)] :
    Mirrors own (items.forM each) := by
  induction items with
  | nil => exact inferInstanceAs (Mirrors own (pure ⟨⟩ : Flow PUnit))
  | cons first rest ih => exact inferInstanceAs (Mirrors own (each first >>= fun _ => rest.forM each))

instance {p : Prop} [Decidable p] {f' : Flow α} [Mirrors own f] [Mirrors own f'] :
    Mirrors own (if p then f else f') := by
  split <;> infer_instance

theorem mirrors_lift {p : Process Stage α} [Grows (liftM p : Flow α)] (h : Process.Mirrored (mirror own) p) :
    Mirrors own (liftM p : Flow α) := by
  refine ⟨inferInstance, fun c => ?_⟩
  have hstate : Process.Mirrored (mirror own) ((StateT.lift p : StateT Context (Process Stage) α) c) :=
    h.bind (fun v => Process.mirrored_pure (v, c)) fun _ t => drift.guar_refl t
  exact hstate.bind (fun out => mirrored_still (.ok out.1, out.2)) fun _ t => drift.guar_refl t

end Combinators

end Flow

namespace Run

open Conductor.Flow

variable {env : Setting} {own : String}

instance (account : Account) (step : String) (moment : Moment) : Mirrors own (wait env account step moment) := by
  have hturns : Act.Mirrors (do return (← get).turns : Act World Nat) := Act.mirrors_get_bind fun _ => rfl
  have hrest (rounds : Nat) : Mirrors own (liftM (Process.rest rounds : Process Stage Unit) : Flow Unit) :=
    mirrors_lift (Process.mirrored_rest rounds)
  unfold wait
  infer_instance

instance (step : String) (output : Output) (key : Option String) : Mirrors own (record step output key) := by
  unfold record
  infer_instance

instance (account : Account) (amount : Float) : Mirrors own (charge account amount) :=
  mirrors_onLedger (fun _ _ => rfl) fun _ h => h.charge account amount

instance (account : Account) : Mirrors own (spent account) := mirrors_onLedger (fun _ _ => rfl) fun _ => id

instance (account : Account) (count : Nat) : Mirrors own (openAccounts account count) :=
  mirrors_onLedger (fun _ _ => rfl) fun _ h => h.forks account count

/-- A total is never the zero with a sign. -/
theorem mirrors_spent_bind {α : Type} {account : Account} {g : Float → Flow α} [hgrows : Grows (spent account >>= g)]
    (h : ∀ total, total ≠ -0.0 → Mirrors own (g total)) : Mirrors own (spent account >>= g) :=
  ⟨hgrows, fun c s hs => (h _ (hs.ledger.total account)).mirror c s hs⟩

instance : Mirrors own view := by
  unfold view
  infer_instance

instance (step : String) : Mirrors own (noteStart own step) := by
  have hnote (c : Context) : Act.Mirrors (do
      let store := (← get).store
      World.note (.started own step c store)) := ⟨inferInstance, fun _ hw _ => ⟨rfl, hw, fun _ h => h⟩⟩
  unfold noteStart
  infer_instance

instance (step : String) (cause : Failure) : Act.Mirrors (World.note (.failed own step cause)) :=
  ⟨inferInstance, fun _ hw _ => ⟨rfl, hw, fun _ h => h⟩⟩

instance {α : Type} (step : String) (action : Flow α) [Mirrors own action] :
    Mirrors own (within own step action) := by
  unfold within
  infer_instance

instance (step : String) : Mirrors own (onWorld (World.createStep env own step)) :=
  mirrors_onWorld fun _ hw hown hplain => mirrored_createStep hw hown hplain

theorem text_of_map {error : Option String} {doc : Json} (h : error.map Json.str = some doc) : ∃ text, doc = .str text := by
  obtain ⟨text, -, rfl⟩ := Option.map_eq_some_iff.1 h
  exact ⟨text, rfl⟩

theorem regular_ended {status : StepStatus} (hstatus : status.isKnown = true) {cost : Float} (hcost : cost ≠ -0.0)
    (now : Time) (output : Option Snapshot) (error : Option String) :
    ({ status := some status, completedAt := some (some now), cost := some (.real cost), output
       error := error.map .str } : StepPatch).Regular where
  status := by
    rintro _ ⟨⟩
    exact hstatus
  error _ h := text_of_map h
  cost := by
    rintro _ ⟨⟩
    exact ⟨cost, rfl, hcost⟩

theorem regular_started (now : Time) :
    ({ status := some .running, startedAt := some (some now) } : StepPatch).Regular where
  status := by
    rintro _ ⟨⟩
    rfl
  error _ := nofun
  cost _ := nofun

theorem mirrors_finish {cost : Float} (hcost : cost ≠ -0.0) {status : StepStatus} (hstatus : status.isKnown = true)
    (account : Account) (step id : String) (output : Output) (error : Option String) :
    Mirrors own (finish env account step id status cost output error) := by
  have hupdate (now : Time) (written : Option Snapshot) : Act.Mirrors (World.updateStep env id (.ok {
      status := some status, completedAt := some (some now), cost := some (.real cost), output := written
      error := error.map .str })) := mirrors_updateStep (regular_ended hstatus hcost now written error) id
  unfold finish
  infer_instance

instance (account : Account) (step id : String) (before : Float) (out : Except Failure Output) :
    Mirrors own (conclude env account step id before out) := by
  cases out with
  | ok output =>
    refine mirrors_spent_bind fun total htotal => ?_
    have hfinish : Mirrors own (finish env account step id .completed (total - before) output none) :=
      mirrors_finish (Number.sub_ne_zero htotal before) rfl account step id output none
    infer_instance
  | error f =>
    have hfail : Mirrors own (do
        finish env account step id .failed ((← spent account) - before) Json.null (some f.message)
        throw f : Flow StepResult) := by
      refine mirrors_spent_bind fun total htotal => ?_
      have hfinish : Mirrors own (finish env account step id .failed (total - before) Json.null (some f.message)) :=
        mirrors_finish (Number.sub_ne_zero htotal before) rfl account step id Json.null (some f.message)
      infer_instance
    exact inferInstanceAs (Mirrors own (if f.isExit then throw f else _))

instance (account : Account) (step id : String) (body : Flow Output) [Mirrors own body] :
    Mirrors own (carryOut env account step id body) := by
  have hstart (now : Time) : Act.Mirrors (World.updateStep env id (.ok {
      status := some .running, startedAt := some (some now) })) := mirrors_updateStep (regular_started now) id
  unfold carryOut
  infer_instance

instance (account : Account) (step : String) (body : Flow Output) [Mirrors own body] :
    Mirrors own (attempt env own account step body) := by
  unfold attempt
  infer_instance

instance (account : Account) (step : String) (body : Flow Output) [Mirrors own body] :
    Mirrors own (recorded env own account step body) := by
  unfold recorded
  infer_instance

instance (account : Account) (step : String) : Mirrors own (skip env own account step) := by
  have hskip (id : String) (now : Time) : Act.Mirrors (World.updateStep env id (.ok {
      status := some .skipped, completedAt := some (some now), cost := some (.real 0.0) })) :=
    mirrors_updateStep (regular_ended rfl Ledger.zero_ne_neg_zero now none none) id
  unfold skip
  infer_instance

instance (account : Account) (steps : List Step) : Mirrors own (skipAll env own account steps) := by
  unfold skipAll
  infer_instance

instance (account : Account) (id key : String) (payload : Output) (answer : CallEnd) :
    Mirrors own (settle env account id key payload answer) := by
  unfold settle
  infer_instance

instance [henv : env.Forward] (account : Account) (id agent operation : String) (input : Members) :
    Mirrors own (call env account id agent operation input) := by
  have hlook : Act.Mirrors (do return (← get).calls.length : Act World Nat) := Act.mirrors_get_bind fun _ => rfl
  have hasked (script : Script) (hscript : env.agents.get agent operation = .ok script) : Mirrors own (do
      let payload ← Failure.ofExcept .expression (Template.resolveOutput (← view) input)
      let number ← onWorld do return (← get).calls.length
      let outcome ← Failure.outcome (onWorld (World.invoke env agent operation script payload.value))
      return (payload, ⟨number, outcome⟩) : Flow (Output × CallEnd)) := by
    have hcall (payload : Json) : Act.Mirrors (World.invoke env agent operation script payload) :=
      mirrors_invoke (henv.advance agent operation script hscript) agent operation payload
    infer_instance
  have hfound : Mirrors own (Failure.ofExcept .lookup (env.agents.get agent operation) >>= _) :=
    mirrors_ofExcept_bind hasked
  exact inferInstanceAs (Mirrors own (wait env account id .call >>= fun _ => _ >>= _))

instance [env.Forward] (account : Account) (id agent operation : String) (input : Members) (key : String) :
    Mirrors own (callAgent env account id agent operation input key) := by
  unfold callAgent
  infer_instance

instance (id : String) (sources : List String) (how : Combine) (key : String) :
    Mirrors own (aggregate id sources how key) := by
  unfold aggregate
  infer_instance

instance (id : String) (fields : Members) (key : String) : Mirrors own (transform id fields key) := by
  unfold transform
  infer_instance

instance (id : String) (rules : List Rule) : Mirrors own (validate id rules) := by
  unfold validate
  infer_instance

instance (outputs : Assoc Output) (b : BranchEnd) : Mirrors own (join outputs b) := by
  unfold join
  cases b.outcome <;> dsimp only <;> infer_instance

instance (id : String) (ends : List BranchEnd) : Mirrors own (joinAll id ends) := by
  have hfold (outputs : Assoc Output) : Mirrors own (ends.foldlM join outputs) := by
    induction ends generalizing outputs with
    | nil => exact inferInstanceAs (Mirrors own (pure outputs))
    | cons first rest ih => exact inferInstanceAs (Mirrors own (join outputs first >>= fun _ => _))
  have hend (found : Option Failure) (outputs : Assoc Output) : Mirrors own (match found with
      | some f => throw (.stepFailed id f.message)
      | none => do
        record id (.ofEntries outputs) none
        return .ofEntries outputs : Flow Output) := by
    cases found <;> infer_instance
  unfold joinAll
  infer_instance

/-! Steps -/

theorem mirrored_onFork {fork : Context} {step : Step} {action : Flow StepResult} [h : Mirrors own action] :
    Process.Mirrored (mirror own) (onFork fork step action) :=
  (h.mirror fork).bind (fun _ => Process.mirrored_pure _) fun _ t => drift.guar_refl t

section

variable (env own)

mutual

theorem mirrors_step [env.Forward] (account : Account) (step : Step) : Mirrors own (Run.step env own account step) := by
  cases step with
  | agent id agent operation input key =>
    rw [Run.step]
    infer_instance
  | condition id test whenTrue whenFalse =>
    have htrue := mirrors_sequence account [] whenTrue
    have hfalse := mirrors_sequence account [] whenFalse
    rw [Run.step]
    infer_instance
  | parallel id steps =>
    have hgrows (fork : Context) (first : Nat) :=
      follows_all (drifts_branches drift env own fork account first steps)
    have hall (fork : Context) (first : Nat) :=
      mirrors_lift (Process.mirrored_all (mirrored_branches fork account first steps))
    rw [Run.step]
    infer_instance
  | aggregate id sources how key =>
    rw [Run.step]
    infer_instance
  | transform id fields key =>
    rw [Run.step]
    infer_instance
  | validate id rules =>
    rw [Run.step]
    infer_instance

theorem mirrors_sequence [env.Forward] (account : Account) (outputs : Assoc Output) (steps : List Step) :
    Mirrors own (sequence env own account outputs steps) := by
  cases steps with
  | nil =>
    rw [sequence]
    infer_instance
  | cons first rest =>
    have hfirst := mirrors_step account first
    have hrest (outputs : Assoc Output) := mirrors_sequence account outputs rest
    rw [sequence]
    infer_instance

theorem mirrored_branches [env.Forward] (fork : Context) (account : Account) (n : Nat) (steps : List Step) :
    Round.Mirrored (mirror own) (Round.all ((branches env own fork account n steps).map Round.go)) := by
  cases steps with
  | nil =>
    rw [branches]
    exact Round.mirrored_done
  | cons first rest =>
    have hstep := mirrors_step (n :: account) first
    have hfirst : Process.Mirrored (mirror own) (onFork fork first (Run.step env own (n :: account) first)) :=
      mirrored_onFork
    have hrest := mirrored_branches fork account (n + 1) rest
    have dfirst : Round.Drifts (mirror own).toWeather
        (.go (onFork fork first (Run.step env own (n :: account) first))) :=
      (drifts_onFork : Drifts drift _).safe_go
    have drest := safe_drifting (drifts_branches drift env own fork account (n + 1) rest)
    rw [branches]
    exact ((Round.mirrored_go.2 hfirst).both hrest dfirst drest).map

end

instance [env.Forward] (account : Account) (step : Step) : Mirrors own (Run.step env own account step) :=
  mirrors_step env own account step

end

end Run

namespace Engine

open Conductor.Flow

variable {env : Setting} {own : String}

instance [env.Forward] (steps : List Step) : Mirrors own (runSteps env own steps) := by
  induction steps with
  | nil => exact inferInstanceAs (Mirrors own (pure ⟨⟩ : Flow Unit))
  | cons step rest ih =>
    unfold runSteps
    infer_instance

end Engine

end Conductor
