import Conductor.Engine
import Conductor.Proofs.Ledger
import Conductor.Proofs.Number.Zero
import Conductor.Proofs.Run.Turn
import Conductor.Proofs.World.Paths
import Conductor.Proofs.World.Shares

/-! The strides that the steps of a run take, whatever fails. Each piece of work owns the records that it has
made: no other one writes to them, so that a record is still running when its step ends. -/

namespace Conductor

open World

/-- What the steps of a run may do. -/
def Remit.ofSteps (own : String) : Remit := { steps := (· = own) }

/-- The steps of a run have led here, and the run has not been ended meanwhile but by a cancellation. -/
structure Stage.OnPath (env : Setting) (base start : World) (own : String) (s : Stage) : Prop where
  path : Path env base (.ofSteps own) start s.world
  ready : Ready base s.world
  there : s.world.store.At own [.running, .cancelled]

/-- Records as what can be owned. -/
def holdings (env : Setting) (base start : World) (own : String) : Estate Stage (Multiset StepRecord) where
  drift := free
  drifts _ _ := trivial
  calm _ := True
  calm_of_drift _ _ := trivial
  fit := Stage.OnPath env base start own
  whole s := s.world.store.records

theorem Stage.OnPath.next {env : Setting} {base start : World} {own : String} {s t : Stage}
    (h : s.OnPath env base start own) (hp : Path env base (.ofSteps own) s.world t.world) :
    t.OnPath env base start own :=
  ⟨h.path.trans hp, hp.ready h.ready, hp.at id (by decide) h.there⟩

namespace Flow

open Round

variable {env : Setting} {base start : World} {own : String} {α β : Type}

/-- A turn of some work, by how it ends and what it owns then. -/
def Turns (env : Setting) (base start : World) (own : String)
    (goal : Except Failure α → Multiset StepRecord → Prop) (rest : Multiset StepRecord) (f : Flow α) (c : Context)
    (s : Stage) : Prop :=
  OwnsTurn (holdings env base start own) (fun out m => goal out.1 m) rest (f c s)

variable {goal : Except Failure α → Multiset StepRecord → Prop} {aim : Except Failure β → Multiset StepRecord → Prop}
  {rest m : Multiset StepRecord} {c : Context} {s : Stage}

theorem Turns.mono {goal' : Except Failure α → Multiset StepRecord → Prop} {f : Flow α}
    (h : Turns env base start own goal rest f c s) (hg : ∀ out m, goal out m → goal' out m) :
    Turns env base start own goal' rest f c s := OwnsTurn.mono h fun out m => hg out.1 m

theorem turns_done {f : Flow α} {out : Except Failure α} {c' : Context} {t : Stage}
    (hf : f c s = (.done (out, c'), t)) (ht : (holdings env base start own).Holds m rest t) (h : goal out m) :
    Turns env base start own goal rest f c s := by
  rw [Turns, hf]
  exact ownsTurn_iff.2 fun _ => ⟨m, ht, owns_done.2 h⟩

theorem turns_iff {f : Flow α} : Turns env base start own goal rest f c s ↔
    Turn (holdings env base start own) (fun out _ => goal out) rest f c s := Iff.rfl

instance (f : Flow α) : Follows (holdings env base start own).drift f := inferInstanceAs (Follows free f)

theorem Turns.bind {f : Flow β} {g : β → Flow α} (h : Turns env base start own aim rest f c s)
    (hg : ∀ v c m, aim (.ok v) m → ∀ t rest, (holdings env base start own).Holds m rest t →
      Turns env base start own goal rest (g v) c t)
    (he : ∀ e m, aim (.error e) m → goal (.error e) m) : Turns env base start own goal rest (f >>= g) c s :=
  turns_iff.2 ((turns_iff.1 h).bind (fun v c m => hg v c m) fun e _ => he e)

theorem Turns.discard {f : Flow β} {goal : Except Failure PUnit → Multiset StepRecord → Prop}
    (h : Turns env base start own (fun out => goal (out.map fun _ => ⟨⟩)) rest f c s) :
    Turns env base start own goal rest (discard f) c s :=
  turns_iff.2 (turns_iff.1 h).discard

theorem Turns.outcome {f : Flow β} {goal : Except Failure (Except Failure β) → Multiset StepRecord → Prop}
    (h : Turns env base start own (fun out => goal (.ok out)) rest f c s) :
    Turns env base start own goal rest (Failure.outcome f) c s :=
  turns_iff.2 (turns_iff.1 h).outcome

theorem Turns.tryCatch {goal' : Except Failure α → Multiset StepRecord → Prop} {f : Flow α} {handle : Failure → Flow α}
    (h : Turns env base start own goal' rest f c s) (hv : ∀ v m, goal' (.ok v) m → goal (.ok v) m)
    (hh : ∀ e c m, goal' (.error e) m → ∀ t rest, (holdings env base start own).Holds m rest t →
      Turns env base start own goal rest (handle e) c t) :
    Turns env base start own goal rest (tryCatch f handle) c s :=
  turns_iff.2 ((turns_iff.1 h).tryCatch (fun v _ => hv v) hh)

/-- Work that never gives up a record. -/
class Minds (env : Setting) (base start : World) (own : String) (f : Flow α) : Prop where
  turns : ∀ c m s rest, (holdings env base start own).Holds m rest s →
    Turns env base start own (fun _ m' => m ≤ m') rest f c s

theorem Minds.before {f : Flow β} {g : β → Flow α} [hf : Minds env base start own f]
    (hs : (holdings env base start own).Holds m rest s)
    (hg : ∀ v c m', m ≤ m' → ∀ t rest, (holdings env base start own).Holds m' rest t →
      Turns env base start own (fun _ m' => m ≤ m') rest (g v) c t) :
    Turns env base start own (fun _ m' => m ≤ m') rest (f >>= g) c s :=
  (hf.turns c m s rest hs).bind hg fun _ _ h => h

section Combinators

variable {f : Flow α} {g : α → Flow β}

theorem minds_done (h : ∀ c s, ∃ out c', f c s = (.done (out, c'), s)) : Minds env base start own f := by
  refine ⟨fun c m s rest hs => ?_⟩
  obtain ⟨out, c', hf⟩ := h c s
  exact turns_done hf hs le_rfl

instance (v : α) : Minds env base start own (pure v : Flow α) := minds_done fun c _ => ⟨.ok v, c, rfl⟩

instance (e : Failure) : Minds env base start own (throw e : Flow α) := minds_done fun c _ => ⟨.error e, c, rfl⟩

instance : Minds env base start own (get : Flow Context) := minds_done fun c _ => ⟨.ok c, c, rfl⟩

instance (change : Context → Context) : Minds env base start own (modify change : Flow PUnit) :=
  minds_done fun c _ => ⟨.ok ⟨⟩, change c, rfl⟩

instance (result : Except Failure α) : Minds env base start own (Failure.of result : Flow α) :=
  minds_done fun c _ => ⟨result, c, by cases result <;> rfl⟩

instance {ε : Type} (cause : ε → Failure) (result : Except ε α) :
    Minds env base start own (Failure.ofExcept cause result : Flow α) :=
  minds_done fun c _ => ⟨result.mapError cause, c, by cases result <;> rfl⟩

instance [hf : Minds env base start own f] [hg : ∀ v, Minds env base start own (g v)] :
    Minds env base start own (f >>= g) :=
  ⟨fun _ _ _ _ hs => Minds.before hs fun v c m' hm t rest' ht =>
    ((hg v).turns c m' t rest' ht).mono fun _ _ h => le_trans hm h⟩

theorem minds_ofExcept_bind {ε : Type} {cause : ε → Failure} {result : Except ε α}
    (h : ∀ v, result = .ok v → Minds env base start own (g v)) :
    Minds env base start own (Failure.ofExcept cause result >>= g) := by
  cases result with
  | error e => exact inferInstanceAs (Minds env base start own (throw (cause e) : Flow β))
  | ok v => exact h v rfl

instance [hf : Minds env base start own f] : Minds env base start own (discard f) :=
  ⟨fun c m s rest hs => Turns.discard (hf.turns c m s rest hs)⟩

instance [hf : Minds env base start own f] : Minds env base start own (Failure.outcome f) :=
  ⟨fun c m s rest hs => Turns.outcome (hf.turns c m s rest hs)⟩

instance {handle : Failure → Flow α} [hf : Minds env base start own f] [hh : ∀ e, Minds env base start own (handle e)] :
    Minds env base start own (tryCatch f handle) :=
  ⟨fun c m s rest hs => Turns.tryCatch (hf.turns c m s rest hs) (fun _ _ h => h) fun e c' m' hm t rest' ht =>
    ((hh e).turns c' m' t rest' ht).mono fun _ _ h => le_trans hm h⟩

instance {handle : Failure → Flow α} [hf : Minds env base start own f] [hh : ∀ e, Minds env base start own (handle e)] :
    Minds env base start own (Failure.handling f handle) := by
  have hpass (e : Failure) : Minds env base start own (if e.isExit then throw e else handle e) := by
    cases e.isExit with
    | true => exact inferInstanceAs (Minds env base start own (throw e : Flow α))
    | false => exact hh e
  unfold Failure.handling
  infer_instance

instance {p : Prop} [Decidable p] {f g : Flow α} [Minds env base start own f] [Minds env base start own g] :
    Minds env base start own (if p then f else g) := by
  split <;> infer_instance

instance {ι : Type} {items : List ι} {each : ι → Flow PUnit} [∀ item, Minds env base start own (each item)] :
    Minds env base start own (items.forM each) := by
  induction items with
  | nil => exact inferInstanceAs (Minds env base start own (pure ⟨⟩ : Flow PUnit))
  | cons first rest ih => exact inferInstanceAs (Minds env base start own (each first >>= fun _ => rest.forM each))

theorem minds_lift {p : Process Stage α} (h : ∀ m s rest, (holdings env base start own).Holds m rest s →
    OwnsTurn (holdings env base start own) (fun _ m' => m ≤ m') rest (p s)) :
    Minds env base start own (liftM p : Flow α) :=
  ⟨fun _ m s rest hs => turns_iff.2 (turn_lift (h m s rest hs) fun _ _ h => h)⟩

instance (account : Account) (step : String) (moment : Moment) :
    Minds env base start own (Run.wait env account step moment) := by
  refine ⟨fun c m s rest hs => turns_iff.2 ((turn_wait hs).mono ?_)⟩
  rintro out c' m' ⟨-, -, rfl⟩
  exact le_rfl

theorem minds_onLedger {action : Act Stage α} (hw : ∀ s, (action s).2.world = s.world) :
    Minds env base start own (Run.onStage action) := by
  refine ⟨fun c m s rest hs => turns_done (t := (action s).2) rfl ⟨trivial, ?_, ?_⟩ le_rfl⟩
  · exact hs.fit.next (by rw [hw])
  · show ((action s).2.world.store.records : Multiset StepRecord) = _
    rw [hw]
    exact hs.whole

instance (action : Act World α) [ha : Act.Follows (Tends env base (.ofSteps own)) action] :
    Minds env base start own (Run.onWorld action) := by
  refine ⟨fun c m s rest hs => ?_⟩
  obtain ⟨hpath, hrecords⟩ := ha.within s.world hs.fit.ready
  refine turns_done (t := { s with world := (action s.world).2 }) rfl ⟨trivial, hs.fit.next hpath, ?_⟩ le_rfl
  show ((action s.world).2.store.records : Multiset StepRecord) = _
  rw [hrecords]
  exact hs.whole

end Combinators

/-! Records -/

theorem Turns.wait_bind {account : Account} {step : String} {moment : Moment} {g : Unit → Flow α}
    (hs : (holdings env base start own).Holds m rest s)
    (h : ∀ t rest, (holdings env base start own).Holds m rest t → Turns env base start own goal rest (g ⟨⟩) c t) :
    Turns env base start own goal rest (Run.wait env account step moment >>= g) c s :=
  turns_iff.2 (turn_wait_bind hs h)

theorem Turns.get_bind {g : Context → Flow α} (h : Turns env base start own goal rest (g c) c s) :
    Turns env base start own goal rest (get >>= g) c s := h

theorem Turns.now_bind {g : Time → Flow α} (h : Turns env base start own goal rest (g s.world.time) c s) :
    Turns env base start own goal rest (Run.onWorld World.now >>= g) c s := h

/-- What a request for a record comes to. -/
inductive Drawn (own step : String) (m : Multiset StepRecord) : Except Failure StepRecord → Multiset StepRecord → Prop
  | refused {f : Failure} : Drawn own step m (.error f) m
  | drawn {r : StepRecord} (new : r = { id := r.id, execution := own, step }) : Drawn own step m (.ok r) ({r} + m)

theorem turns_createStep {step : String} (hs : (holdings env base start own).Holds m rest s) :
    Turns env base start own (Drawn own step m) rest (Run.onWorld (World.createStep env own step)) c s := by
  obtain ⟨hpath, hmade⟩ : Path env base (.ofSteps own) s.world (World.createStep env own step s.world).2 ∧
      Made own step s.world (World.createStep env own step s.world) :=
    made_createStep rfl (hs.fit.ready.fresh.given hs.fit.there) hs.fit.ready
  let t : Stage := { s with world := (World.createStep env own step s.world).2 }
  have hdone : Run.onWorld (World.createStep env own step) c s =
    (.done ((World.createStep env own step s.world).1, c), t) := rfl
  have hfit : t.OnPath env base start own := hs.fit.next hpath
  have hwhole : (s.world.store.records : Multiset StepRecord) = m + rest := hs.whole
  generalize hout : World.createStep env own step s.world = out at hmade
  cases hmade with
  | @refused f w' records =>
    rw [hout] at hdone
    refine turns_done hdone ⟨trivial, hfit, ?_⟩ .refused
    show (t.world.store.records : Multiset StepRecord) = _
    rw [show t.world = w' from congrArg Prod.snd hout, records, hwhole]
  | @made r w' new records =>
    rw [hout] at hdone
    refine turns_done hdone ⟨trivial, hfit, ?_⟩ (.drawn new)
    show (t.world.store.records : Multiset StepRecord) = _
    rw [show t.world = w' from congrArg Prod.snd hout, records, ← Multiset.coe_add, hwhole, add_comm, add_assoc]
    rfl

theorem turns_updateStep {r : StepRecord} {p : StepPatch} (hr : r.execution = own)
    (hs : (holdings env base start own).Holds ({r} + m) rest s)
    (hturn : ∀ r', p.Wrote r r' → r.Turn s.world.time r') :
    Turns env base start own (fun out m' => ∃ r', m' = {r'} + m ∧ ∀ v, out = .ok v → p.Wrote r r') rest
      (Run.onWorld (World.updateStep env r.id (.ok p))) c s := by
  have hwhole : (s.world.store.records : Multiset StepRecord) = {r} + m + rest := hs.whole
  have hmem : r ∈ s.world.store.records := by
    rw [← Multiset.mem_coe, hwhole, add_assoc]
    exact Multiset.mem_add.2 (.inl (Multiset.mem_singleton_self r))
  obtain ⟨hpath, hwritten⟩ : Path env base (.ofSteps own) s.world (World.updateStep env r.id (.ok p) s.world).2 ∧
      Written r p s.world (World.updateStep env r.id (.ok p) s.world) :=
    written_updateStep hr hmem hturn hs.fit.ready
  let t : Stage := { s with world := (World.updateStep env r.id (.ok p) s.world).2 }
  have hdone : Run.onWorld (World.updateStep env r.id (.ok p)) c s =
    (.done ((World.updateStep env r.id (.ok p) s.world).1, c), t) := rfl
  have hfit : t.OnPath env base start own := hs.fit.next hpath
  generalize hout : World.updateStep env r.id (.ok p) s.world = out at hwritten
  cases hwritten with
  | @refused f w' records =>
    rw [hout] at hdone
    refine turns_done (m := {r} + m) hdone ⟨trivial, hfit, ?_⟩ ⟨r, rfl, fun _ => nofun⟩
    show (t.world.store.records : Multiset StepRecord) = _
    rw [show t.world = w' from congrArg Prod.snd hout, records, hwhole]
  | @wrote r' out w' wrote records =>
    rw [hout] at hdone
    refine turns_done (m := {r'} + m) hdone ⟨trivial, hfit, ?_⟩ ⟨r', rfl, fun _ _ => wrote⟩
    show (t.world.store.records : Multiset StepRecord) = _
    have hreplaced := World.replaced_records r' hs.fit.ready.fresh.keyed.distinct hmem
    rw [← records, hwhole, add_assoc, add_left_comm] at hreplaced
    rw [show t.world = w' from congrArg Prod.snd hout, add_left_cancel hreplaced, add_assoc]

end Flow

namespace StepRecord

variable {now : Time} {r r' : StepRecord}

theorem turn_started (was : r.status = .pending)
    (h : ({ status := some .running, startedAt := some (some now) } : StepPatch).Wrote r r') : r.Turn now r' := by
  refine .started was ?_
  have hnamed := h.named rfl
  rwa [h.output rfl, h.error rfl] at hnamed

theorem turn_completed {cost : Float} {output : Option Snapshot} (was : r.status = .running)
    (h : ({ status := some .completed, completedAt := some (some now), cost := some (.real cost), output } : StepPatch).Wrote
      r r') : r.Turn now r' := by
  refine .completed was ?_
  have hnamed := h.named rfl
  rwa [h.error rfl] at hnamed

theorem turn_failed {cost : Float} {text : String} (was : r.status = .running)
    (h : ({ status := some .failed, completedAt := some (some now), cost := some (.real cost),
            error := some (.str text) } : StepPatch).Wrote r r') : r.Turn now r' := by
  refine @Turn.failed now r r' text was ?_
  have hnamed := h.named rfl
  rwa [h.output rfl, h.text text rfl] at hnamed

theorem turn_skipped (was : r.status = .pending)
    (h : ({ status := some .skipped, completedAt := some (some now), cost := some (.real 0.0) } : StepPatch).Wrote r r') :
    r.Turn now r' := by
  have hcost : r'.cost = .real 0.0 := by
    rcases h.real 0.0 rfl with hr | hr
    · exact hr
    · rw [hr, Number.add_zero Ledger.zero_ne_neg_zero]
  refine .skipped was ?_
  have hnamed := h.named rfl
  rwa [h.output rfl, h.error rfl, hcost] at hnamed

end StepRecord

namespace Run

open Conductor.Flow

variable {env : Setting} {base start : World} {own : String} {rest m : Multiset StepRecord} {c : Context} {s : Stage}

instance (step : String) (output : Output) (key : Option String) : Minds env base start own (record step output key) := by
  unfold record
  infer_instance

instance : Minds env base start own view := by
  unfold view
  infer_instance

instance (account : Account) : Minds env base start own (spent account) := minds_onLedger fun _ => rfl

instance (account : Account) (amount : Float) : Minds env base start own (charge account amount) :=
  minds_onLedger fun _ => rfl

instance (account : Account) (count : Nat) : Minds env base start own (openAccounts account count) :=
  minds_onLedger fun _ => rfl

instance (id : String) (sources : List String) (how : Combine) (key : String) :
    Minds env base start own (aggregate id sources how key) := by
  unfold aggregate
  infer_instance

instance (id : String) (fields : Members) (key : String) : Minds env base start own (transform id fields key) := by
  unfold transform
  infer_instance

instance (id : String) (rules : List Rule) : Minds env base start own (validate id rules) := by
  unfold validate
  infer_instance

instance (outputs : Assoc Output) (b : BranchEnd) : Minds env base start own (join outputs b) := by
  unfold join
  cases b.outcome <;> dsimp only <;> infer_instance

instance (id : String) (ends : List BranchEnd) : Minds env base start own (joinAll id ends) := by
  have hfold (outputs : Assoc Output) : Minds env base start own (ends.foldlM join outputs) := by
    induction ends generalizing outputs with
    | nil => exact inferInstanceAs (Minds env base start own (pure outputs))
    | cons first rest ih => exact inferInstanceAs (Minds env base start own (join outputs first >>= fun _ => _))
  have hend (found : Option Failure) (outputs : Assoc Output) : Minds env base start own (match found with
      | some f => throw (.stepFailed id f.message)
      | none => do
        record id (.ofEntries outputs) none
        return .ofEntries outputs : Flow Output) := by
    cases found <;> infer_instance
  unfold joinAll
  infer_instance

instance (execution step : String) : Minds env base start own (noteStart execution step) := by
  have hnote (context : Context) : Act.Follows (World.Tends env base (.ofSteps own))
      (get >>= fun w => World.note (.started execution step context w.store) : Act World Unit) := inferInstance
  unfold noteStart
  infer_instance

instance {α : Type} (execution step : String) (action : Flow α) [Minds env base start own action] :
    Minds env base start own (within execution step action) := by
  unfold within
  infer_instance

instance (account : Account) (id agent operation : String) (input : Members) :
    Minds env base start own (call env account id agent operation input) := by
  have hasked (script : Script) (hget : env.agents.get agent operation = .ok script) : Minds env base start own (do
      let payload ← Failure.ofExcept .expression (Template.resolveOutput (← view) input)
      let number ← onWorld do return (← get).calls.length
      let outcome ← Failure.outcome (onWorld (World.invoke env agent operation script payload.value))
      return (payload, ⟨number, outcome⟩) : Flow (Output × CallEnd)) := by
    have hinvoke (payload : Json) : Act.Follows (Tends env base (.ofSteps own))
        (World.invoke env agent operation script payload) := follows_invoke hget payload
    infer_instance
  have hfound : Minds env base start own (Failure.ofExcept .lookup (env.agents.get agent operation) >>= _) :=
    minds_ofExcept_bind hasked
  exact inferInstanceAs (Minds env base start own (wait env account id .call >>= fun _ => _ >>= _))

instance (account : Account) (id key : String) (payload : Output) (answer : CallEnd) :
    Minds env base start own (settle env account id key payload answer) := by
  unfold settle
  infer_instance

instance (account : Account) (id agent operation : String) (input : Members) (key : String) :
    Minds env base start own (callAgent env account id agent operation input key) := by
  unfold callAgent
  infer_instance

/-! Records -/

theorem turns_finish {account : Account} {step : String} {r : StepRecord} {status : StepStatus} {cost : Float} {output : Output} {error : Option String}
    (hr : r.execution = own) (hs : (holdings env base start own).Holds ({r} + m) rest s)
    (hturn : ∀ now snapshot r', ({
      status := some status, completedAt := some (some now), cost := some (.real cost)
      output := if output.value.isNull then none else some snapshot
      error := error.map .str } : StepPatch).Wrote r r' → r.Turn now r') :
    Turns env base start own (fun _ m' => m ≤ m') rest (finish env account step r.id status cost output error) c s := by
  rw [finish]
  refine Turns.wait_bind hs fun t rest ht => Turns.now_bind (Turns.get_bind (Turns.discard ?_))
  refine (turns_updateStep (c := c) hr ht fun r' => hturn t.world.time (c.snapshot output) r').mono ?_
  rintro out _ ⟨r', rfl, -⟩
  exact Multiset.le_add_left _ _

theorem turns_conclude {step : String} {r : StepRecord} {account : Account} {before : Float} {out : Except Failure Output}
    (hr : r.execution = own) (hwas : r.status = .running)
    (hs : (holdings env base start own).Holds ({r} + m) rest s) :
    Turns env base start own (fun _ m' => m ≤ m') rest (conclude env account step r.id before out) c s := by
  have hspent {α : Type} {g : Float → Flow α}
      (h : ∀ total, Turns env base start own (fun _ m' => m ≤ m') rest (g total) c s) :
      Turns env base start own (fun _ m' => m ≤ m') rest (spent account >>= g) c s := h _
  cases out with
  | ok output =>
    refine hspent fun total => ?_
    refine (turns_finish (c := c) hr hs fun now snapshot r' h => StepRecord.turn_completed hwas h).bind ?_ fun _ _ h => h
    intro _ c m' hm t rest' ht
    exact turns_done rfl ht hm
  | error f =>
    rw [conclude]
    split_ifs
    · exact turns_done rfl hs (Multiset.le_add_left _ _)
    refine hspent fun total => ?_
    refine (turns_finish (c := c) hr hs fun now snapshot r' h => StepRecord.turn_failed hwas h).bind ?_ fun _ _ h => h
    intro _ c m' hm t rest' ht
    exact turns_done rfl ht hm

/-- A record that is left running is one's own to end. -/
theorem turns_body {step : String} {r : StepRecord} {account : Account} {body : Flow Output} [Minds env base start own body]
    (hr : r.execution = own) (hwas : r.status = .running)
    (hs : (holdings env base start own).Holds ({r} + m) rest s) :
    Turns env base start own (fun _ m' => m ≤ m') rest (do
      let before ← spent account
      conclude env account step r.id before (← Failure.outcome body)) c s := by
  have hkept {m' : Multiset StepRecord} (h : {r} + m ≤ m') : m ≤ m' := (Multiset.le_add_left _ _).trans h
  refine (Minds.turns c _ s rest hs).bind (fun before c m₁ hm₁ t rest ht => ?_) fun _ _ => hkept
  refine (Minds.turns c _ t rest ht).bind (fun out c m₂ hm₂ t rest ht => ?_) fun _ _ h => hkept (hm₁.trans h)
  obtain ⟨more, rfl⟩ := Multiset.le_iff_exists_add.1 (hm₁.trans hm₂)
  rw [add_assoc] at ht
  exact (turns_conclude hr hwas ht).mono fun _ _ h => (Multiset.le_add_right _ _).trans h

theorem turns_start {r : StepRecord} (hr : r.execution = own) (hwas : r.status = .pending)
    (hs : (holdings env base start own).Holds ({r} + m) rest s) :
    Turns env base start own
      (fun out m' => ∃ r', m' = {r'} + m ∧ ∀ v, out = .ok v → r'.id = r.id ∧ r'.execution = own ∧ r'.status = .running) rest
      (discard (onWorld (World.updateStep env r.id
        (.ok { status := some .running, startedAt := some (some s.world.time) })))) c s := by
  have hupdate := turns_updateStep (c := c) hr hs fun r' => StepRecord.turn_started hwas
  refine Turns.discard (hupdate.mono ?_)
  rintro out _ ⟨r', rfl, hwrote⟩
  refine ⟨r', rfl, fun _ hout => ?_⟩
  cases out with
  | error e => cases hout
  | ok v =>
    rw [(hwrote v rfl).named rfl]
    exact ⟨rfl, hr, rfl⟩

theorem turns_carryOut {account : Account} {step : String} {r : StepRecord} {body : Flow Output}
    [Minds env base start own body] (hr : r.execution = own) (hwas : r.status = .pending)
    (hs : (holdings env base start own).Holds ({r} + m) rest s) :
    Turns env base start own (fun _ m' => m ≤ m') rest (carryOut env account step r.id body) c s := by
  unfold carryOut
  refine Turns.wait_bind hs fun t rest ht => Turns.now_bind ((turns_start hr hwas ht).bind ?_ ?_)
  · rintro v c _ ⟨r', rfl, hrunning⟩ t rest ht
    obtain ⟨hid, hown, hwas⟩ := hrunning v rfl
    rw [← hid]
    exact turns_body hown hwas ht
  · rintro e _ ⟨r', rfl, -⟩
    exact Multiset.le_add_left _ _

instance (account : Account) (step : String) (body : Flow Output) [Minds env base start own body] :
    Minds env base start own (attempt env own account step body) := by
  refine ⟨fun c m s rest hs => ?_⟩
  unfold attempt
  refine Turns.wait_bind hs fun s rest hs => ?_
  refine (turns_createStep hs).bind (fun r c _ hdrawn t rest ht => ?_) fun e m' h => ?_
  · obtain ⟨⟩ | hnew := hdrawn
    have hkept {m' : Multiset StepRecord} (h : {r} + m ≤ m') : m ≤ m' := (Multiset.le_add_left _ _).trans h
    refine (Minds.turns c _ t rest ht).bind (fun _ c m₁ hm₁ t rest ht => ?_) fun _ _ => hkept
    obtain ⟨more, rfl⟩ := Multiset.le_iff_exists_add.1 hm₁
    rw [add_assoc] at ht
    exact (turns_carryOut (by rw [hnew]) (by rw [hnew]) ht).mono fun _ _ h => (Multiset.le_add_right _ _).trans h
  · cases h
    exact le_rfl

instance (account : Account) (step : String) (body : Flow Output) [Minds env base start own body] :
    Minds env base start own (recorded env own account step body) := by
  unfold recorded
  infer_instance

instance (account : Account) (step : String) : Minds env base start own (skip env own account step) := by
  refine ⟨fun c m s rest hs => ?_⟩
  unfold skip
  refine Turns.wait_bind hs fun s rest hs => (turns_createStep hs).bind (fun r c _ hdrawn t rest ht => ?_) fun e m' h => ?_
  · obtain ⟨⟩ | hnew := hdrawn
    refine Turns.wait_bind ht fun t rest ht => ?_
    have hskipped := turns_updateStep (c := c) (by rw [hnew]) ht fun r' => StepRecord.turn_skipped (by rw [hnew])
    refine Turns.now_bind (Turns.discard (hskipped.mono ?_))
    rintro out _ ⟨r', rfl, -⟩
    exact Multiset.le_add_left _ _
  · cases h
    exact le_rfl

instance (account : Account) (steps : List Step) : Minds env base start own (skipAll env own account steps) := by
  unfold skipAll
  infer_instance

/-! Steps -/

/-- Branches that have nothing when they begin leave what there is to the others. -/
def Begins (env : Setting) (base start : World) (own : String) {α : Type} (r : Round Stage α) : Prop :=
  r.Owns (holdings env base start own) (fun _ _ => True) 0

theorem drifts_free {α : Type} (r : Round Stage α) : r.Drifts (holdings env base start own).toWeather :=
  Round.safe_free r

theorem begins_onFork {fork : Context} {step : Step} {action : Flow StepResult}
    [h : Minds env base start own action] : Begins env base start own (.go (onFork fork step action)) := by
  refine Round.owns_go.2 fun s rest hs => ?_
  refine Round.OwnsTurn.bind (h.turns fork 0 s rest hs) (fun out m _ t rest' ht => ?_) fun _ _ => trivial
  exact Round.ownsTurn_iff.2 fun _ => ⟨m, ht, Round.owns_done.2 trivial⟩

theorem begins_all {ps : List (Process Stage BranchEnd)} (h : ∀ p ∈ ps, Begins env base start own (.go p)) :
    Begins env base start own (Round.all (ps.map Round.go)) := by
  induction ps with
  | nil => exact Round.owns_done.2 trivial
  | cons p rest ih =>
    have hfirst := h p List.mem_cons_self
    have hrest := ih fun q hq => h q (List.mem_cons_of_mem _ hq)
    have hboth := hfirst.both hrest (drifts_free _) (drifts_free _)
    rw [add_zero] at hboth
    exact Round.Owns.map (hboth.mono fun _ _ _ => trivial)

theorem minds_all {ps : List (Process Stage BranchEnd)} (h : ∀ p ∈ ps, Begins env base start own (.go p)) :
    Minds env base start own (liftM (Process.all ps) : Flow (List BranchEnd)) := by
  refine minds_lift fun m s rest hs => Process.ownsTurn_all ?_ hs
  have hframe := (begins_all h).frame m
  rw [zero_add] at hframe
  refine hframe.mono ?_
  rintro _ _ ⟨m', rfl, -⟩
  exact Multiset.le_add_left _ _

mutual

theorem minds_step (account : Account) (step : Step) : Minds env base start own (Run.step env own account step) := by
  cases step with
  | agent id agent operation input key =>
    rw [Run.step]
    infer_instance
  | condition id test whenTrue whenFalse =>
    have htrue := minds_sequence account [] whenTrue
    have hfalse := minds_sequence account [] whenFalse
    rw [Run.step]
    infer_instance
  | parallel id steps =>
    have hall (fork : Context) (first : Nat) := minds_all (begins_branches fork account first steps)
    rw [Run.step]
    infer_instance
  | aggregate id sources how key =>
    rw [Run.step]
    infer_instance
  | transform id fields key =>
    rw [Run.step]
    infer_instance
  | validate id rules =>
    rw [Run.step]
    infer_instance

theorem minds_sequence (account : Account) (outputs : Assoc Output) (steps : List Step) :
    Minds env base start own (sequence env own account outputs steps) := by
  cases steps with
  | nil =>
    rw [sequence]
    infer_instance
  | cons first rest =>
    have hfirst := minds_step account first
    have hrest (outputs : Assoc Output) := minds_sequence account outputs rest
    rw [sequence]
    infer_instance

theorem begins_branches (fork : Context) (account : Account) (n : Nat) (steps : List Step) :
    ∀ p ∈ branches env own fork account n steps, Begins env base start own (.go p) := by
  cases steps with
  | nil => exact fun p hp => by simp [branches] at hp
  | cons first rest =>
    intro p hp
    rw [branches, List.mem_cons] at hp
    rcases hp with rfl | hp
    · have hfirst := minds_step (n :: account) first
      exact begins_onFork
    · exact begins_branches fork account (n + 1) rest p hp

end

instance (steps : List Step) : Minds env base start own (Engine.runSteps env own steps) := by
  induction steps with
  | nil => exact inferInstanceAs (Minds env base start own (pure ⟨⟩ : Flow Unit))
  | cons step rest ih =>
    have hstep : Minds env base start own (Run.step env own [] step) := minds_step [] step
    rw [Engine.runSteps]
    infer_instance

end Run

theorem Flow.Minds.exec {env : Setting} {base : World} {own : String} {α : Type} {f : Flow α} {c : Context} {s : Stage}
    (h : Minds env base s.world own f) (hr : World.Ready base s.world)
    (hat : s.world.store.At own [.running, .cancelled]) :
    (f.exec c s).2.OnPath env base s.world own := by
  have hholds : (holdings env base s.world own).Holds 0 s.world.store.records s :=
    ⟨trivial, ⟨.refl, hr, hat⟩, (zero_add _).symm⟩
  have hsafe : Round.SafeTurn (holdings env base s.world own).drift (fun _ _ => True) (f c s) s :=
    Round.safeTurn_iff.2 ⟨trivial, Run.drifts_free _ _⟩
  obtain ⟨m, hm, -⟩ := Process.ownsTurn_run (h.turns c 0 s _ hholds) hsafe trivial
  exact hm.fit

end Conductor
