import Conductor.Proofs.Run.Frame
import Conductor.Proofs.Run.Growth

/-! The course of a run around its steps. A run is made with no records; what comes before its steps
and after them updates runs and looks at them, and so the steps decide what is noted. -/

namespace Conductor

namespace Scope

/-- A scope that takes in every deed on runs. -/
structure TakesRuns (scope : Scope) : Prop where
  created : ∀ id, scope.deed (.create id)
  updated : ∀ id p expected, scope.deed (.update id p expected)

theorem TakesRuns.others {scope : Scope} (h : scope.TakesRuns) : others ≤ scope := by
  refine ⟨fun deed hd => ?_, fun event he => he.elim⟩
  obtain ⟨id, now, rfl⟩ := hd
  exact h.updated _ _ _

/-- Whatever leaves the records of steps alone. -/
theorem TakesRuns.quiet {scope : Scope} (h : scope.TakesRuns) : onRuns ≤ scope := by
  refine ⟨fun deed hd => ?_, fun event he => he.elim⟩
  cases deed with
  | create id => exact h.created id
  | update id p expected => exact h.updated id p expected
  | record execution step => exact absurd rfl (hd execution step)

theorem takesRuns_onRuns : onRuns.TakesRuns := ⟨fun _ _ _ => nofun, fun _ _ _ _ _ => nofun⟩

end Scope

namespace World

theorem works_createExecution {scope : Scope} (h : scope.TakesRuns) (env : Setting) (workflow : String)
    (input : Json) : Act.Within (Works scope) (createExecution env workflow input) := by
  intro w hw
  rcases createExecution_cases env hw workflow input with
    ⟨f, t, hout, ht⟩ | ⟨mid, made, e, hmid, hmake, hout⟩
  · rw [hout]
    exact ht.works.mono h.others hw
  · have hmade : Works scope mid made := by
      intro hm
      refine ⟨hmake.sound hm, ?_, [], hmake.journal, by simp⟩
      exact .asked (.refl mid) (.did (h.created e.id) (.created (hmake.fresh hm) hmake.pending hmake.replaced))
        hmake.past
    have hgone : Works scope w made := IsTrans.trans _ _ _ (hmid.others.mono h.others) hmade
    rcases hout with hout | ⟨out, hu, hout⟩
    · rw [hout]
      exact hgone hw
    · rw [hout]
      refine IsTrans.trans _ _ _ hgone (fun hm => ?_) hw
      exact ⟨hm.updated rfl hu rfl, .asked (.refl made) (change_of_updated (h.updated _ _ _) hu) rfl, [], rfl,
        by simp⟩

end World

namespace Engine

open World

/-! What a run writes to its own record -/

/-- When it starts. -/
def startPatch (now : Time) : ExecutionPatch := { status := some .running, startedAt := some (some now) }

/-- When its steps have ended, together with its results. -/
def endPatch (results : ExecutionPatch) (status : RunStatus) (error : Option String) (now : Time) : ExecutionPatch :=
  { results with status := some status, completedAt := some (some now), error := error.map .str }

/-- When it broke off. -/
def breakPatch (f : Failure) (now : Time) : ExecutionPatch :=
  { status := some .failed, error := some (.str f.message), completedAt := some (some now) }

section

variable {env : Setting} {own : String}

theorem start_apply (w : World) : start env own w =
    (World.updateExecution env own (.ok (startPatch w.time)) (some [.pending]) >>= fun started =>
      pure started.isSome) w := by
  rw [start, Act.bind_apply, now_apply, Act.andThen_ok]
  rfl

theorem conclude_apply (results : ExecutionPatch) (status : RunStatus) (error : Option String) (w : World) :
    conclude env own status error results w =
      (World.updateExecution env own (.ok (endPatch results status error w.time)) (some [.running]) >>=
        fun updated => do
          if updated.isNone then
            discard (World.updateExecution env own (.ok results) none)
          World.getExecution env own) w := by
  rw [conclude, Act.bind_apply, now_apply, Act.andThen_ok]
  rfl

theorem abort_apply (f : Failure) (w : World) : abort env own f w =
    Failure.handling (discard (World.updateExecution env own (.ok (breakPatch f w.time)) (some RunStatus.active)))
      (fun _ => return) w := by
  rw [abort, Act.bind_apply, now_apply, Act.andThen_ok]
  rfl

theorem abort_snd (f : Failure) (w : World) : (abort env own f w).2 =
    (World.updateExecution env own (.ok (breakPatch f w.time)) (some RunStatus.active) w).2 := by
  rw [abort_apply, Act.handling_apply, Act.discard_apply]
  rcases World.updateExecution env own (.ok (breakPatch f w.time)) (some RunStatus.active) w with ⟨x | v, t⟩
  · dsimp only [Except.map]
    split_ifs <;> rfl
  · rfl

/-- That a run cannot be marked as failed matters only when it is an exit. -/
theorem abort_fails {f x : Failure} {w t : World} (h : abort env own f w = (.error x, t)) :
    x.isExit = true ∧
      (World.updateExecution env own (.ok (breakPatch f w.time)) (some RunStatus.active) w).1 = .error x := by
  rw [abort_apply, Act.handling_apply, Act.discard_apply] at h
  rcases hout : World.updateExecution env own (.ok (breakPatch f w.time)) (some RunStatus.active) w with ⟨y | v, t'⟩
  · rw [hout] at h
    dsimp only [Except.map] at h
    split_ifs at h with hexit
    · cases h
      exact ⟨hexit, rfl⟩
    · cases h
  · rw [hout] at h
    cases h

end

variable (env : Setting) {own : String} {scope : Scope}

/-- A run that has a record and is about to take its first step. -/
structure Begun (own : String) (w : World) : Prop where
  under : Run.Under own w
  bare : ∀ r ∈ w.store.records, r.execution ≠ own

theorem Begun.onRuns {a b : World} (h : Begun own a) (hw : Works .onRuns a b) : Begun own b := by
  refine ⟨Run.lasting_under _ own _ _ hw h.under, fun r hr => h.bare r ?_⟩
  rwa [← (hw h.under.1).leads.records_eq]

/-- Every record belongs to a run, so a run that is new has none. -/
theorem begun_createExecution {w t : World} (hw : w.Sound) {workflow : String} {input : Json} {e : Execution}
    (h : World.createExecution env workflow input w = (.ok e, t)) : Begun e.id t := by
  rcases createExecution_cases env hw workflow input with
    ⟨f, t', hout, _⟩ | ⟨mid, made, e', hmid, hmake, hout⟩
  · rw [h] at hout
    cases hout
  · have hm := (hmid.works hw).sound
    have hmade : Begun e'.id made := by
      refine ⟨⟨hmake.sound hm, ?_⟩, fun r hr he => ?_⟩
      · rw [Has, hmake.replaced.execution?, if_pos rfl]
        rfl
      · have howned := hm.owned r (hmake.replaced.records ▸ hr)
        rw [he, hmake.fresh hm] at howned
        cases howned
    rcases hout with hout | ⟨out, hu, hout⟩
    · rw [h] at hout
      cases hout
      exact hmade
    · have hgone : Begun e'.id (made.asked out) := by
        refine hmade.onRuns fun hs => ?_
        have hchange := change_of_updated (Scope.takesRuns_onRuns.updated _ _ _) hu
        exact ⟨hs.updated rfl hu rfl, .asked (.refl made) hchange rfl, [], rfl, by simp⟩
      rw [h] at hout
      rcases out with ⟨f | found, t'⟩ <;> cases hout
      exact hgone

theorem keeps_runSteps {scope : Scope} {fine : String → Failure → Prop} (hc : Run.Covers scope own fine)
    (steps : List Step) (hf : ∀ inner ∈ Step.flatAll steps, Run.FailsFinely env fine inner) :
    Run.Keeps (Run.Under own) scope (·.isPlain = true) (runSteps env own steps) := by
  induction steps with
  | nil => exact Run.keeps_pure _
  | cons step rest ih =>
    have hstep := Run.keeps_step hc [] step fun inner hi => hf inner (by simp [Step.flatAll, hi])
    have hrest := ih fun inner hi => hf inner (by simp [Step.flatAll, hi])
    have hlook (w : World) : Reports scope w (World.findExecution env own w).2 :=
      (within_findExecution Scope.le_rfl own w).reports_of_others hc.others
    refine (Run.keeps_onWorld (Run.lasting_under scope own) (fun w _ => hlook w)
      fun w e he => plainly_findExecution own w e he).bind fun current => ?_
    split
    · exact Run.keeps_pure _
    · exact hstep.discard.bind fun _ => hrest

theorem within_start (h : scope.TakesRuns) (id : String) : Act.Within (Works scope) (start env id) :=
  within_now.bind fun _ =>
    (within_updateExecution h.others rfl (h.updated _ _ _)).bind fun _ => Act.within_pure _

theorem within_conclude (h : scope.TakesRuns) (id : String) (status : RunStatus) (error : Option String)
    (c : Context) (total : Float) :
    Act.Within (Works scope) (conclude env id status error (results c total)) := by
  have hget : Act.Within (Works scope) (World.getExecution env id) := within_getExecution h.others id
  have hresults : Act.Within (Works scope) (World.updateExecution env id (.ok (results c total)) none) :=
    within_updateExecution h.others rfl (h.updated _ _ _)
  refine within_now.bind fun now => ?_
  refine (within_updateExecution h.others rfl (h.updated _ _ _)).bind fun updated => ?_
  cases updated with
  | some e => exact hget
  | none => exact hresults.discard.bind fun _ => hget

theorem within_abort (h : scope.TakesRuns) (id : String) (f : Failure) :
    Act.Within (Works scope) (abort env id f) := by
  intro w
  rw [abort_snd]
  exact within_updateExecution h.others rfl (h.updated _ _ _) w

theorem works_finish (h : scope.TakesRuns) (id : String) (status : RunStatus) (error : Option String)
    (c : Context) (s : Stage) : Works scope s.world ((finish env id status error).exec c s).2.world :=
  within_conclude env h id status error c (s.ledger.total []) s.world

/-- The status that a run ends with, unless it was cancelled. -/
def endStatus : Except Failure Unit → RunStatus
  | .ok _ => .completed
  | .error _ => .failed

theorem endStatus_eq (out : Except Failure Unit) : endStatus out = .completed ∨ endStatus out = .failed := by
  cases out with
  | ok v => exact .inl rfl
  | error f => exact .inr rfl

def endError : Except Failure Unit → Option String
  | .ok _ => none
  | .error f => some f.message

/-- The ways that a run may go once it is made. It is not started, for it cannot be or others have cancelled it; or its
steps stop, and it is ended; or they break off, and that is left to the one who drives it. -/
inductive Course (env : Setting) (d : Definition) (own : String) (c : Context) (s : Stage) :
    (Except Failure Execution × Context) × Stage → Prop
  | stuck {f : Failure} {t : World} (start : start env own s.world = (.error f, t)) :
      Course env d own c s ((.error f, c), { s with world := t })
  | early {t : World} (start : start env own s.world = (.ok false, t)) :
      Course env d own c s ((finish env own .completed none).exec c { s with world := t })
  | ended {t : World} {out : Except Failure Unit} {c' : Context} {u : Stage}
      (start : start env own s.world = (.ok true, t))
      (steps : (runSteps env own d.steps).exec c { s with world := t } = ((out, c'), u))
      (named : ∀ f, out = .error f → f.isOfStep = true) :
      Course env d own c s ((finish env own (endStatus out) (endError out)).exec c' u)
  | broken {t : World} {f : Failure} {c' : Context} {u : Stage} (start : start env own s.world = (.ok true, t))
      (steps : (runSteps env own d.steps).exec c { s with world := t } = ((.error f, c'), u)) :
      Course env d own c s ((.error f, c'), u)

theorem course (d : Definition) (own : String) (c : Context) (s : Stage) :
    Course env d own c s ((drive env d own).exec c s) := by
  unfold drive
  rcases hstart : start env own s.world with ⟨f | b, t⟩
  · rw [Flow.exec_bind_error (by rw [Flow.exec_onWorld, hstart])]
    exact .stuck hstart
  · rw [Flow.exec_bind_ok (by rw [Flow.exec_onWorld, hstart])]
    cases b with
    | false => exact .early hstart
    | true =>
      rw [if_pos rfl]
      rcases hsteps : (runSteps env own d.steps).exec c { s with world := t } with ⟨⟨out, c'⟩, u⟩
      rw [Flow.exec_bind_ok (by rw [Flow.exec_outcome, hsteps])]
      cases out with
      | ok v => exact @Course.ended env d own c s t (.ok v) c' u hstart hsteps (fun _ => nofun)
      | error f =>
        dsimp only
        by_cases hf : f.isOfStep = true
        · rw [if_pos hf]
          refine @Course.ended env d own c s t (.error f) c' u hstart hsteps ?_
          rintro _ ⟨⟩
          exact hf
        · rw [if_neg hf]
          exact .broken hstart hsteps

section

variable {R : World → World → Prop} [IsPreorder World R] (hq : ∀ a b, Works .onRuns a b → R a b)
include hq

/-- A run keeps to whatever its steps keep to, when that asks nothing of requests that leave their records alone. -/
theorem within_drive (d : Definition) (c : Context)
    (hsteps : ∀ s : Stage, Begun own s.world → R s.world ((runSteps env own d.steps).exec c s).2.world)
    {s : Stage} (hs : Begun own s.world) : R s.world ((drive env d own).exec c s).2.world := by
  have hstart := within_start env Scope.takesRuns_onRuns own s.world
  have hbusy {t : World} (hout : start env own s.world = (.ok true, t)) :
      R s.world ((runSteps env own d.steps).exec c { s with world := t }).2.world := by
    rw [hout] at hstart
    exact IsTrans.trans _ _ _ (hq _ _ hstart) (hsteps { s with world := t } (hs.onRuns hstart))
  have hend (status : RunStatus) (error : Option String) (c : Context) (u : Stage) :
      R u.world ((finish env own status error).exec c u).2.world :=
    hq _ _ (works_finish env Scope.takesRuns_onRuns own status error c u)
  have hcourse := course env d own c s
  generalize (drive env d own).exec c s = out at hcourse ⊢
  cases hcourse with
  | stuck start =>
    rw [start] at hstart
    exact hq _ _ hstart
  | @early t start =>
    rw [start] at hstart
    exact IsTrans.trans _ _ _ (hq _ _ hstart) (hend .completed none c { s with world := t })
  | @ended _ out c' u start steps _ =>
    have hran := hbusy start
    rw [steps] at hran
    exact IsTrans.trans _ _ _ hran (hend (endStatus out) (endError out) c' u)
  | broken start steps =>
    have hran := hbusy start
    rw [steps] at hran
    exact hran

end

/-- What a call for a run may come to. An exit passes as it is; otherwise the run is marked as failed, and the call
fails with what it broke off with, unless it is an exit that keeps it from being marked. -/
inductive Upshot (env : Setting) (d : Definition) (input : Json) (w : World) : Except Failure Execution × World → Prop
  | unmade {f : Failure} {t : World} (create : World.createExecution env d.id input w = (.error f, t)) :
      Upshot env d input w (.error f, t)
  | returned {e x : Execution} {made : World} {c : Context} {s : Stage}
      (create : World.createExecution env d.id input w = (.ok e, made))
      (drove : (drive env d e.id).exec { input } ⟨made, .empty⟩ = ((.ok x, c), s)) :
      Upshot env d input w (.ok x, s.world)
  | escaped {e : Execution} {made : World} {f : Failure} {c : Context} {s : Stage}
      (create : World.createExecution env d.id input w = (.ok e, made))
      (drove : (drive env d e.id).exec { input } ⟨made, .empty⟩ = ((.error f, c), s)) (exit : f.isExit = true) :
      Upshot env d input w (.error f, s.world)
  | broken {e : Execution} {made : World} {f x : Failure} {c : Context} {s : Stage}
      (create : World.createExecution env d.id input w = (.ok e, made))
      (drove : (drive env d e.id).exec { input } ⟨made, .empty⟩ = ((.error f, c), s)) (handled : f.isExit = false)
      (raised : x = f ∨ x.isExit = true) : Upshot env d input w (.error x, (abort env e.id f s.world).2)

theorem upshot (d : Definition) (input : Json) (w : World) : Upshot env d input w (run env d input w) := by
  rw [run_eq, Act.bind_apply]
  rcases hcreate : World.createExecution env d.id input w with ⟨f | e, made⟩
  · exact .unmade hcreate
  rw [Act.andThen_ok, driven_apply]
  rcases hdrove : (drive env d e.id).exec { input } ⟨made, .empty⟩ with ⟨⟨f | x, c⟩, s⟩
  · dsimp only
    split_ifs with hexit
    · exact .escaped hcreate hdrove hexit
    · have hbroken {x : Failure} (h : x = f ∨ x.isExit = true) :=
        @Upshot.broken env d input w e made f x c s hcreate hdrove (Bool.eq_false_iff.2 hexit) h
      rw [Act.bind_apply]
      rcases habort : abort env e.id f s.world with ⟨x | _, t⟩
      · rw [habort] at hbroken
        exact hbroken (.inr (abort_fails habort).1)
      · rw [habort] at hbroken
        exact hbroken (.inl rfl)
  · exact .returned hcreate hdrove

section

variable {R : World → World → Prop} [IsPreorder World R] (hq : ∀ a b, Works .onRuns a b → R a b)
include hq

theorem within_run (d : Definition) (input : Json)
    (hsteps : ∀ own (s : Stage), Begun own s.world → R s.world ((runSteps env own d.steps).exec { input } s).2.world)
    {w : World} (hw : w.Sound) : R w (run env d input w).2 := by
  have hcreate := works_createExecution Scope.takesRuns_onRuns env d.id input w
  -- the id of the run is known only once it is made, and so the steps of every run are asked about
  have hdrive {e : Execution} {made : World} (hout : World.createExecution env d.id input w = (.ok e, made)) :
      R w ((drive env d e.id).exec { input } ⟨made, .empty⟩).2.world := by
    have hbegun := begun_createExecution env hw hout
    rw [hout] at hcreate
    exact IsTrans.trans _ _ _ (hq _ _ hcreate)
      (within_drive env hq d { input } (hsteps e.id) (s := ⟨made, .empty⟩) hbegun)
  have hupshot := upshot env d input w
  generalize run env d input w = out at hupshot ⊢
  cases hupshot with
  | unmade create =>
    rw [create] at hcreate
    exact hq _ _ hcreate
  | returned create drove =>
    have hgone := hdrive create
    rw [drove] at hgone
    exact hgone
  | escaped create drove =>
    have hgone := hdrive create
    rw [drove] at hgone
    exact hgone
  | @broken e _ f _ _ s create drove =>
    have hgone := hdrive create
    rw [drove] at hgone
    exact IsTrans.trans _ _ _ hgone (hq _ _ (within_abort env Scope.takesRuns_onRuns e.id f s.world))

end

/-- A run keeps to a scope that takes in every deed on runs when its steps do, wherever they start. -/
theorem works_run (h : scope.TakesRuns) (d : Definition) (input : Json)
    (hsteps : ∀ own (s : Stage), Begun own s.world →
      Works scope s.world ((runSteps env own d.steps).exec { input } s).2.world) :
    Act.Within (Works scope) (run env d input) :=
  fun _ hw => within_run env (fun _ _ hworks => hworks.mono h.quiet) d input hsteps hw hw

end Engine

end Conductor
