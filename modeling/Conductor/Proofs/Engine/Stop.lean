import Conductor.Proofs.Engine.Flight

/-! A whole run in which no request fails: it is made, it starts unless it was cancelled before, its steps
stop somewhere, and it is ended as they have ended. -/

namespace Conductor

namespace World

open Store

section Creates

variable {workflow : String} {input : Json} {e : Execution} {a b : World} (h : Creates workflow input e a b)
include h

theorem Creates.share : b.share = a.share := by
  refine Share.ext ?_ ?_ ?_
  · exact congrArg (fun rs : List StepRecord => (rs : Multiset StepRecord)) h.replaced.records
  · show (b.calls : Multiset Call) = a.calls
    rw [h.rest]
  · show (b.journal : Multiset Event) = a.journal
    rw [h.rest]

theorem Creates.clear : Clear e.id b.store := by
  intro x hx
  rw [h.replaced.execution?, if_pos rfl] at hx
  cases hx
  exact ⟨rfl, by rw [h.execution]⟩

end Creates

end World

namespace Engine

open World Store Run

variable {env : Setting} {own : String}

/-- A run that has just been made, out of a world in which there was none under its id. -/
structure Made (own : String) (w made : World) : Prop where
  fresh : w.store.execution? own = none
  begun : Begun own made
  status : At own [.pending, .cancelled] made.store
  clear : Clear own made.store
  share : made.share = w.share
  leads : Leads (Runs own) w made
  turns : w.turns < made.turns

theorem createExecution_calm {w : World} (hw : w.Sound) (workflow : String) (input : Json)
    (hcalm : (World.createExecution env workflow input w).2.refusals = w.refusals) :
    ∃ e made, World.createExecution env workflow input w = (.ok e, made) ∧ Made e.id w made := by
  obtain ⟨own, hfresh, hwent, hok⟩ := came_createExecution env hw workflow input
  rcases World.createExecution_cases env hw workflow input with
    ⟨f, t, hout, ht⟩ | ⟨mid, made, e, hmid, hmake, hout⟩
  · rw [hout] at hcalm
    exact absurd (ht.refusals.symm.trans hcalm) (List.cons_ne_self _ _)
  · have hshare : made.share = w.share := hmake.share.trans (hmid.share hw)
    have hturns : w.turns < made.turns := by
      rw [hmake.rest]
      exact hmid.turns.ge
    rcases hout with hout | ⟨out, hu, hout⟩
    · obtain ⟨rfl, hat⟩ := hok e made hout
      rw [hout] at hwent
      exact ⟨e, made, hout, hfresh, begun_createExecution env hw hout, hat, hmake.clear, hshare, hwent.leads, hturns⟩
    · rcases out with ⟨f | v, t⟩
      · rw [hout] at hcalm
        have hcons : f :: made.refusals = w.refusals := hcalm
        rw [hmake.rest] at hcons
        have hrefusals : mid.refusals = w.refusals := hmid.refusals
        exact absurd (hcons.trans hrefusals.symm) (List.cons_ne_self _ _)
      · have hcreate : World.createExecution env workflow input w = (.ok e, made.asked (.ok v, t)) := hout
        obtain ⟨rfl, hat⟩ := hok e _ hcreate
        rw [hcreate] at hwent
        refine ⟨e, _, hcreate, hfresh, begun_createExecution env hw hcreate, hat, ?_,
          (share_of_updated hu).trans hshare, hwent.leads, hturns⟩
        cases hu with
        | passed found asked status => cases asked
        | wrote found asked wrote replaced answer =>
          exact clear_of_wrote rfl wrote replaced found hmake.clear

/-- Where the steps of a run have stopped, once the world was as its start had left it: what came of them, in
which context, at which stage. A run that was cancelled before it started stops at once. -/
inductive Stops (env : Setting) (d : Definition) (own : String) (input : Json) (made started : World) :
    Except Failure Unit → Context → Stage → Prop
  | early (h : start env own made = (.ok false, started)) :
      Stops env d own input made started (.ok ⟨⟩) { input } ⟨started, .empty⟩
  | late {out : Except Failure Unit} {c : Context} {s : Stage} (h : start env own made = (.ok true, started))
      (ran : (runSteps env own d.steps).exec { input } ⟨started, .empty⟩ = ((out, c), s)) :
      Stops env d own input made started out c s

/-- What a run has made when its steps stop. -/
structure Traced (env : Setting) (d : Definition) (own : String) (input : Json) (made started : World)
    (out : Except Failure Unit) (c : Context) (s : Stage) (ran left : List Step) (m : Share) : Prop where
  halts : ∃ o, Halts env own d.steps [] { input } started ran left o c m s.world ∧ out = o.map fun _ => ⟨⟩
  share : s.world.share = m + made.share
  leads : Leads (Runs own) made started ∧ Leads (Runs own) started s.world
  later : Later made started ∧ Later started s.world
  turns : made.turns < started.turns
  begun : At own [.running, .cancelled] started.store
  ledger : s.ledger.Proper
  sound : s.world.Sound
  status : At own [.running, .cancelled] s.world.store
  clear : Clear own s.world.store
  calm : s.world.refusals = made.refusals

theorem clear_of_steps {a b : World} (h : Works (stepScope own) a b) (ha : a.Sound)
    (hclear : Clear own a.store) : Clear own b.store := by
  refine (h ha).leads.keeps (Clear own) (fun s t hs changed => ?_) hclear
  have hsame (he : ∀ id, t.execution? id = s.execution? id) : Clear own t := fun e h => hs e (he own ▸ h)
  cases changed with
  | same same => exact hsame same.execution?
  | did ok done =>
    rcases ok with ⟨id, now, rfl⟩ | ⟨step, rfl⟩
    · exact (leaves_of_cancel done own).clear hs
    · cases done with
      | added added => exact hsame added.execution?
      | rewrote rewrote => exact hsame rewrote.execution?

theorem exec_finish_eq (status : RunStatus) (error : Option String) (c : Context) (s : Stage) :
    (finish env own status error).exec c s =
      (((conclude env own status error (results c (s.ledger.total [])) s.world).1, c),
        { s with world := (conclude env own status error (results c (s.ledger.total [])) s.world).2 }) := rfl

/-- Ends a run as its steps have ended. -/
def settle (env : Setting) (own : String) : Except Failure Unit → Flow Execution
  | .ok _ => finish env own .completed none
  | .error f => if f.isOfStep then finish env own .failed (some f.message) else throw f

instance (out : Except Failure Unit) : Flow.Grows (settle env own out) := by
  cases out <;> unfold settle <;> infer_instance

theorem drive_eq (d : Definition) : drive env d own = (do
    if ← Run.onWorld (start env own) then settle env own (← Failure.outcome (runSteps env own d.steps))
    else finish env own .completed none) := rfl

theorem settle_eq {out : Except Failure Unit} (h : ∀ f, out = .error f → f.isOfStep = true) :
    settle env own out = finish env own (endStatus out) (endError out) := by
  cases out with
  | ok v => rfl
  | error f => exact if_pos (h f rfl)

theorem drive_calm {d : Definition} {input : Json} {w made : World} (hmade : Made own w made)
    (hcalm : ((drive env d own).exec { input } ⟨made, .empty⟩).2.world.refusals = made.refusals) :
    ∃ started out c s ran left m, Stops env d own input made started out c s ∧
      Traced env d own input made started out c s ran left m ∧
      (drive env d own).exec { input } ⟨made, .empty⟩ = (finish env own (endStatus out) (endError out)).exec c s ∧
      ((finish env own (endStatus out) (endError out)).exec c s).2.world.refusals = s.world.refusals := by
  have hsound := hmade.begun.under.1
  rw [drive_eq] at hcalm ⊢
  obtain ⟨hstart, hafter⟩ := Flow.calm_of_bind hcalm
  have hlater := Act.later (start env own) made
  have hcame := came_start env hsound hmade.status
  obtain ⟨b, t, hout, ht, hshare, hturns, hclear, hat⟩ := start_calm hsound hmade.status hmade.clear hstart
  obtain ⟨hdrive, hcalm'⟩ := hafter b { input } ⟨t, .empty⟩ (by rw [Flow.exec_onWorld, hout])
  have hquiet : t.refusals = made.refusals := by
    have hfirst : (start env own made).2.refusals = made.refusals := hstart
    rwa [hout] at hfirst
  rw [hout] at hlater hcame
  have hunder := under_of_at ht hat
  cases b with
  | false =>
    have hhalts : Halts env own d.steps [] { input } t [] d.steps (.ok []) { input } 0 t :=
      halts_at_once hunder (Std.Refl.refl _) rfl (.inr hat)
    exact ⟨t, .ok ⟨⟩, { input }, ⟨t, .empty⟩, [], d.steps, 0, .early hout,
      ⟨⟨_, hhalts, rfl⟩, hshare.trans (zero_add _).symm, ⟨hcame.leads, .refl _⟩, ⟨hlater, Std.Refl.refl _⟩, hturns,
        hat.mono (by simp), Ledger.proper_empty, ht, hat.mono (by simp), hclear, hquiet⟩, hdrive, hcalm'⟩
  | true =>
    obtain ⟨hsteps, hend⟩ := Flow.calm_of_bind (f := Failure.outcome (runSteps env own d.steps))
      (g := settle env own) hcalm'
    rw [Flow.exec_outcome] at hsteps
    have hgrown := Flow.later (runSteps env own d.steps) { input } ⟨t, .empty⟩
    have hproper := Flow.proper (runSteps env own d.steps) { input } (s := ⟨t, .empty⟩) Ledger.proper_empty
    have hworks := works_runSteps env d.steps { input } (s := ⟨t, .empty⟩) hunder
    have hpost := came_runSteps env d.steps { input } (s := ⟨t, .empty⟩) ht (hat.mono (by simp))
    obtain ⟨ran, left, o, c, m, u, hran, hhalts⟩ := runSteps_calm d.steps [] (s := ⟨t, .empty⟩) hunder hsteps
    rw [hran] at hpost hworks hsteps hgrown hproper
    obtain ⟨hgone, hcalm''⟩ := hend (o.map fun _ => ⟨⟩) c u (by rw [Flow.exec_outcome, hran])
    have hnamed : ∀ f, (o.map fun _ => ⟨⟩ : Except Failure Unit) = .error f → f.isOfStep = true := by
      rintro f hf
      cases o with
      | ok outputs => cases hf
      | error g => exact hhalts.named f (by cases hf; rfl)
    rw [settle_eq hnamed] at hgone hcalm''
    exact ⟨t, o.map fun _ => ⟨⟩, c, u, ran, left, m, .late hout hran,
      ⟨⟨o, hhalts, rfl⟩, by rw [hhalts.share, hshare], ⟨hcame.leads, hpost.leads⟩, ⟨hlater, hgrown⟩, hturns,
        hat.mono (by simp), hproper, hpost.sound, hpost.post, clear_of_steps hworks ht hclear, hsteps.trans hquiet⟩,
      hdrive.trans hgone, hcalm''⟩

theorem run_calm {d : Definition} {input : Json} {w : World} (hw : w.Sound)
    (hcalm : (Engine.run env d input w).2.refusals = w.refusals) :
    ∃ e made started out c s ran left m, World.createExecution env d.id input w = (.ok e, made) ∧
      Made e.id w made ∧ Stops env d e.id input made started out c s ∧
      Traced env d e.id input made started out c s ran left m ∧
      Engine.run env d input w =
        conclude env e.id (endStatus out) (endError out) (results c (s.ledger.total [])) s.world ∧
      (conclude env e.id (endStatus out) (endError out) (results c (s.ledger.total [])) s.world).2.refusals =
        s.world.refusals := by
  have hbind : ((World.createExecution env d.id input >>= fun e => driven env d e.id input) w).2.refusals = w.refusals :=
    hcalm
  obtain ⟨hcreate, hafter⟩ := calm_of_bind hbind
  obtain ⟨e, made, hout, hmade⟩ := createExecution_calm hw d.id input hcreate
  obtain ⟨hrun, hcalm'⟩ := hafter e made hout
  have hdriven := driven_apply env d e.id input made
  have hquiet : made.refusals = w.refusals := by rwa [hout] at hcreate
  -- what follows a failure would not undo that a request had failed
  have hdrive : ((drive env d e.id).exec { input } ⟨made, .empty⟩).2.world.refusals = made.refusals := by
    rw [hdriven] at hcalm'
    have hlater := Flow.later (drive env d e.id) { input } ⟨made, .empty⟩
    rcases hexec : (drive env d e.id).exec { input } ⟨made, .empty⟩ with ⟨⟨f | v, c⟩, s⟩
    · rw [hexec] at hcalm' hlater
      dsimp only at hcalm'
      split_ifs at hcalm' with hexit
      · exact hcalm'
      exact (hlater.calm (Act.later (abort env e.id f >>= fun _ => throw f : Act World Execution) s.world) hcalm').1
    · rw [hexec] at hcalm'
      exact hcalm'
  obtain ⟨started, out, c, s, ran, left, m, hstops, htraced, hgone, hend⟩ := drive_calm hmade hdrive
  have hconcluded : (conclude env e.id (endStatus out) (endError out) (results c (s.ledger.total [])) s.world).2.refusals =
      s.world.refusals := hend
  refine ⟨e, made, started, out, c, s, ran, left, m, hout, hmade, hstops, htraced, ?_, hconcluded⟩
  obtain ⟨x, t, y, hx, -⟩ := conclude_calm (endStatus_eq out) htraced.sound htraced.status htraced.clear hconcluded
  refine hrun.trans (hdriven.trans ?_)
  rw [hgone, exec_finish_eq, hx]

end Engine

end Conductor
