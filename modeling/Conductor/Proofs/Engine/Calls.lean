import Conductor.Proofs.Engine.Bill
import Conductor.Proofs.Engine.Returned
import Conductor.Proofs.Run.Dispatch

/-! The calls of a run, each of which is made by an agent step of the workflow and answered once. No step makes two of
them, and in a run that is completed none is left out but by a condition. What a run costs is what its calls cost whose
answers could be read. -/

namespace Conductor

/-- The steps of a workflow that call an agent, depth first. -/
def Definition.callers (d : Definition) : List Step := d.flat.filter (·.kind = .agent)

namespace Engine

open World Store Run Conductor.Flow

variable {env : Setting} {own : String} {input : Json} {d : Definition} {w t : World} {x : Execution}

instance (id : String) : Act.Hushed (start env id) := by
  unfold start
  infer_instance

instance (id : String) (status : RunStatus) (error : Option String) (results : ExecutionPatch) :
    Act.Hushed (conclude env id status error results) := by
  unfold conclude
  infer_instance

instance (id : String) (status : RunStatus) (error : Option String) : Mute (finish env id status error) := by
  unfold finish
  infer_instance

instance (out : Except Failure Unit) : Mute (settle env own out) := by
  cases out <;> unfold settle <;> infer_instance

/-- The calls that have been made since a world was left, by the steps that made them, each of which was started. -/
structure Calls (own : String) (input : Json) (steps : Multiset Step) (w t : World) (made : Multiset Dispatch) :
    Prop where
  calls : (t.calls : Multiset Call) = made.map Dispatch.call + w.calls
  started : ∃ events : Multiset Event, (t.journal : Multiset Event) = events + w.journal ∧
    made.map (Dispatch.start own) ≤ events
  steps : made.map Dispatch.step ≤ steps
  fits : ∀ m ∈ made, m.Fits input

/-- The calls that have been made since a world was left, each with those before it, and the answers to them. -/
structure Answered (env : Setting) (w t : World) (made : Multiset Dispatch) : Prop where
  log : (t.log : Multiset (Call × List Call)) = made.map Dispatch.entry + w.log
  answers : (t.answers : Multiset CallEnd) = made.map Dispatch.ending + w.answers
  ends : ∀ m ∈ made, m.Ends env

theorem calls_drive (d : Definition) {made : World} :
    ∃ ds, Calls own input d.flat made ((drive env d own).exec { input } ⟨made, .empty⟩).2.world ds ∧
      Answered env made ((drive env d own).exec { input } ⟨made, .empty⟩).2.world ds := by
  have hholds := holds_none ⟨made, .empty⟩
  have hturn : Turn traffic (fun _ _ m => Posted env own input d.flat 0 m) (traffic.whole ⟨made, .empty⟩) (drive env d own)
      { input } ⟨made, .empty⟩ := by
    rw [drive_eq]
    refine Mute.before hholds (fun b t rest ht => ?_) fun e refused => posted_of_none rfl rfl
    split
    · have hsteps : Sends env own input (Step.flatAll d.steps) (runSteps env own d.steps) := inferInstance
      refine (hsteps.turn _ rfl t rest ht).outcome_bind fun out c m sent t rest ht => ?_
      refine (Mute.turn _ _ rest t ht).mono ?_
      rintro _ _ _ ⟨rfl, refused, rfl, -⟩
      exact sent.posted.add_none rfl rfl
    · refine (Mute.turn _ _ rest t ht).mono ?_
      rintro _ _ _ ⟨rfl, refused, rfl, -⟩
      exact posted_of_none rfl rfl
  obtain ⟨m, hm, ds, hentries, hstarts, hsteps, hfits, hends⟩ := hturn.exec
  have hwhole := hm.whole
  have hlog : (((drive env d own).exec { input } ⟨made, .empty⟩).2.world.log : Multiset (Call × List Call)) =
      m.1 + made.log := congrArg Prod.fst hwhole
  rw [hentries] at hlog
  refine ⟨ds, ⟨?_, ⟨m.2.1, congrArg (·.2.1) hwhole, hstarts⟩, hsteps, fun d hd => (hfits d hd).1⟩,
    ⟨hlog, ?_, fun d hd => (hfits d hd).2⟩⟩
  · have hcalls := congrArg (Multiset.map Prod.fst) hlog
    rw [Multiset.map_add, Multiset.map_map, Multiset.map_coe, Multiset.map_coe, map_fst_log, map_fst_log] at hcalls
    exact hcalls
  · rw [hends, add_zero]
    exact congrArg (·.2.2.2) hwhole

theorem calls_of_none {steps : Multiset Step} (hc : t.calls = w.calls) (hj : t.journal = w.journal) :
    Calls own input steps w t 0 where
  calls := by rw [hc, Multiset.map_zero, zero_add]
  started := ⟨0, by rw [hj, zero_add], Multiset.zero_le _⟩
  steps := Multiset.zero_le _
  fits d hd := absurd hd (Multiset.notMem_zero d)

theorem answered_of_none (hc : t.calls = w.calls) (ha : t.answers = w.answers) : Answered env w t 0 where
  log := by rw [log_eq hc, Multiset.map_zero, zero_add]
  answers := by rw [ha, Multiset.map_zero, zero_add]
  ends d hd := absurd hd (Multiset.notMem_zero d)

/-- Worlds between which no agent was called, no answer taken up and nothing noted. -/
structure Still (a b : World) : Prop where
  calls : b.calls = a.calls
  answers : b.answers = a.answers
  journal : b.journal = a.journal

theorem still_rfl (w : World) : Still w w := ⟨rfl, rfl, rfl⟩

theorem Still.of_silent {α : Type} {a b : World} {out : Except Failure α} (h : Silent a (out, b)) : Still a b :=
  ⟨h.calls, h.answers, h.journal⟩

/-- What makes no call may come before and after. -/
theorem Calls.amid {steps : Multiset Step} {ds : Multiset Dispatch} {a b : World} (h : Calls own input steps a b ds)
    (ha : Still w a) (hb : Still b t) : Calls own input steps w t ds where
  calls := by rw [hb.calls, h.calls, ha.calls]
  started := by
    rw [hb.journal, ← ha.journal]
    exact h.started
  steps := h.steps
  fits := h.fits

theorem Answered.amid {ds : Multiset Dispatch} {a b : World} (h : Answered env a b ds) (ha : Still w a)
    (hb : Still b t) : Answered env w t ds where
  log := by rw [log_eq hb.calls, h.log, log_eq ha.calls]
  answers := by rw [hb.answers, h.answers, ha.answers]
  ends := h.ends

theorem still_abort (f : Failure) (w : World) : Still w (abort env own f w).2 := by
  rw [abort_snd]
  exact .of_silent (Act.Hushed.silent
    (a := World.updateExecution env own (.ok (breakPatch f w.time)) (some RunStatus.active)) w)

theorem Calls.callers {made : Multiset Dispatch} (h : Calls own input d.flat w t made) :
    Calls own input d.callers w t made where
  calls := h.calls
  started := h.started
  fits := h.fits
  steps := by
    rw [Definition.callers, ← Multiset.filter_coe]
    refine Multiset.le_filter.2 ⟨h.steps, fun step hstep => ?_⟩
    obtain ⟨m, -, rfl⟩ := Multiset.mem_map.1 hstep
    rfl

theorem calls_run (env : Setting) (d : Definition) (input : Json) (hw : w.Sound) :
    ∃ own ds, w.store.execution? own = none ∧ Calls own input d.callers w (Engine.run env d input w).2 ds ∧
      Answered env w (Engine.run env d input w).2 ds ∧
      ∀ e made, World.createExecution env d.id input w = (.ok e, made) → e.id = own := by
  obtain ⟨own, hfresh, -, hok⟩ := came_createExecution env hw d.id input
  have hcreated : Still w (World.createExecution env d.id input w).2 :=
    .of_silent (Act.Hushed.silent (a := World.createExecution env d.id input) w)
  -- a run that was made makes its calls while it is driven
  have hdriven {e : Execution} {made : World} {s : Stage} {out : Except Failure Execution × Context} {t : World}
      (create : World.createExecution env d.id input w = (.ok e, made))
      (drove : (drive env d e.id).exec { input } ⟨made, .empty⟩ = (out, s)) (hend : Still s.world t) :
      ∃ own ds, w.store.execution? own = none ∧ Calls own input d.callers w t ds ∧ Answered env w t ds ∧
        ∀ x y, World.createExecution env d.id input w = (.ok x, y) → x.id = own := by
    rw [create] at hcreated
    obtain ⟨ds, hcalls, hanswered⟩ := @calls_drive env e.id input d made
    rw [drove] at hcalls hanswered
    have hid : e.id = own := (hok e made create).1
    exact ⟨e.id, ds, hid ▸ hfresh, (hcalls.amid hcreated hend).callers, hanswered.amid hcreated hend,
      fun x y hxy => (hok x y hxy).1.trans hid.symm⟩
  have hupshot := upshot env d input w
  generalize run env d input w = out at hupshot ⊢
  cases hupshot with
  | unmade create =>
    rw [create] at hcreated ⊢
    exact ⟨own, 0, hfresh, calls_of_none hcreated.calls hcreated.journal,
      answered_of_none hcreated.calls hcreated.answers, fun _ _ h => by cases h⟩
  | returned create drove => exact hdriven create drove (still_rfl _)
  | escaped create drove => exact hdriven create drove (still_rfl _)
  | broken create drove => exact hdriven create drove (still_abort _ _)

/-! Runs that are completed -/

theorem conclude_status {status : RunStatus} (hstatus : status = .completed ∨ status = .failed) {error : Option String}
    {c : Context} {total : Float} (hw : w.Sound) (hs : At own [.running, .cancelled] w.store)
    (h : conclude env own status error (results c total) w = (.ok x, t)) : x.status ∈ [status, .cancelled] := by
  obtain ⟨updated, u, v, hupdate, hwritten, hget⟩ := conclude_ok h
  have hmoved := came_moved env (p := endPatch (results c total) status error w.time) rfl rfl
    (move_of_ended hstatus) hw hs
  rw [hupdate] at hmoved
  have hv : v.Sound ∧ At own [status, .cancelled] v.store := by
    rcases hwritten with ⟨hsome, rfl⟩ | ⟨rfl, again, hagain⟩
    · obtain ⟨e, rfl⟩ := Option.isSome_iff_exists.1 hsome
      have hended : At own [status] v.store := hmoved.post
      exact ⟨hmoved.sound, hended.mono (by simp)⟩
    · -- its results do not make a cancelled run one that has ended otherwise
      have hcancelled : At own [.cancelled] u.store := hmoved.post
      have hwent := went_results env c total hmoved.sound hcancelled
      rw [hagain] at hwent
      have hstill := hwent.leads.keeps (At own [.cancelled]) (fun _ _ hs hruns => hruns.cancelled hs) hcancelled
      exact ⟨hwent.sound, hstill.mono (by simp)⟩
  obtain ⟨hleaves, hshows⟩ := getExecution_ok hv.1 hget
  obtain ⟨y, hy, hshown⟩ := hshows.execution
  obtain ⟨z, hz, hended⟩ := hleaves.at (by simp) hv.2
  rw [hy] at hz
  cases hz
  rwa [hshown.1]

theorem Stops.came {started : World} {out : Except Failure Unit} {c : Context} {s : Stage} {made : World}
    (h : Stops env d own input made started out c s) (hmade : made.Sound) (hat : At own [.pending, .cancelled] made.store) :
    s.world.Sound ∧ At own [.running, .cancelled] s.world.store := by
  have hcame := came_start env hmade hat
  cases h with
  | early hb =>
    rw [hb] at hcame
    exact ⟨hcame.sound, hcame.post.mono (by simp)⟩
  | late hb ran =>
    rw [hb] at hcame
    have hend := came_runSteps env d.steps { input } (s := ⟨started, .empty⟩) hcame.sound hcame.post
    rw [ran] at hend
    exact ⟨hend.sound, hend.post⟩

/-- No request has failed by the time the steps of a run have stopped without a failure. -/
theorem Stops.quiet {started made : World} {v : Unit} {c : Context} {s : Stage}
    (h : Stops env d own input made started (.ok v) c s) : s.world.refusals = made.refusals := by
  have hsilent := Act.Hushed.silent (a := start env own) made
  cases h with
  | early hb =>
    rw [hb] at hsilent
    exact hsilent.quiet rfl
  | late hb ran =>
    rw [hb] at hsilent
    have hsends : Sends env own input (Step.flatAll d.steps) (runSteps env own d.steps) := inferInstance
    exact (hsends.quiet rfl ran).trans (hsilent.quiet rfl)

/-- When a run comes back as completed no request has failed in its course. -/
theorem quiet_of_completed (hw : w.Sound) (h : Engine.run env d input w = (.ok x, t)) (hc : x.status = .completed) :
    t.refusals = w.refusals := by
  obtain ⟨own, -, hwent, hok⟩ := came_createExecution env hw d.id input
  obtain ⟨e, made, started, out, c, s, hcreate, hstops, hconclude⟩ := run_ok h
  have hcreated := Act.Hushed.silent (a := World.createExecution env d.id input) w
  rw [hcreate] at hcreated hwent
  obtain ⟨rfl, hat⟩ := hok e made hcreate
  cases out with
  | ok v =>
    have hend := Act.Hushed.silent (a := conclude env e.id .completed none (results c (s.ledger.total []))) s.world
    rw [show conclude env e.id .completed none _ s.world = (.ok x, t) from hconclude] at hend
    exact (hend.quiet rfl).trans (hstops.quiet.trans (hcreated.quiet rfl))
  | error f =>
    obtain ⟨hsound, hat⟩ := hstops.came hwent.sound hat
    have hstatus := conclude_status (.inr rfl) hsound hat hconclude
    simp [hc] at hstatus

theorem Calls.complete {made : Multiset Dispatch} (hcalls : Calls own input d.callers w t made) (hw : w.Sound)
    (hown : ∀ e made, World.createExecution env d.id input w = (.ok e, made) → e.id = own)
    (h : Engine.run env d input w = (.ok x, t)) (hc : x.status = .completed)
    (hskip : ∀ r ∈ t.store.recordsOf own, r.status ≠ .skipped) : made.map Dispatch.step = d.callers := by
  have hquiet := quiet_of_completed hw h hc
  rw [show t = (Engine.run env d input w).2 by rw [h]] at hquiet
  obtain ⟨x', t', ran, left, o, c, m, hrun, hreturned⟩ := run_returns d input hw hquiet
  rw [h] at hrun
  cases hrun
  obtain ⟨e, started, hcreate, hid⟩ := hreturned.created
  rw [← hown e started hcreate, hid] at hskip
  obtain ⟨ran, skipped, -, hwhole, hrecords, hlength⟩ := hreturned.divided hc
  have hskipped : skipped = [] := by
    refine List.eq_nil_iff_forall_not_mem.2 fun step hstep => ?_
    have hentry : (step.id, StepStatus.skipped) ∈ (t.store.recordsOf x.id).map fun r => (r.step, r.status) :=
      hrecords.mem_iff.2 (List.mem_append_right _ (List.mem_map_of_mem hstep))
    obtain ⟨r, hr, hpair⟩ := List.mem_map.1 hentry
    exact hskip r hr (congrArg Prod.snd hpair)
  rw [hskipped, List.append_nil] at hwhole
  have hcard : made.card = d.callers.length := by
    have hmade := congrArg Multiset.card hcalls.calls
    rw [Multiset.card_add, Multiset.card_map, Multiset.coe_card, Multiset.coe_card, hlength] at hmade
    rw [Definition.callers, ← List.countP_eq_length_filter, ← hwhole.countP_eq]
    omega
  refine Multiset.eq_of_le_of_card_le hcalls.steps ?_
  rw [Multiset.card_map, hcard, Multiset.coe_card]

end Engine

end Conductor
