import Conductor.Proofs.Engine.Calm
import Conductor.Proofs.Run.Account

/-! The top-level steps of a run in which no request fails. They run up to the first that fails, or up to
where the run is seen to be cancelled; one that is cancelled by one of its own calls stops with the step
that made the call. -/

namespace Conductor

namespace Run

variable {env : Setting} {own : String} {outputs : Assoc Output} {c c' c'' : Context} {m m' : Share}

/-- The last step of a sequence, on what those before it have left; and the steps that have a record as soon
as this one has. -/
inductive Flight (env : Setting) (own : String) (outputs : Assoc Output) (c : Context) :
    List Step → Context → Share → Multiset String → Prop
  | none : Flight env own outputs c [] c 0 0
  | last {before : List Step} {step : Step} {outputs' : Assoc Output} {c' c'' : Context}
      {out : Except Failure StepResult} {m m' : Share} (done : RanAll env own before outputs c (.ok outputs') c' m)
      (ran : Ran env own step c' out c'' m') :
      Flight env own outputs c (before ++ [step]) c'' (m + m') (m.records.map (·.step) + {step.id})

theorem Flight.single {step : Step} {out : Except Failure StepResult} (ran : Ran env own step c out c' m) :
    Flight env own outputs c [step] c' m {step.id} := by
  have h : Flight env own outputs c ([] ++ [step]) c' (0 + m) (0 + {step.id}) := .last .nil ran
  rwa [zero_add, zero_add] at h

theorem Flight.cons {first : Step} {rest : List Step} {result : StepResult} {begun : Multiset String}
    (ran : Ran env own first c (.ok result) c' m) (hrest : rest ≠ [])
    (h : Flight env own (if first.isGate then outputs else outputs.put first.resultKey result.output) c'
      rest c'' m' begun) :
    Flight env own outputs c (first :: rest) c'' (m + m') (m.records.map (·.step) + begun) := by
  cases h with
  | none => exact absurd rfl hrest
  | last done last =>
    have h := Flight.last (.cons ran done) last
    rwa [Share.records_add, Multiset.map_add, add_assoc, add_assoc] at h

theorem Ran.recorded {step : Step} {out : Except Failure StepResult} (h : Ran env own step c out c' m) :
    {step.id} ≤ m.records.map (·.step) := by
  rw [Multiset.singleton_le]
  cases h <;> simp [StepRecord.Reads.step ‹_›]

theorem Flight.le {ran : List Step} {begun : Multiset String} (h : Flight env own outputs c ran c' m begun) :
    begun ≤ m.records.map (·.step) := by
  cases h with
  | none => exact Multiset.zero_le _
  | last done last =>
    rw [Share.records_add, Multiset.map_add]
    exact add_le_add le_rfl last.recorded

end Run

namespace World

variable {own : String} {a b : World}

theorem recordsOf_of_share {m : Share} (hshare : b.share = m + a.share) (hown : ∀ r ∈ m.records, r.execution = own) :
    (b.store.recordsOf own : Multiset StepRecord) = m.records + a.store.recordsOf own := by
  have hrecords : (b.store.records : Multiset StepRecord) = m.records + a.store.records :=
    congrArg Share.records hshare
  rw [Store.recordsOf, Store.recordsOf, ← Multiset.filter_coe, ← Multiset.filter_coe, hrecords,
    Multiset.filter_add, Multiset.filter_eq_self.2 (by simpa using hown)]

theorem stepsOf_of_share {m : Share} (hshare : b.share = m + a.share) (hown : ∀ r ∈ m.records, r.execution = own) :
    b.store.stepsOf own = a.store.stepsOf own + m.records.map (·.step) := by
  rw [Store.stepsOf, Store.stepsOf, ← Multiset.map_coe, ← Multiset.map_coe, recordsOf_of_share hshare hown,
    Multiset.map_add, add_comm]

end World

namespace Engine

open World Store Run

variable {env : Setting} {own : String} {c : Context} {s : Stage}

/-- No one else cancels a run from a world on. -/
def Unbothered (env : Setting) (own : String) (w : World) : Prop := ∀ n, w.turns ≤ n → own ∉ env.arrivals n

theorem Unbothered.later {a b : World} (h : Unbothered env own a) (hab : Later a b) : Unbothered env own b :=
  fun n hn => h n (hab.turns.trans hn)

/-- A run that is cancelled at some time in the course of its steps is so in the end. -/
theorem cancelled_of_steps {a b : World} (h : Works (stepScope own) a b) (ha : a.Sound) {u : Store}
    (hu : u ∈ b.timeline.drop a.past.length) (hcancelled : At own [.cancelled] u) : At own [.cancelled] b.store := by
  refine ((h ha).leads.pairwise (At own [.cancelled]) fun s t hs changed => ?_).2 u hu hcancelled
  cases changed with
  | same same => exact (same.leaves own).at (by simp) hs
  | did ok done =>
    rcases ok with ⟨id, now, rfl⟩ | ⟨step, rfl⟩
    · exact (leaves_of_cancel done own).at (by simp) hs
    · exact at_of_record done hs

theorem isOfStep_ofStep (step : String) (f : Failure) : (f.ofStep step).isOfStep = true := by
  unfold Failure.ofStep
  by_cases h : f.isOfStep = true
  · rw [if_pos h, h]
  · rw [if_neg h]
    rfl

theorem later_recorded (account : Account) (step : String) (body : Flow Output) [Flow.Grows body] :
    Later (World.createStep env own step s.world).2 ((recorded env own account step body).exec c s).2.world := by
  refine Flow.later_handling _ ?_
  rw [attempt, Flow.exec_wait_bind]
  exact Flow.later_of_first _ _

/-- The first that a step does is to make its record. Nothing else comes before but that others may cancel
the run. -/
theorem step_opens (account : Account) (step : Step) (hs : Under own s.world)
    (hcalm : ((Run.step env own account step).exec c s).2.world.refusals = s.world.refusals) :
    ∃ w, Later s.world w ∧ Later w ((Run.step env own account step).exec c s).2.world ∧
      s.world.store.stepsOf own + {step.id} ≤ w.store.stepsOf own ∧
      (Unbothered env own s.world → ¬ At own [.cancelled] s.world.store →
        ∀ u ∈ w.timeline.drop s.world.past.length, At own [.cancelled] u → u = w.store) := by
  obtain ⟨body, hbody, hstep⟩ := step_recorded drift env own account step
  rw [hstep] at hcalm ⊢
  have hlater : Later _ ((recorded env own account step.id body).exec c s).2.world := later_recorded account step.id body
  have hmade := Act.later (World.createStep env own step.id) s.world
  refine ⟨_, hmade, hlater, ?_⟩
  rcases createStep_cases env hs.1 own step.id with ⟨f, t, hout, ht⟩ | ⟨mid, r, t, hmid, added, rfl, hout⟩
  · have hquiet := (hmade.calm hlater hcalm).1
    rw [hout, ht.refusals] at hquiet
    exact absurd hquiet (List.cons_ne_self _ _)
  · rw [hout]
    have hbefore : s.world.store.stepsOf own ≤ mid.store.stepsOf own :=
      (hmid.works hs.1).leads.keeps (s.world.store.stepsOf own ≤ ·.stepsOf own)
        (fun _ _ hle changed => hle.trans (changed.stepsOf_le own)) le_rfl
    refine ⟨(add_le_add hbefore le_rfl).trans added.stepsOf.ge, fun hfree hnot u hu hcancelled => ?_⟩
    have hsame : ∀ u ∈ mid.timeline.drop s.world.past.length, u.execution? own = s.world.store.execution? own := by
      refine (hmid.works hs.1).leads.since (·.execution? own = s.world.store.execution? own) ?_ rfl
      intro a b ha changed
      cases changed with
      | same same => rw [same.execution?, ha]
      | did ok done =>
        obtain ⟨id, now, harrived, rfl⟩ := ok
        cases done with
        | updated found asked wrote replaced =>
          rw [replaced.execution?, if_neg, ha]
          rintro rfl
          exact hfree _ (Nat.le_refl _) harrived
    rw [drop_timeline_asked (hmid.works hs.1).leads.timeline rfl, List.mem_append, List.mem_singleton] at hu
    refine hu.resolve_left fun hu => ?_
    obtain ⟨e, he, hstatus⟩ := hcancelled
    exact hnot ⟨e, (hsame u hu).symm.trans he, hstatus⟩

/-- A top-level step that was taken, out of a world in which the run was not cancelled. Unless others do it, the
run is not cancelled before the step has its record, at whatever later time one looks. -/
structure Took (env : Setting) (own : String) (step : Step) (c : Context) (w : World) (out : Except Failure StepResult)
    (c' : Context) (m : Share) (u : World) : Prop where
  ran : Ran env own step c out c' m
  share : u.share = m + w.share
  under : Under own u
  works : Works (stepScope own) w u
  later : Later w u
  idle : ¬ At own [.cancelled] w.store
  begun : ∀ v, Later u v → Works (stepScope own) u v → Unbothered env own w →
    ∀ x ∈ v.timeline.drop w.past.length, At own [.cancelled] x → w.store.stepsOf own + {step.id} ≤ x.stepsOf own

theorem took_of_calm (step : Step) {t : World} (hs : Under own s.world) (hfind : Works .others s.world t)
    (hst : Later s.world t) (hshare : t.share = s.world.share) (hnot : ¬ At own [.cancelled] t.store)
    (hcalm : ((Run.step env own [] step).exec c { s with world := t }).2.world.refusals = t.refusals) :
    ∃ m, Took env own step c s.world ((Run.step env own [] step).exec c { s with world := t }).1.1
      ((Run.step env own [] step).exec c { s with world := t }).1.2 m
      ((Run.step env own [] step).exec c { s with world := t }).2.world := by
  have hunder := lasting_under .others own _ _ hfind hs
  have hscope : Works (stepScope own) s.world t := hfind.mono (covers_stepScope own).others
  have hworks := works_step env [] step c (s := { s with world := t }) hunder
  have hlater := Flow.later (Run.step env own [] step) c { s with world := t }
  obtain ⟨w, htw, hwu, hbegun, halone⟩ := step_opens [] step (s := { s with world := t }) hunder hcalm
  obtain ⟨hunder', m, hm, hran⟩ := (makes_step [] step c).exec (s := { s with world := t }) hunder hcalm
  refine ⟨m, hran, hm.trans (by rw [← hshare]), hunder', IsTrans.trans _ _ _ hscope hworks,
    IsTrans.trans _ _ _ hst hlater, fun h => hnot ((leaves_of_others hfind hs.1 own).at (by simp) h), ?_⟩
  intro v huv hworks' hfree x hx hcancelled
  have hsame : t.store.stepsOf own = s.world.store.stepsOf own := by
    rw [stepsOf, stepsOf, recordsOf, recordsOf, records_of_others hfind hs.1]
  have hwv : Later w v := IsTrans.trans _ _ _ hwu huv
  have htv : Later t v := IsTrans.trans _ _ _ htw hwv
  rcases mem_drop_timeline hst.timeline htv.timeline hx with hx | hx
  · -- it would have been seen to be cancelled
    exact absurd (cancelled_of_steps hscope hs.1 hx hcancelled) hnot
  rcases mem_drop_timeline htw.timeline hwv.timeline hx with hx | hx
  · obtain rfl := halone (hfree.later hst) hnot x hx hcancelled
    exact hsame ▸ hbegun
  · exact (IsTrans.trans _ _ _ hworks hworks' hunder.1).leads.onward
      (s.world.store.stepsOf own + {step.id} ≤ ·.stepsOf own)
      (fun _ _ hle changed => hle.trans (changed.stepsOf_le own)) htw.timeline hwv.timeline (hsame ▸ hbegun) x hx

/-- What the top-level steps of a run have come to when they stop: those that ran, those that were left, and
what was made. -/
structure Halts (env : Setting) (own : String) (steps : List Step) (outputs : Assoc Output) (c : Context) (w : World)
    (ran left : List Step) (out : Except Failure (Assoc Output)) (c' : Context) (m : Share) (t : World) : Prop where
  steps : steps = ran ++ left
  trace : RanAll env own ran outputs c out c' m
  share : t.share = m + w.share
  under : Under own t
  named : ∀ f, out = .error f → f.isOfStep = true
  left : left ≠ [] → (∃ f, out = .error f) ∨ At own [.cancelled] t.store
  idle : At own [.cancelled] w.store → ran = []
  flight : ∃ begun, Flight env own outputs c ran c' m begun ∧ (Unbothered env own w →
    ∀ u ∈ t.timeline.drop w.past.length, At own [.cancelled] u → w.store.stepsOf own + begun ≤ u.stepsOf own)

section Halts

variable {steps rest : List Step} {step : Step} {outputs : Assoc Output} {c' : Context} {m : Share} {w t u : World}

theorem halts_at_once (hw : Under own w) (h : Works .others w t) (hshare : t.share = w.share)
    (hleft : steps = [] ∨ At own [.cancelled] t.store) :
    Halts env own steps outputs c w [] steps (.ok outputs) c 0 t where
  steps := rfl
  trace := .nil
  share := hshare.trans (zero_add _).symm
  under := lasting_under .others own _ _ h hw
  named _ := nofun
  left hl := .inr (hleft.resolve_left hl)
  idle _ := rfl
  flight := by
    refine ⟨0, .none, fun _ u hu _ => ?_⟩
    rw [add_zero]
    exact (h hw.1).leads.since (w.store.stepsOf own ≤ ·.stepsOf own)
      (fun _ _ hle changed => hle.trans (changed.stepsOf_le own)) le_rfl u hu

theorem Took.broke {f : Failure} (h : Took env own step c w (.error f) c' m u) :
    Halts env own (step :: rest) outputs c w [step] rest (.error f) c' m u where
  steps := rfl
  trace := .stopped h.ran
  share := h.share
  under := h.under
  named := by
    rintro _ ⟨⟩
    cases h.ran
    exact isOfStep_ofStep _ _
  left _ := .inl ⟨f, rfl⟩
  idle hcancelled := absurd hcancelled h.idle
  flight := ⟨_, .single h.ran, h.begun u (Std.Refl.refl _) (Std.Refl.refl _)⟩

theorem Took.went {result : StepResult} {ran left : List Step} {out : Except Failure (Assoc Output)} {c'' : Context}
    {m' : Share} (hw : w.Sound) (h : Took env own step c w (.ok result) c' m u) (hlater : Later u t)
    (hworks : Works (stepScope own) u t)
    (hrest : Halts env own rest (if step.isGate then outputs else outputs.put step.resultKey result.output) c' u
      ran left out c'' m' t) :
    Halts env own (step :: rest) outputs c w (step :: ran) left out c'' (m + m') t where
  steps := by rw [hrest.steps, List.cons_append]
  trace := .cons h.ran hrest.trace
  share := by rw [hrest.share, h.share, ← add_assoc, add_comm m']
  under := hrest.under
  named := hrest.named
  left := hrest.left
  idle hcancelled := absurd hcancelled h.idle
  flight := by
    obtain ⟨begun, hflight, hcancels⟩ := hrest.flight
    by_cases hran : ran = []
    · subst hran
      refine ⟨_, ?_, h.begun t hlater hworks⟩
      cases hrest.trace
      rw [add_zero]
      exact .single h.ran
    · refine ⟨_, .cons h.ran hran hflight, fun hfree x hx hcancelled => ?_⟩
      rcases mem_drop_timeline h.later.timeline hlater.timeline hx with hx | hx
      · exact absurd (hrest.idle (cancelled_of_steps h.works hw hx hcancelled)) hran
      · have hmine := (within_of_ran (spends_of_did step) h.ran).own
        rw [← add_assoc, ← stepsOf_of_share h.share hmine]
        exact hcancels (hfree.later h.later) x hx hcancelled

end Halts

theorem runSteps_calm (steps : List Step) (outputs : Assoc Output) (hs : Under own s.world)
    (hcalm : ((runSteps env own steps).exec c s).2.world.refusals = s.world.refusals) :
    ∃ ran left out c' m t, (runSteps env own steps).exec c s = ((out.map fun _ => ⟨⟩, c'), t) ∧
      Halts env own steps outputs c s.world ran left out c' m t.world := by
  induction steps generalizing outputs c s with
  | nil => exact ⟨_, _, _, _, _, s, rfl, halts_at_once hs (Std.Refl.refl _) rfl (.inl rfl)⟩
  | cons step rest ih =>
    unfold runSteps at hcalm ⊢
    obtain ⟨hlook, hafter⟩ := Flow.calm_of_bind hcalm
    have hst := Act.later (World.findExecution env own) s.world
    obtain ⟨e, t, hfind, hothers, hshare, hshows⟩ := World.findExecution_calm hs.1 hs.2 hlook
    rw [hfind] at hst
    obtain ⟨hexec, hcalm'⟩ := hafter (some e) c { s with world := t } (by rw [Flow.exec_onWorld, hfind])
    rw [hexec]
    by_cases hcancelled : e.status = .cancelled
    · have hstop : (some e).any (·.status = .cancelled) = true := by simp [hcancelled]
      simp only [hstop, if_true]
      exact ⟨_, _, _, _, _, { s with world := t }, rfl,
        halts_at_once hs hothers hshare (.inr (hshows.cancelled_iff.2 hcancelled))⟩
    · have hgo : (some e).any (·.status = .cancelled) = false := by simp [hcancelled]
      simp only [hgo, Bool.false_eq_true, if_false] at hcalm' ⊢
      have hnot : ¬ At own [.cancelled] t.store := fun h => hcancelled (hshows.cancelled_iff.1 h)
      obtain ⟨hstep, hafter'⟩ := Flow.calm_of_bind (f := discard (Run.step env own [] step))
        (g := fun _ => runSteps env own rest) hcalm'
      rw [Flow.exec_discard] at hstep
      obtain ⟨m, htook⟩ := took_of_calm step hs hothers hst hshare hnot hstep
      rcases hout : (Run.step env own [] step).exec c { s with world := t } with ⟨⟨out, c'⟩, u⟩
      rw [hout] at htook
      cases out with
      | error f =>
        exact ⟨_, _, _, _, _, u, Flow.exec_bind_error (by rw [Flow.exec_discard, hout]; rfl), htook.broke⟩
      | ok result =>
        obtain ⟨hgone, hcalm''⟩ := hafter' ⟨⟩ c' u (by rw [Flow.exec_discard, hout]; rfl)
        have hlater := Flow.later (runSteps env own rest) c' u
        have hworks := works_runSteps env rest c' htook.under
        obtain ⟨ran, left, out, c'', m', v, hrest, hhalts⟩ :=
          ih (if step.isGate then outputs else outputs.put step.resultKey result.output) htook.under hcalm''
        rw [hrest] at hlater hworks
        exact ⟨_, _, _, _, _, v, hgone.trans hrest, htook.went hs.1 hlater hworks hhalts⟩

end Engine

end Conductor
