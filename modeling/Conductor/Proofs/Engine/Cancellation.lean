import Conductor.Proofs.Engine.Returned

/-! Runs that are cancelled while they go on. The step in flight runs to its end and no other one is started;
what comes back is cancelled since then, with the results that there were when the run stopped. -/

namespace Conductor

namespace Store

/-- A cancel that succeeds, by the stores before and after it. -/
structure Cancels (own : String) (now : Time) (a b : Store) : Prop where
  active : At own RunStatus.active a
  cancelled : ∃ e, b.execution? own = some e ∧ e.status = .cancelled ∧ e.completedAt = some now

/-- A run that has left the status it is made with does not come back to it. -/
theorem Runs.left {own : String} {s t : Store} (h : Runs own s t)
    (hs : ∃ e, s.execution? own = some e ∧ e.status ≠ .pending) :
    ∃ e, t.execution? own = some e ∧ e.status ≠ .pending := by
  obtain ⟨e, he, hstatus⟩ := hs
  obtain ⟨e', he'⟩ := Option.isSome_iff_exists.1 (h.lives.has (by rw [he]; rfl))
  have hmoves := h.lives.moves
  rw [status?, status?, he, he', Option.map_some, Option.map_some] at hmoves
  refine ⟨e', he', ?_⟩
  generalize e.status = a, e'.status = b at hmoves hstatus
  cases hmoves with
  | stay => exact hstatus
  | move h => cases h <;> simp

end Store

namespace World

open Store

variable {env : Setting} {own : String} {a b : World}

theorem infix_timeline_asked {w mid next t : World} (hmid : w.timeline <+: mid.timeline)
    (past : next.past = mid.store :: mid.past) (ht : next.timeline <+: t.timeline) :
    [mid.store, next.store] <:+: t.timeline.drop w.past.length := by
  obtain ⟨later, ht⟩ := ht
  have hlength : w.past.length ≤ mid.past.reverse.length := by
    rw [List.length_reverse]
    exact length_past_le hmid
  refine ⟨mid.past.reverse.drop w.past.length, later, ?_⟩
  rw [← ht, timeline_asked past, timeline]
  simp only [List.append_assoc]
  rw [List.drop_append_of_le_length hlength]
  rfl

/-- What there has been in a part of a course has been in the whole of it. -/
theorem infix_timeline_of {w a b t : World} {l : List Store} (hwa : w.timeline <+: a.timeline)
    (hbt : b.timeline <+: t.timeline) (h : l <:+: b.timeline.drop a.past.length) :
    l <:+: t.timeline.drop w.past.length := by
  have hless : a.past.length = w.past.length + (a.past.length - w.past.length) :=
    (Nat.add_sub_cancel' (length_past_le hwa)).symm
  rw [hless, ← List.drop_drop] at h
  exact (h.trans (List.drop_suffix _ _).isInfix).trans (hbt.drop w.past.length).isInfix

/-- A cancel that succeeds does so in its own course, and writes the time when it was asked for. -/
theorem cancels_of_cancel {e : Execution} {w t : World} (hw : w.Sound) (h : World.cancel env own w = (.ok e, t)) :
    ∃ s s', [s, s'] <:+: t.timeline.drop w.past.length ∧ Cancels own w.time s s' := by
  obtain ⟨mid, hmid, hout⟩ := Engine.updateExecution_cases env own (cancelPatch w.time) rfl
    (some RunStatus.active) w
  have hbefore := (hmid.works hw).leads.timeline
  rw [World.cancel, Act.bind_apply, now_apply, Act.andThen_ok, Act.bind_apply] at h
  rcases hout with ⟨f, u, hout, -⟩ | ⟨⟨f | updated, u⟩, hu, hout⟩
  · rw [hout] at h
    cases h
  · rw [hout] at h
    cases h
  · rw [hout, Act.andThen_ok] at h
    cases hu with
    | passed =>
      dsimp only at h
      rw [Act.bind_apply] at h
      rcases hread : World.getExecution env own (mid.asked ((.ok none : Except Failure (Option Execution)), mid.store)) with
        ⟨f | x, v⟩ <;> rw [hread] at h <;> cases h
    | @wrote x x' _ _ found asked wrote replaced answer =>
      have hstatus : x'.status = .cancelled := wrote.status rfl
      have htime : x'.completedAt = some w.time := by rw [wrote.named rfl]; rfl
      have hafter : (mid.asked ((.ok updated : Except Failure _), u)).timeline <+: t.timeline := by
        cases updated with
        | none => exact absurd rfl answer
        | some v =>
          have hlater := Act.later (World.getExecution env own) (mid.asked (.ok (some v), u))
          dsimp only at h
          rw [h] at hlater
          exact hlater.timeline
      exact ⟨mid.store, u, infix_timeline_asked hbefore rfl hafter, ⟨x, found, asked _ rfl⟩,
        x', (replaced.execution? own).trans (if_pos rfl), hstatus, htime⟩

/-- All that may change of a run that is cancelled is what it has to show. -/
theorem Leads.left_of_cancelled (h : Leads (Runs own) a b) {s : Store} (hs : s ∈ b.timeline.drop a.past.length)
    {e : Execution} (he : s.execution? own = some e) (hstatus : e.status = .cancelled) :
    ∃ e', b.store.execution? own = some e' ∧
      e' = { e with output := e'.output, cost := e'.cost, copyable := e'.copyable } := by
  refine (h.pairwise (fun s => ∃ e', s.execution? own = some e' ∧
    e' = { e with output := e'.output, cost := e'.cost, copyable := e'.copyable }) ?_).2 s hs ⟨e, he, rfl⟩
  rintro s t ⟨x, hx, hsame⟩ hruns
  obtain ⟨x', hx', hsame'⟩ := hruns.lives.dropped x hx (by rw [hsame]; exact hstatus)
  refine ⟨x', hx', ?_⟩
  rw [hsame'] at hx' ⊢
  rw [hsame]

end World

namespace Engine

open World Store Run

variable {env : Setting} {own : String} {w : World}

theorem mem_of_infix_append {α : Type} {a b x : α} {before after : List α} (h : [a, b] <:+: before ++ x :: after) :
    b ∈ before ++ [x] ∨ a ∈ x :: after := by
  induction before with
  | nil => exact .inr (h.subset (by simp))
  | cons first rest ih =>
    rcases List.infix_cons_iff.1 h with h | h
    · left
      obtain ⟨more, hmore⟩ := h
      have hrest : b :: more = rest ++ x :: after := (List.cons.inj hmore).2
      cases rest with
      | nil => simp [(List.cons.inj hrest).1]
      | cons second others => simp [(List.cons.inj hrest).1]
    · exact (ih h).imp_left (List.mem_cons_of_mem _)

theorem infix_of_getElem? {α : Type} {l : List α} {k : Nat} {a b : α} (ha : l[k]? = some a) (hb : l[k + 1]? = some b) :
    [a, b] <:+: l := by
  obtain ⟨hk, rfl⟩ := List.getElem?_eq_some_iff.1 ha
  obtain ⟨hk', rfl⟩ := List.getElem?_eq_some_iff.1 hb
  refine ⟨l.take k, l.drop (k + 2), ?_⟩
  rw [List.append_assoc, List.cons_append, List.singleton_append, ← List.drop_eq_getElem_cons hk',
    ← List.drop_eq_getElem_cons hk, List.take_append_drop]

section Cut

variable {d : Definition} {input : Json} {made started t : World} {out : Except Failure Unit} {c : Context} {s : Stage}
  {ran left : List Step} {m : Share} {u v : Store}

/-- A run that is cancelled before it starts takes no step. -/
theorem Traced.idle (h : Traced env d own input made started out c s ran left m) (hmade : Made own w made)
    (hu : u ∈ started.timeline.drop w.past.length) (hcancelled : At own [.cancelled] u) : ran = [] := by
  obtain ⟨o, hhalts, -⟩ := h.halts
  obtain ⟨e, he, hstatus⟩ := hcancelled
  have hstatus := List.mem_singleton.1 hstatus
  obtain ⟨e', he', hsame⟩ := (hmade.leads.trans h.leads.1).left_of_cancelled hu he hstatus
  exact hhalts.idle ⟨e', he', by rw [hsame, hstatus]; simp⟩

/-- So does one that is cancelled while it has yet to start. -/
theorem Traced.never_started (h : Traced env d own input made started out c s ran left m) (hmade : Made own w made)
    (hleads : Leads (Runs own) s.world t) (huv : [u, v] <:+: t.timeline.drop w.past.length)
    (hpending : At own [.pending] u) (hcancelled : At own [.cancelled] v) : ran = [] := by
  have hafter := h.leads.2.trans hleads
  have hbefore := (hmade.leads.trans h.leads.1).timeline
  obtain ⟨later, htimeline, hdrop⟩ := drop_timeline hafter.timeline
  have hlength : w.past.length ≤ started.past.reverse.length := by
    rw [List.length_reverse]
    exact length_past_le hbefore
  have hstarted : started.timeline.drop w.past.length =
      started.past.reverse.drop w.past.length ++ [started.store] := List.drop_append_of_le_length hlength
  rw [htimeline, timeline, List.append_assoc, List.drop_append_of_le_length hlength, List.singleton_append] at huv
  rcases mem_of_infix_append huv with hv | hu
  · exact h.idle hmade (hstarted ▸ hv) hcancelled
  · obtain ⟨e, he, hstatus⟩ := h.begun
    have hbegun : ∃ e, started.store.execution? own = some e ∧ e.status ≠ .pending := by
      refine ⟨e, he, fun hp => ?_⟩
      rw [hp] at hstatus
      exact absurd hstatus (by decide)
    obtain ⟨x, hx, hnot⟩ := hafter.since (fun s => ∃ e, s.execution? own = some e ∧ e.status ≠ .pending)
      (fun _ _ hs hruns => hruns.left hs) hbegun u (hdrop ▸ hu)
    obtain ⟨y, hy, hstatus⟩ := hpending
    rw [hx] at hy
    cases hy
    exact absurd (List.mem_singleton.1 hstatus) hnot

/-- When a run is cancelled while its steps run, the last of those that are run at all has its record by then. -/
theorem Traced.in_flight (h : Traced env d own input made started out c s ran left m) (hmade : Made own w made)
    (hworks : Works .onRuns s.world t) (hfree : ∀ n, own ∈ env.arrivals n → n ≤ w.turns + 1)
    (hu : u ∈ t.timeline.drop w.past.length) (hcancelled : At own [.cancelled] u) :
    ∃ begun, Flight env own [] { input } ran c m begun ∧ begun ≤ u.stepsOf own := by
  obtain ⟨o, hhalts, -⟩ := h.halts
  obtain ⟨begun, hflight, hcancels⟩ := hhalts.flight
  refine ⟨begun, hflight, ?_⟩
  have hleads := (hworks h.sound).leads
  have hbefore := (hmade.leads.trans h.leads.1).timeline
  rcases mem_drop_timeline hbefore (h.leads.2.timeline.trans hleads.timeline) hu with hu | hu
  · obtain rfl := h.idle hmade hu hcancelled
    refine hflight.le.trans ?_
    cases hhalts.trace
    exact Multiset.zero_le _
  rcases mem_drop_timeline h.leads.2.timeline hleads.timeline hu with hu | hu
  · have hfree : Unbothered env own started := fun n hn hown => by
      have := hfree n hown
      have := hmade.turns
      have := h.turns
      omega
    exact (Multiset.le_add_left _ _).trans (hcancels hfree u hu hcancelled)
  · -- the steps have stopped by then
    have hsteps := stepsOf_of_share hhalts.share (within_of_ranAll ran hhalts.trace).own
    refine hleads.since (begun ≤ ·.stepsOf own) (fun _ _ hle changed => hle.trans (changed.stepsOf_le own)) ?_ u hu
    rw [hsteps]
    exact hflight.le.trans (Multiset.le_add_left _ _)

end Cut

/-- What comes back of a run that was cancelled, with the results that there were when its steps stopped. -/
theorem Closed.cancelled {status : RunStatus} {error : Option String} {total : Float} {c : Context} {x y : Execution}
    {t : Store} (h : Closed own status error c total y) (hended : status = .completed ∨ status = .failed)
    (hstatus : y.status = .cancelled) (htotal : total ≠ -0.0) (hshown : y.ShownAs x) (hshows : t.Shows own x) :
    x.status = .cancelled ∧ x.error = .null ∧ x.completedAt = y.completedAt ∧
      x.output = (c.snapshot (.ofEntries c.flatten.outputs)).stored ∧ x.cost = .real total := by
  have herror : y.error = .null := by
    rcases h.ended with ⟨hs, -⟩ | ⟨-, he⟩
    · rw [hstatus] at hs
      rcases hended with hc | hf
      · rw [hc] at hs
        cases hs
      · rw [hf] at hs
        cases hs
    · exact he
  have hcost : y.cost = .real total := by
    rcases h.cost with hc | hc
    · exact hc
    · rwa [Number.add_zero htotal] at hc
  refine ⟨?_, ?_, ?_, h.output_shown hshown hshows, hshown.2 _ hcost⟩
  · rw [hshown.1, ← hstatus]
  · rw [hshown.1, ← herror]
  · rw [hshown.1]

/-- A run in which no request fails, with the top-level steps that it took and all that they made. When it is
cancelled meanwhile, it comes back cancelled since then and without an error, with the outputs and the
total that there were when its steps stopped. It took no step if it was yet to start. And if it was cancelled by
a call of its own, or before it started, then the last top-level step that it took had its record by then. A request
to cancel it that succeeds meanwhile is such a cancel, at the time at which it is made. -/
theorem cancelled_run_stops (d : Definition) (input : Json) (hw : w.Sound)
    (hcalm : (Engine.run env d input w).2.refusals = w.refusals) :
    ∃ e made started out c s ran left o m x t,
      World.createExecution env d.id input w = (.ok e, made) ∧ Stops env d e.id input made started out c s ∧
      Engine.run env d input w = (.ok x, t) ∧ x.id = e.id ∧ w.store.execution? e.id = none ∧
      d.steps = ran ++ left ∧ RanAll env e.id ran [] { input } o c m ∧ Within e.id ran m ∧
      (t.store.recordsOf e.id : Multiset StepRecord) = m.records ∧ (t.calls : Multiset Call) = m.calls + w.calls ∧
      (∀ now u v, [u, v] <:+: t.timeline.drop w.past.length → Cancels e.id now u v →
        x.status = .cancelled ∧ x.error = .null ∧ x.completedAt = some now ∧
        x.output = (c.snapshot (.ofEntries c.flatten.outputs)).stored ∧ x.cost = .real (s.ledger.total []) ∧
        (At e.id [.pending] u → ran = []) ∧
        ((∀ n, e.id ∈ env.arrivals n → n ≤ w.turns + 1) →
          ∃ begun, Flight env e.id [] { input } ran c m begun ∧ begun ≤ v.stepsOf e.id)) ∧
      ∀ a b y, a.Sound → w.timeline <+: a.timeline → World.cancel env e.id a = (.ok y, b) → b.timeline <+: t.timeline →
        ∃ u v, [u, v] <:+: t.timeline.drop w.past.length ∧ Cancels e.id a.time u v := by
  obtain ⟨e, made, started, out, c, s, ran, left, m, hcreate, hmade, hstops, htraced, hrun, hend⟩ := run_calm hw hcalm
  have hstatus := endStatus_eq out
  obtain ⟨x, t, y, hx, hshare, hfinal, hshown, hshows, hclosed⟩ :=
    conclude_calm hstatus htraced.sound htraced.status htraced.clear hend
  have hid : x.id = e.id := by rw [hshown.1]; exact hclosed.id
  obtain ⟨htotal, hrecords⟩ := htraced.records hw hmade hshare
  obtain ⟨o, hhalts, -⟩ := htraced.halts
  have hwithin := within_of_ranAll ran hhalts.trace
  refine ⟨e, made, started, out, c, s, ran, left, o, m, x, t, hcreate, hstops, hrun.trans hx, hid, hmade.fresh,
    hhalts.steps, hhalts.trace, hwithin, hrecords, congrArg Share.calls htotal, ?_, fun a b y ha hwa hcancel hbt => ?_⟩
  swap
  · obtain ⟨u, v, huv, hcancels⟩ := cancels_of_cancel ha hcancel
    exact ⟨u, v, infix_timeline_of hwa hbt huv, hcancels⟩
  intro now u v huv hcancels
  have hwent := went_conclude env hstatus (endError out) c (s.ledger.total []) htraced.sound htraced.status
  have hworks := within_conclude env Scope.takesRuns_onRuns e.id (endStatus out) (endError out) c (s.ledger.total [])
    s.world
  rw [hx] at hwent hworks
  have hv : v ∈ t.timeline.drop w.past.length := huv.subset (by simp)
  obtain ⟨z, hz, hzstatus, hztime⟩ := hcancels.cancelled
  have hat : At e.id [.cancelled] v := ⟨z, hz, List.mem_singleton.2 hzstatus⟩
  have hcourse := (hmade.leads.trans htraced.leads.1).trans (htraced.leads.2.trans hwent.leads)
  obtain ⟨y', hy', hsame⟩ := hcourse.left_of_cancelled hv hz hzstatus
  rw [hfinal] at hy'
  cases hy'
  have hcancelled : y.status = .cancelled := by rw [hsame]; exact hzstatus
  obtain ⟨hxstatus, hxerror, hxtime, hxoutput, hxcost⟩ :=
    hclosed.cancelled hstatus hcancelled (htraced.ledger.total []) hshown hshows
  have hytime : y.completedAt = some now := by rw [hsame]; exact hztime
  exact ⟨hxstatus, hxerror, hxtime.trans hytime, hxoutput, hxcost,
    fun hpending => htraced.never_started hmade hwent.leads huv hpending hat,
    fun hfree => htraced.in_flight hmade hworks hfree hv hat⟩

/-- A call within a parallel step that cancels its run. Another branch fails, and so does the step; the run comes
back cancelled, and the step after it is not started. -/
theorem cancelled_run_stops_in_flight :
    let d : Definition := {
      id := "w", name := "stop", description := none
      steps := [
        .parallel "both" [.agent "ask" "Oracle" "say" [] none,
          .validate "check" [⟨"input.ready", "exists", "not ready"⟩]],
        .agent "again" "Oracle" "say" [] none] }
    let say : Script := fun _ payload =>
      { Behaviour.echo 0.5 payload with cancels := some "id-1", advance := 2 }
    let env : Setting := { agents := ⟨[("Oracle", [("say", say)])]⟩ }
    ({} : World).Sound ∧ (Engine.run env d (.obj []) {}).2.refusals = [] ∧
      ∃ x t, Engine.run env d (.obj []) {} = (.ok x, t) ∧
        (∃ u v, [u, v] <:+: t.timeline ∧ Cancels "id-1" 2000 u v ∧
          ∃ ran left c m, d.steps = ran ++ left ∧ (t.store.recordsOf "id-1" : Multiset StepRecord) = m.records ∧
            Within "id-1" ran m ∧
            ∃ begun, Flight env "id-1" [] ⟨.obj [], {}, []⟩ ran c m begun ∧ begun ≤ v.stepsOf "id-1") ∧
        x.status = .cancelled ∧ x.error = .null ∧ x.completedAt = some 2000 := by
  intro d say env
  have hcalm : (Engine.run env d (.obj []) {}).2.refusals = [] := List.isEmpty_iff.1 (by decide +kernel)
  have hname : (World.createExecution env "w" (.obj []) {}).1.toOption.map (·.id) = some "id-1" := by decide +kernel
  have hbefore : ((Engine.run env d (.obj []) {}).2.timeline[7]?.bind (·.execution? "id-1")).map (·.status) =
      some .running := by decide +kernel
  have hafter : ((Engine.run env d (.obj []) {}).2.timeline[8]?.bind (·.execution? "id-1")).map
      (fun e => (e.status, e.completedAt)) = some (.cancelled, some 2000) := by decide +kernel
  obtain ⟨e, made, started, out, c, s, ran, left, o, m, x, t, hcreate, -, hrun, -, -, hsteps, -, hwithin, hrecords, -,
    hcut, -⟩ := cancelled_run_stops d (.obj []) sound_empty hcalm
  rw [hcreate] at hname
  have hid : e.id = "id-1" := Option.some.inj hname
  rw [hrun] at hbefore hafter
  obtain ⟨y, hy, hystatus⟩ := Option.map_eq_some_iff.1 hbefore
  obtain ⟨u, hu, hy⟩ := Option.bind_eq_some_iff.1 hy
  obtain ⟨z, hz, hzstatus⟩ := Option.map_eq_some_iff.1 hafter
  obtain ⟨v, hv, hz⟩ := Option.bind_eq_some_iff.1 hz
  have huv := infix_of_getElem? hu hv
  have hcancels : Cancels "id-1" 2000 u v :=
    ⟨⟨y, hy, by rw [hystatus]; decide⟩, z, hz, congrArg Prod.fst hzstatus, congrArg Prod.snd hzstatus⟩
  rw [hid] at hcut hrecords hwithin
  obtain ⟨hxstatus, hxerror, hxtime, -, -, -, hstarted⟩ := hcut 2000 u v huv hcancels
  have hfree : ∀ n, "id-1" ∈ env.arrivals n → n ≤ ({} : World).turns + 1 := fun _ => nofun
  exact ⟨sound_empty, hcalm, x, t, hrun, ⟨u, v, huv, hcancels, ran, left, c, m, hsteps, hrecords, hwithin,
    hstarted hfree⟩, hxstatus, hxerror, hxtime⟩

end Engine

end Conductor
