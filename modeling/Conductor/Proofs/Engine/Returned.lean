import Conductor.Proofs.Engine.Stop
import Conductor.Proofs.Run.Bodies

/-! What comes back of a run in which no request fails, beside the trace of the steps that it took. -/

namespace Conductor

namespace Engine

open World Store Run

variable {env : Setting} {d : Definition} {input : Json} {own : String} {w : World}

theorem recordsOf_of_fresh (hw : w.Sound) (hfresh : w.store.execution? own = none) : w.store.recordsOf own = [] := by
  refine List.filter_eq_nil_iff.2 fun r hr he => ?_
  have howned := hw.owned r hr
  rw [of_decide_eq_true he, hfresh] at howned
  cases howned

/-- All the records of a new run are those that its steps have made. -/
theorem Traced.records {made started t : World} {out : Except Failure Unit} {c : Context} {s : Stage}
    {ran left : List Step} {m : Share} (h : Traced env d own input made started out c s ran left m) (hw : w.Sound)
    (hmade : Made own w made) (hshare : t.share = s.world.share) :
    t.share = m + w.share ∧ (t.store.recordsOf own : Multiset StepRecord) = m.records := by
  obtain ⟨o, hhalts, -⟩ := h.halts
  have htotal : t.share = m + w.share := by rw [hshare, h.share, hmade.share]
  have hrecords := recordsOf_of_share htotal (within_of_ranAll ran hhalts.trace).own
  rw [recordsOf_of_fresh hw hmade.fresh, Multiset.coe_nil, add_zero] at hrecords
  exact ⟨htotal, hrecords⟩

/-- What can be looked up can be copied, so its output was written as the results. -/
theorem Closed.output_shown {status : RunStatus} {error : Option String} {c : Context} {total : Float}
    {x y : Execution} {t : Store} (h : Closed own status error c total y) (hshown : y.ShownAs x)
    (hshows : t.Shows own x) : x.output = (c.snapshot (.ofEntries c.flatten.outputs)).stored := by
  have hcopyable : y.copyable = true := by
    have hx := hshows.copyable
    rwa [hshown.1] at hx
  have houtput : x.output = y.output := by rw [hshown.1]
  rw [houtput]
  refine h.output.resolve_right ?_
  rw [hcopyable]
  exact nofun

/-- A run that has come back, with the top-level steps that it took and those that it left. -/
structure Returned (env : Setting) (d : Definition) (input : Json) (w : World) (x : Execution) (t : World)
    (ran left : List Step) (o : Except Failure (Assoc Output)) (c : Context) (m : Share) : Prop where
  created : ∃ e made, World.createExecution env d.id input w = (.ok e, made) ∧ e.id = x.id
  fresh : w.store.execution? x.id = none
  shows : t.store.Shows x.id x
  steps : d.steps = ran ++ left
  trace : RanAll env x.id ran [] { input } o c m
  records : (t.store.recordsOf x.id : Multiset StepRecord) = m.records
  calls : (t.calls : Multiset Call) = m.calls + w.calls
  events : m.events ≤ t.journal
  ended : x.status = .cancelled ∨ x.status = endStatus (o.map fun _ => ⟨⟩) ∧
    x.error = (Failure.said o).elim .null .str ∧ (left ≠ [] → ∃ f, o = .error f)
  output : x.output = (c.snapshot (.ofEntries c.flatten.outputs)).stored

theorem endError_eq (out : Except Failure Unit) : endError out = Failure.said out := by
  cases out <;> rfl

/-- A run that was seen to be cancelled does not end in another way. -/
theorem cancelled_of_concluded {out : Except Failure Unit} {c : Context} {total : Float} {s t : World} {x y : Execution}
    (hs : s.Sound) (hat : At own [.running, .cancelled] s.store) (hcancelled : At own [.cancelled] s.store)
    (hx : conclude env own (endStatus out) (endError out) (results c total) s = (.ok x, t))
    (hy : t.store.execution? own = some y) : y.status = .cancelled := by
  have hwent := went_conclude env (endStatus_eq out) (endError out) c total hs hat
  rw [hx] at hwent
  obtain ⟨z, hz, hstatus⟩ := hwent.leads.keeps (At own [.cancelled]) (fun _ _ hs hruns => hruns.cancelled hs)
    hcancelled
  rw [hy] at hz
  cases hz
  exact List.mem_singleton.1 hstatus

theorem run_returns (d : Definition) (input : Json) (hw : w.Sound)
    (hcalm : (Engine.run env d input w).2.refusals = w.refusals) :
    ∃ x t ran left o c m, Engine.run env d input w = (.ok x, t) ∧ Returned env d input w x t ran left o c m := by
  obtain ⟨e, made, started, out, c, s, ran, left, m, hcreate, hmade, -, htraced, hrun, hend⟩ := run_calm hw hcalm
  obtain ⟨x, t, y, hx, hshare, hfinal, hshown, hshows, hclosed⟩ :=
    conclude_calm (endStatus_eq out) htraced.sound htraced.status htraced.clear hend
  have hid : x.id = e.id := by rw [hshown.1]; exact hclosed.id
  obtain ⟨htotal, hrecords⟩ := htraced.records hw hmade hshare
  obtain ⟨o, hhalts, rfl⟩ := htraced.halts
  have hevents : (t.journal : Multiset Event) = m.events + w.journal := congrArg Share.events htotal
  refine ⟨x, t, ran, left, o, c, m, hrun.trans hx, ⟨e, made, hcreate, hid.symm⟩, by rw [hid]; exact hmade.fresh,
    by rw [hid]; exact hshows, hhalts.steps, by rw [hid]; exact hhalts.trace, by rw [hid]; exact hrecords,
    congrArg Share.calls htotal, by rw [hevents]; exact Multiset.le_add_right _ _, ?_,
    hclosed.output_shown hshown hshows⟩
  have hstatus : x.status = y.status := by rw [hshown.1]
  have herror : x.error = y.error := by rw [hshown.1]
  rw [hstatus, herror]
  rcases hclosed.ended with ⟨hended, hsaid⟩ | ⟨hcancelled, -⟩
  · rw [endError_eq, Failure.said_map] at hsaid
    by_cases hcancelled : y.status = .cancelled
    · exact .inl hcancelled
    refine .inr ⟨hended, hsaid, fun hleft => (hhalts.left hleft).resolve_right fun h => hcancelled ?_⟩
    exact cancelled_of_concluded htraced.sound htraced.status h hx hfinal
  · exact .inl hcancelled

namespace Returned

variable {x : Execution} {t : World} {ran left : List Step} {o : Except Failure (Assoc Output)} {c : Context} {m : Share}

/-- A run that comes back as completed took all of its steps, and they went well. -/
theorem of_completed (h : Returned env d input w x t ran left o c m) (hc : x.status = .completed) :
    ran = d.steps ∧ ∃ outputs, o = .ok outputs := by
  obtain ⟨hstatus, -, hleft⟩ := h.ended.resolve_left (by simp [hc])
  cases o with
  | error f =>
    rw [hc] at hstatus
    cases hstatus
  | ok outputs =>
    have hnone : left = [] := by
      by_contra hl
      obtain ⟨f, hf⟩ := hleft hl
      cases hf
    exact ⟨by rw [h.steps, hnone, List.append_nil], outputs, rfl⟩

theorem status_of_record (h : Returned env d input w x t ran left o c m) :
    ∀ r ∈ t.store.recordsOf x.id, r.status ∈ [.completed, .failed, .skipped] := by
  intro r hr
  refine (within_of_ranAll ran h.trace).ended r ?_
  rw [← h.records]
  exact hr

theorem count_records_le (h : Returned env d input w x t ran left o c m) (id : String) :
    ((t.store.recordsOf x.id).map (·.step)).count id ≤ (d.flat.map Step.id).count id := by
  have hle : (m.records.map (·.step)).count id ≤ (ids (Step.flatAll ran)).count id :=
    Multiset.count_le_of_le id (within_of_ranAll ran h.trace).steps
  rw [← h.records, Multiset.map_coe, Multiset.coe_count, ids, Multiset.coe_count] at hle
  refine hle.trans ?_
  rw [Definition.flat, h.steps, Step.flatAll_append, List.map_append, List.count_append]
  exact Nat.le_add_right _ _

/-- Each step of a run that comes back as completed has run or was skipped, and has the one record that says so. -/
theorem divided (h : Returned env d input w x t ran left o c m) (hc : x.status = .completed) :
    ∃ ran skipped, Divides (Asked x.id t.journal) d.steps ran skipped ∧ (ran ++ skipped).Perm d.flat ∧
      ((t.store.recordsOf x.id).map fun r => (r.step, r.status)).Perm
        (ran.map (fun step => (step.id, .completed)) ++ skipped.map fun step => (step.id, .skipped)) ∧
      t.calls.length = w.calls.length + ran.countP (·.kind = .agent) := by
  obtain ⟨rfl, outputs, rfl⟩ := h.of_completed hc
  obtain ⟨started, skipped, hdivides, htally⟩ := whole_of_ranAll d.steps h.trace
  refine ⟨started, skipped, hdivides.mono fun _ _ => asked_mono h.events, ?_, ?_, ?_⟩
  · exact Multiset.coe_eq_coe.1 ((Multiset.coe_add _ _).symm.trans hdivides.whole)
  · rw [← Multiset.coe_eq_coe, ← Multiset.map_coe, h.records, htally.records, ← Multiset.coe_add]
    rfl
  · have hcard := congrArg Multiset.card h.calls
    rw [Multiset.card_add, Multiset.coe_card, Multiset.coe_card, htally.calls] at hcard
    rw [hcard, Nat.add_comm]

end Returned

end Engine

end Conductor
