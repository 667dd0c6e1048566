import Conductor.Proofs.Engine.Returned

/-! The records of a run are a complete trace of it. Nothing is lost, recorded twice or left running, on
whatever path a run came to its end. -/

namespace Conductor

namespace Engine

open World Store Run

variable {env : Setting} {w : World}

/-- A run in which no request fails comes back, and each of its records has come to an end, with no more
of them for any id than there are steps of that id. When the run is completed, each step of its definition
has one record: it is completed, or skipped when a condition that was started did not take the branch in
which it is held; and each agent step that is completed has made one call. -/
theorem records_are_a_complete_trace (d : Definition) (input : Json) (hw : w.Sound)
    (hcalm : (Engine.run env d input w).2.refusals = w.refusals) :
    ∃ x t, Engine.run env d input w = (.ok x, t) ∧ w.store.execution? x.id = none ∧ t.store.Shows x.id x ∧
      (∀ r ∈ t.store.recordsOf x.id, r.status ∈ [.completed, .failed, .skipped]) ∧
      (∀ id, ((t.store.recordsOf x.id).map (·.step)).count id ≤ (d.flat.map Step.id).count id) ∧
      (x.status = .completed →
        ((t.store.recordsOf x.id).map (·.step)).Perm (d.flat.map Step.id) ∧
        ∃ ran skipped, Divides (Asked x.id t.journal) d.steps ran skipped ∧ (ran ++ skipped).Perm d.flat ∧
          ((t.store.recordsOf x.id).map fun r => (r.step, r.status)).Perm
            (ran.map (fun step => (step.id, .completed)) ++ skipped.map fun step => (step.id, .skipped)) ∧
          t.calls.length = w.calls.length + ran.countP (·.kind = .agent)) := by
  obtain ⟨x, t, ran, left, o, c, m, hrun, hreturned⟩ := run_returns d input hw hcalm
  refine ⟨x, t, hrun, hreturned.fresh, hreturned.shows, hreturned.status_of_record, hreturned.count_records_le,
    fun hcompleted => ?_⟩
  obtain ⟨ran, skipped, hdivides, hwhole, hrecords, hcalls⟩ := hreturned.divided hcompleted
  have hsteps := hrecords.map Prod.fst
  rw [List.map_map, List.map_append, List.map_map, List.map_map] at hsteps
  have hids : (ran.map Step.id ++ skipped.map Step.id).Perm (d.flat.map Step.id) := by
    rw [← List.map_append]
    exact hwhole.map Step.id
  exact ⟨hsteps.trans hids, ran, skipped, hdivides, hwhole, hrecords, hcalls⟩

/-- A condition that takes its first branch, where an agent is asked, and passes over what the other holds. -/
theorem records_are_a_complete_trace_of_a_choice :
    let d : Definition := {
      id := "w", name := "choose", description := none
      steps := [.condition "gate" "input.ask === true" [.agent "ask" "Oracle" "say" [] none]
        [.parallel "both" [.transform "first" [] none, .transform "second" [] none]]] }
    let say : Script := fun _ payload => .echo 0.5 payload
    let env : Setting := { agents := ⟨[("Oracle", [("say", say)])]⟩ }
    let input := Json.obj [("ask", .bool true)]
    ({} : World).Sound ∧ (Engine.run env d input {}).2.refusals = [] ∧
      ∃ x t, Engine.run env d input {} = (.ok x, t) ∧ x.status = .completed ∧
        ((t.store.recordsOf x.id).map (·.step)).Perm ["gate", "ask", "both", "first", "second"] ∧
        ∃ ran skipped, Divides (Asked x.id t.journal) d.steps ran skipped ∧ (ran ++ skipped).Perm d.flat ∧
          t.calls.length = 0 + ran.countP (·.kind = .agent) := by
  intro d say env input
  have hcalm : (Engine.run env d input {}).2.refusals = [] := List.isEmpty_iff.1 (by decide +kernel)
  have hcompleted : (Engine.run env d input {}).1.toOption.map (·.status) = some .completed := by decide +kernel
  obtain ⟨x, t, hrun, -, -, -, -, htold⟩ := records_are_a_complete_trace d input sound_empty hcalm
  rw [hrun] at hcompleted
  have hstatus : x.status = .completed := Option.some.inj hcompleted
  obtain ⟨hids, ran, skipped, hdivides, hwhole, -, hcalls⟩ := htold hstatus
  exact ⟨sound_empty, hcalm, x, t, hrun, hstatus, hids, ran, skipped, hdivides, hwhole, hcalls⟩

end Engine

end Conductor
