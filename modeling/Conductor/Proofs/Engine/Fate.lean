import Conductor.Proofs.Engine.Returned
import Conductor.Proofs.Run.Fate

/-! How a run fails: with the message of the first top-level step that failed, which is the message of the step in
it where the failure arose. -/

namespace Conductor

namespace Engine

open World Store Run Fate

variable {env : Setting} {w : World}

/-- What follows a step that failed is not started. -/
theorem befallsAll_append {own : String} {events : Multiset Event} {ran left : List Step} {fates : List Fate}
    (h : BefallsAll env own events ran fates) (hleft : left ≠ [] → (firstMessage? fates).isSome) :
    BefallsAll env own events (ran ++ left) fates := by
  induction ran generalizing fates with
  | nil =>
    cases h
    have hnil : left = [] := by
      by_contra hl
      cases hleft hl
    rw [hnil]
    exact .nil
  | cons first rest ih =>
    cases h with
    | cons ran went others =>
      refine .cons ran went (ih others fun hl => ?_)
      have hsome := hleft hl
      rw [firstMessage?, Option.isSome_or, Bool.or_eq_true] at hsome
      exact hsome.resolve_left went
    | stopped ran failed => exact .stopped ran failed

/-- A run in which no request fails, and which is not cancelled, fails just when one of its top-level steps does,
with the message of the first that does. Its records tell what became of each step: one that failed has its own
message and no output, and so do all that enclose it; what follows it in its sequence has no record. -/
theorem failures_keep_message_and_path (d : Definition) (input : Json) (hw : w.Sound)
    (hcalm : (Engine.run env d input w).2.refusals = w.refusals) :
    ∃ x t, Engine.run env d input w = (.ok x, t) ∧ w.store.execution? x.id = none ∧ t.store.Shows x.id x ∧
      (x.status ≠ .cancelled →
        ∃ fates, BefallsAll env x.id t.journal d.steps fates ∧
          x.status ∈ [.completed, .failed] ∧ (x.status = .failed ↔ ∃ fate ∈ fates, fate.Fails) ∧
          x.error = (firstMessage? fates).elim .null .str ∧
          ((t.store.recordsOf x.id).map StepRecord.line).Perm (lines fates) ∧
          (∀ r ∈ t.store.recordsOf x.id, r.status = .failed → r.output = .null) ∧
          ∀ fate ∈ flatAll fates, ∀ part ∈ fate.flat, part.Fails → fate.Fails) := by
  obtain ⟨x, t, ran, left, o, c, m, hrun, hreturned⟩ := run_returns d input hw hcalm
  refine ⟨x, t, hrun, hreturned.fresh, hreturned.shows, fun hnot => ?_⟩
  obtain ⟨hstatus, herror, hleft⟩ := hreturned.ended.resolve_left hnot
  obtain ⟨fates, hfates, hsaid, htells⟩ := befallsAll_of_ranAll ran hreturned.trace hreturned.events
  have hfailed : x.status = .failed ↔ (firstMessage? fates).isSome := by
    rw [hstatus, hsaid]
    cases o <;> simp [endStatus, Except.map]
  refine ⟨fates, ?_, ?_, hfailed.trans (isSome_firstMessage? fates), ?_, ?_, ?_, ?_⟩
  · rw [hreturned.steps]
    refine befallsAll_append hfates fun hl => ?_
    obtain ⟨f, rfl⟩ := hleft hl
    rw [hsaid]
    rfl
  · rw [hstatus]
    rcases endStatus_eq (o.map fun _ => ⟨⟩) with h | h <;> rw [h] <;> simp
  · rw [herror, hsaid]
  · rw [← Multiset.coe_eq_coe, ← Multiset.map_coe, hreturned.records]
    exact htells.records
  · intro r hr
    refine htells.bare r ?_
    rw [← hreturned.records]
    exact hr
  · exact fun fate _ part => fails_of_mem_flat fate

/-- Two branches that fail. The first of them decides, a choice in which an agent fails; the step after them is not
started. -/
theorem failures_keep_message_and_path_of_two_branches :
    let d : Definition := {
      id := "w", name := "fail", description := none
      steps := [
        .parallel "both" [
          .condition "gate" "input.ask === true" [.agent "ask" "Oracle" "say" [] none, .transform "next" [] none] [],
          .validate "check" [⟨"input.ready", "exists", "not ready"⟩]],
        .transform "after" [] none] }
    let say : Script := fun _ _ => { outcome := .fails "no answer" }
    let env : Setting := { agents := ⟨[("Oracle", [("say", say)])]⟩ }
    let input := Json.obj [("ask", .bool true)]
    ({} : World).Sound ∧ (Engine.run env d input {}).2.refusals = [] ∧
      ∃ x t, Engine.run env d input {} = (.ok x, t) ∧ x.status = .failed ∧ x.error.text = "\"no answer\"" ∧
        ∃ fates, BefallsAll env x.id t.journal d.steps fates ∧ x.error = (firstMessage? fates).elim .null .str ∧
          ((lines fates).map fun line => (line.step, line.status, line.error.text)).Perm
            [("both", .failed, "\"no answer\""), ("gate", .failed, "\"no answer\""),
              ("ask", .failed, "\"no answer\""), ("check", .failed, "\"not ready\"")] := by
  intro d say env input
  have hcalm : (Engine.run env d input {}).2.refusals = [] := List.isEmpty_iff.1 (by decide +kernel)
  have hends : (Engine.run env d input {}).1.toOption.map (fun x => (x.id, x.status, x.error.text)) =
      some ("id-1", .failed, "\"no answer\"") := by decide +kernel
  have hlines : ((Engine.run env d input {}).2.store.recordsOf "id-1").map
      (fun r => (r.line.step, r.line.status, r.line.error.text)) =
        [("both", .failed, "\"no answer\""), ("gate", .failed, "\"no answer\""),
          ("ask", .failed, "\"no answer\""), ("check", .failed, "\"not ready\"")] := by decide +kernel
  obtain ⟨x, t, hrun, -, -, htold⟩ := failures_keep_message_and_path d input sound_empty hcalm
  rw [hrun] at hends hlines
  obtain ⟨hid, hstatus, herror⟩ : x.id = "id-1" ∧ x.status = .failed ∧ x.error.text = "\"no answer\"" := by
    simpa [Except.toOption] using hends
  obtain ⟨fates, hfates, -, -, hsaid, hrecords, -, -⟩ := htold (by rw [hstatus]; decide)
  refine ⟨sound_empty, hcalm, x, t, hrun, hstatus, herror, fates, hfates, hsaid, ?_⟩
  rw [hid] at hrecords
  have hwritten := hrecords.map fun line => (line.step, line.status, line.error.text)
  rw [List.map_map] at hwritten
  exact hwritten.symm.trans (.of_eq hlines)

end Engine

end Conductor
