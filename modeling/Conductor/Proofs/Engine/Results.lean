import Conductor.Proofs.Engine.Returned
import Conductor.Proofs.Run.Results

/-! What a run gives back agrees with its records: the output holds what the steps published, each under its key,
and the record of each of these steps holds the same. -/

namespace Conductor

theorem Context.outputs_flatten_root {c : Context} (houter : c.outer = []) (h : c.own.outputs.names.Nodup) :
    c.flatten.outputs = c.own.outputs := by
  rw [flatten, layers, houter]
  exact Assoc.overlay_of_nodup h

namespace Engine

open World Store Run

variable {env : Setting} {w : World}

theorem sorts_of_nodup {steps : List Step} (h : (steps.map Step.id).Nodup) :
    Sorts ((steps.filter Step.publishes).map Step.id) steps := by
  intro step hs
  rw [List.mem_map]
  constructor
  · rintro ⟨other, ho, hid⟩
    obtain ⟨hmem, hp⟩ := List.mem_filter.1 ho
    rwa [← List.inj_on_of_nodup_map h hmem hs hid]
  · exact fun hp => ⟨step, List.mem_filter.2 ⟨hs, hp⟩, rfl⟩

/-- The output of a run in which no request fails has one entry for each of some agent, aggregate and transform
steps that were completed, in the order in which they are written; of a run that was completed, for each of
them. The entry and the record of a step are the same output. Where the output holds the table of steps, both are
closed, each over the table as it stood when it was written, and only then may they differ. -/
theorem output_agrees_with_records (d : Definition) (input : Json) (hw : w.Sound)
    (hids : (d.flat.map Step.id).Nodup) (hkeys : (Step.keys d.flat).Nodup)
    (hcalm : (Engine.run env d input w).2.refusals = w.refusals) :
    ∃ x t, Engine.run env d input w = (.ok x, t) ∧ w.store.execution? x.id = none ∧ t.store.Shows x.id x ∧
      ∃ (results : List Result) (table : Assoc Output),
        x.output = .obj (results.map fun r => (r.step.resultKey, r.output.closed [table])) ∧
        (results.map fun r => r.step.resultKey).Nodup ∧
        (results.map Result.step).Sublist (d.flat.filter Step.publishes) ∧
        (∀ r ∈ results, r.record ∈ t.store.recordsOf x.id ∧ r.Kept x.id ∧
          (r.output.isOpen = false → r.output.closed [table] = r.record.output)) ∧
        (x.status = .completed → (results.map Result.record).Perm ((t.store.recordsOf x.id).filter fun r =>
          r.status = .completed ∧ r.step ∈ (d.flat.filter Step.publishes).map Step.id)) := by
  obtain ⟨x, t, ran, left, o, c, m, hrun, hreturned⟩ := run_returns d input hw hcalm
  have hran : (Step.flatAll ran).Sublist d.flat := by
    rw [Definition.flat, hreturned.steps, Step.flatAll_append]
    exact List.sublist_append_left _ _
  have hapart : KeysApart { input } (Step.flatAll ran) := hkeys.sublist ((hran.filter _).map _)
  obtain ⟨results, hresults⟩ :=
    brings_of_ranAll ran (fun s hs => sorts_of_nodup hids s (hran.subset hs)) hapart hreturned.trace
  have hnames : c.own.outputs.names = (results.map Result.step).map Step.resultKey := hresults.names
  have hnodup : c.own.outputs.names.Nodup := by
    rw [hnames]
    exact hapart.sublist hresults.keys
  refine ⟨x, t, hrun, hreturned.fresh, hreturned.shows, results, c.own.steps, ?_, ?_, ?_, ?_, ?_⟩
  · have hlevels : c.levels = [c.own.steps] := by rw [Context.levels, Context.layers, hresults.outer]; rfl
    have houtputs : c.own.outputs = results.map Result.entry := hresults.outputs
    rw [hreturned.output, Context.snapshot, Output.stored_snapshot, Context.outputs_flatten_root hresults.outer hnodup,
      Output.closed_ofEntries hnodup, hlevels, houtputs, List.map_map]
    rfl
  · rw [hnames, List.map_map] at hnodup
    exact hnodup
  · exact hresults.steps.trans (hran.filter _)
  · intro r hr
    have hkept := hresults.kept r hr
    refine ⟨?_, hkept, fun hclosed => ?_⟩
    · rw [← Multiset.mem_coe, hreturned.records]
      exact Multiset.mem_of_le hresults.records (List.mem_map_of_mem hr)
    · obtain ⟨c', houtput⟩ := hkept.reads.output
      rw [Output.KeptIn, Output.closed_of_not_open hclosed, or_self] at houtput
      rw [Output.closed_of_not_open hclosed, houtput]
  · intro hcompleted
    obtain ⟨-, outputs, rfl⟩ := hreturned.of_completed hcompleted
    have hall := hresults.all rfl
    rw [← hreturned.records, Multiset.filter_coe] at hall
    exact Multiset.coe_eq_coe.1 hall

/-- The first of two transforms hands out the table of steps. Its record holds the table as it stood before the second
one, the output of the run as it stood after it. -/
theorem output_agrees_with_records_but_for_the_table :
    let d : Definition := {
      id := "w", name := "snap", description := none
      steps := [.transform "a" [("all", .str "${steps}")] none, .transform "b" [("x", .num (.whole 1))] none] }
    let env : Setting := { agents := ⟨[]⟩ }
    let input := Json.obj []
    let w : World := { store := .table {} }
    w.Sound ∧ (d.flat.map Step.id).Nodup ∧ (Step.keys d.flat).Nodup ∧ (Engine.run env d input w).2.refusals = [] ∧
      ∃ x t, Engine.run env d input w = (.ok x, t) ∧ x.status = .completed ∧
        (∃ (results : List Result) (table : Assoc Output),
          x.output = .obj (results.map fun r => (r.step.resultKey, r.output.closed [table])) ∧
          (results.map fun r => (r.record.step, r.record.output.text)).Perm [
            ("a", "\x7b\"all\": \"\x7b'a': \x7b'output': \x7b'all': mappingproxy(\x7b...\x7d)\x7d\x7d\x7d\"\x7d"),
            ("b", "\x7b\"x\": 1\x7d")]) ∧
        x.output.text =
          "\x7b\"a\": \x7b\"all\": \"\x7b'a': \x7b'output': \x7b'all': mappingproxy(\x7b...\x7d)\x7d\x7d, " ++
            "'b': \x7b'output': \x7b'x': 1\x7d\x7d\x7d\"\x7d, \"b\": \x7b\"x\": 1\x7d\x7d" := by
  intro d env input w
  have hsound : w.Sound := ⟨⟨List.nodup_nil, nofun⟩, fun _ _ => rfl, nofun, nofun⟩
  have hids : (d.flat.map Step.id).Nodup := by decide
  have hkeys : (Step.keys d.flat).Nodup := by decide
  have hcalm : (Engine.run env d input w).2.refusals = [] := List.isEmpty_iff.1 (by decide +kernel)
  have hends : (Engine.run env d input w).1.toOption.map (fun x => (x.id, x.status, x.output.text)) =
    some ("id-1", .completed,
      "\x7b\"a\": \x7b\"all\": \"\x7b'a': \x7b'output': \x7b'all': mappingproxy(\x7b...\x7d)\x7d\x7d, " ++
        "'b': \x7b'output': \x7b'x': 1\x7d\x7d\x7d\"\x7d, \"b\": \x7b\"x\": 1\x7d\x7d") := by decide +kernel
  have hrecords : (((Engine.run env d input w).2.store.recordsOf "id-1").filter fun r =>
      r.status = .completed ∧ r.step ∈ (d.flat.filter Step.publishes).map Step.id).map
        (fun r => (r.step, r.output.text)) = [
          ("a", "\x7b\"all\": \"\x7b'a': \x7b'output': \x7b'all': mappingproxy(\x7b...\x7d)\x7d\x7d\x7d\"\x7d"),
          ("b", "\x7b\"x\": 1\x7d")] := by decide +kernel
  obtain ⟨x, t, hrun, -, -, results, table, houtput, -, -, -, hall⟩ :=
    output_agrees_with_records d input hsound hids hkeys hcalm
  rw [hrun] at hends hrecords
  obtain ⟨hid, hstatus, htext⟩ : x.id = "id-1" ∧ x.status = .completed ∧ x.output.text = _ := by
    simpa only [Except.toOption, Option.map_some, Option.some.injEq, Prod.mk.injEq] using hends
  refine ⟨hsound, hids, hkeys, hcalm, x, t, hrun, hstatus, ⟨results, table, houtput, ?_⟩, htext⟩
  have hsame := (hall hstatus).map fun r => (r.step, r.output.text)
  rw [hid, List.map_map] at hsame
  exact hsame.trans (.of_eq hrecords)

end Engine

end Conductor
