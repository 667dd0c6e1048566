import Conductor.Estimate
import Conductor.Proofs.Engine.Calls
import Conductor.Proofs.Template.Roots

/-! What an estimate says of the runs of its workflow. It has an entry for each agent step that is written, and no run
makes a call that none of them stands for, whatever its agents do and whatever fails. -/

namespace Conductor

def StepEstimate.caller (item : StepEstimate) : String × String := (item.step, item.agent)

def Dispatch.caller (m : Dispatch) : String × String := (m.id, m.agent)

def Step.caller? (step : Step) : Option (String × String) := step.agent?.map (step.id, ·)

theorem Definition.filterMap_callers (d : Definition) :
    d.callers.filterMap Step.caller? = d.flat.filterMap Step.caller? := by
  rw [callers, List.filterMap_filter]
  refine List.filterMap_congr fun step _ => ?_
  cases step <;> rfl

theorem Dispatch.filterMap_steps (made : Multiset Dispatch) :
    (made.map Dispatch.step).filterMap Step.caller? = made.map Dispatch.caller := by
  rw [Multiset.filterMap_map]
  exact congrFun (Multiset.filterMap_eq_map Dispatch.caller) made

namespace Estimate

/-- What stands in an estimate for a step, in a view of the input alone. -/
inductive Entry (p : Pricing) (view : View) : Step → StepEstimate → Prop
  | call {id agent operation : String} {fields : Members} {key : Option String} {payload : Json}
      (resolved : Template.resolve view (.obj fields) = .ok payload) :
      Entry p view (.agent id agent operation fields key) (ofCall p id agent payload)

theorem entries_of_ofSteps {p : Pricing} {view : View} {steps : List Step} {items : List StepEstimate}
    (h : ofSteps p view steps = .ok items) : List.Forall₂ (Entry p view) (steps.filter (·.kind = .agent)) items := by
  induction steps generalizing items with
  | nil =>
    cases h
    exact .nil
  | cons first rest ih =>
    cases first with
    | agent id agent operation input key =>
      obtain ⟨payload, hpayload, h⟩ := bind_eq_ok h
      obtain ⟨others, hothers, h⟩ := bind_eq_ok h
      cases h
      exact .cons (.call hpayload) (ih hothers)
    | _ => exact ih h

theorem ofDefinition_ok {config : Config} {d : Definition} {input : Json} {estimate : Estimate}
    (h : ofDefinition config d input = .ok estimate) :
    List.Forall₂ (Entry (config.pricingFor none) { input := input, steps := .obj [] }) d.callers estimate.breakdown ∧
      estimate.tokens = (estimate.breakdown.map StepEstimate.tokens).sum := by
  obtain ⟨items, hitems, h⟩ := bind_eq_ok h
  cases h
  exact ⟨entries_of_ofSteps hitems, List.sum_eq_foldl.symm⟩

theorem callers_of_entries {p : Pricing} {view : View} {steps : List Step} {items : List StepEstimate}
    (h : List.Forall₂ (Entry p view) steps items) :
    items.map StepEstimate.caller = steps.filterMap Step.caller? := by
  induction h with
  | nil => rfl
  | cons entry _ ih =>
    cases entry
    rw [List.map_cons, ih]
    rfl

/-- A template in which no path starts at the steps comes to the payload that was priced. -/
theorem Entry.tokens {p : Pricing} {input : Json} {item : StepEstimate} {m : Dispatch}
    (h : Entry p { input := input, steps := .obj [] } m.step item) (hm : m.Fits input)
    (hr : ¬ Template.Rooted .steps (.obj m.fields)) :
    item.tokens = countTokens m.payload + overheadTokens + Catalog.answerTokens m.agent := by
  cases h with
  | call resolved =>
    have hview : View.Agree [] m.context.view { input := input, steps := .obj [] } := by
      rw [← hm.input]
      exact m.context.agree_input
    rw [← Template.resolve_eq_of_rootless hview hr, hm.payload] at resolved
    cases resolved
    rfl

end Estimate

namespace Engine

/-- What is estimated for a workflow covers each of its runs with the same input. The agent steps are listed as they
are written, depth first, and their tokens added up. No run makes a call but for one of the steps that are listed,
and none makes two for one, whatever becomes of it; a run that is completed without a step being passed over makes
one for each. And the tokens of a step that does not refer to other steps are those of the payload that its agent
was given, with what goes along with every call and what such an agent answers on average. -/
theorem estimate_covers_every_run {config : Config} {d : Definition} {input : Json} {estimate : Estimate}
    (h : Estimate.ofDefinition config d input = .ok estimate) :
    estimate.breakdown.map StepEstimate.caller = d.flat.filterMap Step.caller? ∧
      estimate.tokens = (estimate.breakdown.map StepEstimate.tokens).sum ∧
      ∀ (env : Setting) (w t : World) (out : Except Failure Execution), w.Sound →
        Engine.run env d input w = (out, t) →
          ∃ (own : String) (made : Multiset Dispatch), w.store.execution? own = none ∧
            Calls own input d.callers w t made ∧
            made.map Dispatch.caller ≤ estimate.breakdown.map StepEstimate.caller ∧
            (∀ x, out = .ok x → t.store.Shows own x ∧
              (x.status = .completed → (∀ r ∈ t.store.recordsOf own, r.status ≠ .skipped) →
                made.map Dispatch.caller = estimate.breakdown.map StepEstimate.caller)) ∧
            List.Forall₂ (fun step item => ∀ m ∈ made, m.step = step → ¬ Template.Rooted .steps (.obj m.fields) →
              item.tokens = Estimate.countTokens m.payload + Estimate.overheadTokens + Catalog.answerTokens m.agent)
              d.callers estimate.breakdown := by
  obtain ⟨hentries, htokens⟩ := Estimate.ofDefinition_ok h
  have hlisted : estimate.breakdown.map StepEstimate.caller = d.callers.filterMap Step.caller? :=
    Estimate.callers_of_entries hentries
  refine ⟨hlisted.trans d.filterMap_callers, htokens, fun env w t out hw hrun => ?_⟩
  obtain ⟨own, made, hfresh, hcalls, -, hown⟩ := calls_run env d input hw
  rw [hrun] at hcalls
  refine ⟨own, made, hfresh, hcalls, ?_, ?_, ?_⟩
  · rw [hlisted, ← Dispatch.filterMap_steps, ← Multiset.filterMap_coe]
    exact Multiset.filterMap_le_filterMap _ hcalls.steps
  · rintro x rfl
    refine ⟨?_, fun hc hskip => ?_⟩
    · obtain ⟨e, started, -, hcreate, -, -, -, hshows⟩ := run_costs hw hrun
      rw [← hown e started hcreate]
      exact hshows
    · rw [hlisted, ← Dispatch.filterMap_steps, ← Multiset.filterMap_coe, hcalls.complete hw hown hrun hc hskip]
  · refine hentries.imp ?_
    rintro step item entry m hm rfl hr
    exact entry.tokens (hcalls.fits m hm) hr

/-- Two branches, in one of which a condition holds, and a step that reads what came of them. What the first agent is
given was known when the run was priced. -/
theorem estimate_covers_every_run_of_three_calls :
    let draft : Step := .agent "draft" "TestWeaver" "generate" [("topic", .str "$\x7binput.topic\x7d")] none
    let dig : Step := .agent "dig" "Oracle" "say" [] none
    let check : Step := .agent "check" "Oracle" "say" [("draft", .str "$\x7bsteps.draft.output\x7d")] none
    let d : Definition := {
      id := "w", name := "price", description := none
      steps := [.parallel "both" [draft, .condition "gate" "input.deep === true" [dig] []], check] }
    let say : Script := fun _ payload => .echo 0.25 payload
    let env : Setting := { agents := ⟨[("TestWeaver", [("generate", say)]), ("Oracle", [("say", say)])]⟩ }
    let input := Json.obj [("topic", .str "logins"), ("deep", .bool true)]
    let listed := [("draft", "TestWeaver"), ("dig", "Oracle"), ("check", "Oracle")]
    ∃ estimate, Estimate.ofDefinition {} d input = .ok estimate ∧
      estimate.breakdown.map StepEstimate.caller = listed ∧
      ∃ x t own made, Engine.run env d input {} = (.ok x, t) ∧ x.status = .completed ∧
        Calls own input d.callers {} t made ∧ made.map Dispatch.caller = listed ∧
        ∀ m ∈ made, m.id = "draft" → (estimate.breakdown.map StepEstimate.tokens).head? =
          some (Estimate.countTokens m.payload + 500 + 2000) := by
  intro draft dig check d say env input listed
  have hgiven : (Estimate.ofDefinition {} d input).isOk = true := by decide +kernel
  have hended : (Engine.run env d input {}).1.toOption.map (·.status) = some .completed := by decide +kernel
  have hkept : (Engine.run env d input {}).2.store.records.all (·.status ≠ .skipped) = true := by decide +kernel
  have hroots : (Template.compile "$\x7binput.topic\x7d").toOption.map Template.sources = some [.input] := by
    decide +kernel
  rcases h : Estimate.ofDefinition {} d input with _ | estimate
  · rw [h] at hgiven
    cases hgiven
  rcases hrun : Engine.run env d input {} with ⟨f | x, t⟩
  · rw [hrun] at hended
    cases hended
  rw [hrun] at hended hkept
  have hcompleted : x.status = .completed := Option.some.inj hended
  obtain ⟨hlisted, -, hruns⟩ := estimate_covers_every_run h
  have hlisted : estimate.breakdown.map StepEstimate.caller = listed := hlisted
  obtain ⟨own, made, -, hcalls, -, hall, htokens⟩ := hruns env {} t (.ok x) World.sound_empty hrun
  have hmade := (hall x rfl).2 hcompleted fun r hr => by
    simpa using List.all_eq_true.1 hkept r (List.mem_of_mem_filter hr)
  rw [hlisted] at hmade
  refine ⟨estimate, rfl, hlisted, x, t, own, made, rfl, hcompleted, hcalls, hmade, fun m hm hid => ?_⟩
  have hstep : m.step = draft := by
    have hmem : m.step ∈ [draft, dig, check] := Multiset.mem_of_le hcalls.steps (Multiset.mem_map_of_mem _ hm)
    have hname : m.step.id = "draft" := hid
    simp only [List.mem_cons, List.not_mem_nil, or_false] at hmem
    rcases hmem with hdraft | hdig | hcheck
    · exact hdraft
    · rw [hdig] at hname
      exact absurd hname (by decide)
    · rw [hcheck] at hname
      exact absurd hname (by decide)
  obtain ⟨hagent, hfields⟩ : m.agent = "TestWeaver" ∧ m.fields = [("topic", .str "$\x7binput.topic\x7d")] := by
    injection hstep with _ hagent _ hfields
    exact ⟨hagent, hfields⟩
  have hrootless : ¬ Template.Rooted .steps (.obj m.fields) := by
    rw [hfields]
    rintro ⟨text, template, hholds, -, hcompile, hsource⟩
    obtain rfl : text = "$\x7binput.topic\x7d" := by
      cases hholds with
      | member hmem htext =>
        cases List.mem_singleton.1 hmem
        cases htext
        rfl
    rw [hcompile] at hroots
    have hsources : template.sources = [.input] := Option.some.inj hroots
    rw [hsources] at hsource
    cases List.mem_singleton.1 hsource
  obtain ⟨item, others, htoken, -, hbreakdown⟩ := List.forall₂_cons_left_iff.1 htokens
  rw [hbreakdown, List.map_cons, List.head?_cons, htoken m hm hstep hrootless, hagent]
  rfl

end Engine

end Conductor
