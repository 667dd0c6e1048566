import Conductor.Proofs.Engine.Calls

/-! What a run costs in the end, whether it went well, failed or was cancelled, whatever requests failed and however
long its branches waited. -/

namespace Conductor

namespace World

variable {env : Setting} {w t : World} {ends : List CallEnd} {made : Multiset Dispatch}

/-- The answers to the calls between two worlds, in the order in which they were taken up. Each of those calls is
answered once, as the operation of its agent ended when no other calls had been made before it. -/
structure Answers (env : Setting) (w t : World) (ends : List CallEnd) : Prop where
  calls : w.calls <+: t.calls
  answers : t.answers = w.answers ++ ends
  once : (ends.map CallEnd.number).Perm (List.range' w.calls.length (t.calls.length - w.calls.length))
  each : ∀ e ∈ ends, ∃ call script before, t.calls[e.number]? = some call ∧ before.calls = t.calls.take e.number ∧
    env.agents.get call.agent call.operation = .ok script ∧
    (invoke env call.agent call.operation script call.payload before).1 = e.outcome

end World

namespace Engine

open World Store

variable {env : Setting} {w t : World} {ends : List CallEnd} {made : Multiset Dispatch}

theorem Answered.begins (h : Answered env w t made) : w.calls <+: t.calls := by
  refine List.prefix_iff_getElem?.2 fun n hn => ?_
  have hmem : (w.calls[n], w.calls.take n) ∈ w.log :=
    List.mem_map.2 ⟨(w.calls[n], n), List.mem_zipIdx_iff_getElem?.2 (List.getElem?_eq_getElem hn), rfl⟩
  have hlater : (w.calls[n], w.calls.take n) ∈ (t.log : Multiset (Call × List Call)) := by
    rw [h.log]
    exact Multiset.mem_add.2 (.inr hmem)
  have hfound := (of_mem_log (Multiset.mem_coe.1 hlater)).1
  rwa [List.length_take, Nat.min_eq_left hn.le] at hfound

/-- Calls are answered one to one. -/
theorem Answered.answers_to (h : Answered env w t made) (ha : t.answers = w.answers ++ ends) : Answers env w t ends := by
  have hends : (ends : Multiset CallEnd) = made.map Dispatch.ending := by
    have hall := h.answers
    rw [ha, ← Multiset.coe_add, add_comm] at hall
    exact add_right_cancel hall
  have hbegins := h.begins
  refine ⟨hbegins, ha, ?_, fun e he => ?_⟩
  · have hnumbers := congrArg (Multiset.map fun entry : Call × List Call => entry.2.length) h.log
    rw [Multiset.map_add, Multiset.map_coe, Multiset.map_coe, numbers_log, numbers_log, Multiset.map_map] at hnumbers
    have hrange : List.range t.calls.length =
        List.range w.calls.length ++ List.range' w.calls.length (t.calls.length - w.calls.length) := by
      have hsplit := @List.range'_append_1 0 w.calls.length (t.calls.length - w.calls.length)
      rw [Nat.zero_add, Nat.add_sub_cancel' hbegins.length_le] at hsplit
      rw [List.range_eq_range', List.range_eq_range', hsplit]
    rw [hrange, ← Multiset.coe_add, add_comm] at hnumbers
    refine Multiset.coe_eq_coe.1 ((?_ : _ = made.map fun m => m.before.calls.length).trans (add_right_cancel hnumbers).symm)
    rw [← Multiset.map_coe, hends, Multiset.map_map]
    rfl
  · have hmem : e ∈ made.map Dispatch.ending := hends ▸ Multiset.mem_coe.2 he
    obtain ⟨m, hm, rfl⟩ := Multiset.mem_map.1 hmem
    have hentry : m.entry ∈ (t.log : Multiset (Call × List Call)) := by
      rw [h.log]
      exact Multiset.mem_add.2 (.inl (Multiset.mem_map_of_mem _ hm))
    obtain ⟨hcall, hbefore⟩ := of_mem_log (Multiset.mem_coe.1 hentry)
    obtain ⟨script, hscript, hended⟩ := h.ends m hm
    exact ⟨m.call, script, m.before, hcall, hbefore.symm, hscript, hended⟩

/-- When no branch waits for an answer, calls are answered in their order. -/
theorem run_in_step [env.Prompt] {d : Definition} {input : Json} {x : Execution}
    (h : Engine.run env d input w = (.ok x, t)) (ha : t.answers = w.answers ++ ends) :
    ends.map CallEnd.number = List.range' w.calls.length (t.calls.length - w.calls.length) := by
  have hupshot := upshot env d input w
  generalize Engine.run env d input w = out at h hupshot
  cases hupshot with
  | @returned e x made c s create drove =>
    cases h
    have hbefore := Act.idle (World.createExecution env d.id input) w
    have hdrive : Flow.Follows inStep (drive env d e.id) := inferInstance
    obtain ⟨more, hanswers, hcalls, hnumbers⟩ := (hdrive.safe { input } ⟨made, .empty⟩).exec.1
    rw [create] at hbefore
    rw [drove] at hanswers hcalls
    dsimp only at hbefore hanswers hcalls hnumbers
    rw [ha, hbefore.answers] at hanswers
    rw [hbefore.calls] at hcalls hnumbers
    rw [List.append_cancel_left hanswers, hnumbers, hcalls, Nat.add_sub_cancel_left]
  | _ => cases h

/-- No cost is lost or counted twice. Whatever requests fail, whoever cancels it and wherever its branches wait, a run
that comes back has on its record what those of its calls cost whose answers could be read, added up from zero in the
order in which the answers were taken up, whether the steps that made the calls succeeded or not; that is the order
of the calls when no branch waits for an answer. And in every ledger that grows by opening and charging accounts, the
total of each is what was charged to it or below it, added up in that order. -/
theorem no_cost_is_lost_or_counted_twice :
    (∀ (env : Setting) (d : Definition) (input : Json) (w t : World) (x : Execution), w.Sound →
      Engine.run env d input w = (.ok x, t) →
        ∃ e made ends, World.createExecution env d.id input w = (.ok e, made) ∧ Answers env w t ends ∧
          (env.Prompt → ends.map CallEnd.number = List.range' w.calls.length (t.calls.length - w.calls.length)) ∧
          t.store.Shows e.id x ∧
          Costs e.id ((ends.filterMap CallEnd.cost?).foldl (· + ·) 0.0) t.store ∧
          x.cost = .real ((ends.filterMap CallEnd.cost?).foldl (· + ·) 0.0)) ∧
    (∀ (moves : List Ledger.Move) (l : Ledger) (account : Account), Ledger.Grown moves l → l.isOpen account = true →
      l.total account = (moves.filterMap (Ledger.Move.amount? account)).foldl (· + ·) 0.0) := by
  refine ⟨fun env d input w t x hw h => ?_, fun moves l account grown => grown.total_eq⟩
  obtain ⟨e, made, ends, hcreate, hanswers, hcosts, hcost, hshows⟩ := run_costs hw h
  obtain ⟨own, ds, -, -, hanswered, -⟩ := calls_run env d input hw
  rw [h] at hanswered
  exact ⟨e, made, ends, hcreate, hanswered.answers_to hanswers, fun _ => run_in_step h hanswers, hshows, hcosts, hcost⟩

/-- Two branches, one of which answers with an envelope that cannot be read, so that the run fails and the step after
them is not started. What the other one asked for is on the record. -/
theorem no_cost_is_lost_or_counted_twice_when_a_branch_fails :
    let d : Definition := {
      id := "w", name := "spend", description := none
      steps := [
        .parallel "both" [.agent "ask" "Oracle" "say" [] none, .agent "spoil" "Oracle" "mumble" [] none],
        .agent "again" "Oracle" "say" [] none] }
    let say : Script := fun _ payload => .echo 0.25 payload
    let mumble : Script := fun _ _ => { outcome := .replies .null }
    let env : Setting := { agents := ⟨[("Oracle", [("say", say), ("mumble", mumble)])]⟩ }
    let moves : List Ledger.Move := [.fork [], .fork [], .charge [0] 0.25]
    let l := ((Ledger.empty.fork []).fork []).charge [0] 0.25
    (∃ x t ends, Engine.run env d (.obj []) {} = (.ok x, t) ∧ x.status = .failed ∧
      Answers env {} t ends ∧ ends.map CallEnd.number = [0, 1] ∧
      x.cost = .real ((ends.filterMap CallEnd.cost?).foldl (· + ·) 0.0) ∧ x.cost.text = "0.25") ∧
    Ledger.Grown moves l ∧ l.total [1] = 0.0 ∧ l.total [] = (0.0 + 0.25 : Float) := by
  intro d say mumble env moves l
  have hends : (Engine.run env d (.obj []) {}).1.toOption.map (·.status) = some .failed := by decide +kernel
  have hcalls : (Engine.run env d (.obj []) {}).2.calls.length = 2 := by decide +kernel
  have hcost : (Engine.run env d (.obj []) {}).1.toOption.map (·.cost.text) = some "0.25" := by decide +kernel
  have hgrown : Ledger.Grown moves l := .charge (.fork (.fork .empty rfl) rfl) rfl
  obtain ⟨hrun, hledger⟩ := no_cost_is_lost_or_counted_twice
  refine ⟨?_, hgrown, hledger moves l [1] hgrown rfl, hledger moves l [] hgrown rfl⟩
  rcases hout : Engine.run env d (.obj []) {} with ⟨f | x, t⟩
  · rw [hout] at hends
    cases hends
  · rw [hout] at hends hcalls hcost
    obtain ⟨e, made, ends, -, hanswers, hprompt, -, -, hsum⟩ := hrun env d (.obj []) {} t x sound_empty hout
    refine ⟨x, t, ends, rfl, Option.some.inj hends, hanswers, ?_, hsum, Option.some.inj hcost⟩
    rw [hprompt ⟨fun _ _ _ => rfl⟩, hcalls]
    rfl

/-- Three branches call at once and are answered the other way round: what is on the record is the sum in the order of
the answers, and not in that of the calls. -/
theorem cost_is_not_in_call_order :
    let d : Definition := {
      id := "w", name := "spend", description := none
      steps := [.parallel "all" [.agent "a" "Oracle" "one" [] none, .agent "b" "Oracle" "two" [] none,
        .agent "c" "Oracle" "three" [] none]] }
    let env : Setting := {
      agents := ⟨[("Oracle", [("one", fun _ payload => .echo 0.1 payload), ("two", fun _ payload => .echo 0.2 payload),
        ("three", fun _ payload => .echo 0.3 payload)])]⟩
      pauses := fun _ account _ moment => if moment = .answer then 3 - account.headD 0 else 0 }
    ∃ x t, Engine.run env d (.obj []) {} = (.ok x, t) ∧ x.status = .completed ∧
      t.calls.map Call.operation = ["one", "two", "three"] ∧ t.answers.reverse.map CallEnd.number = [0, 1, 2] ∧
      x.cost.text = "0.6" ∧ (Number.real (bill t.answers.reverse 0.0)).text = "0.6000000000000001" := by
  intro d env
  have hends : (Engine.run env d (.obj []) {}).1.toOption.map (fun x => (x.status, x.cost.text)) =
      some (.completed, "0.6") := by decide +kernel
  have hcalls : (Engine.run env d (.obj []) {}).2.calls.map Call.operation = ["one", "two", "three"] := by decide +kernel
  have hnumbers : (Engine.run env d (.obj []) {}).2.answers.reverse.map CallEnd.number = [0, 1, 2] := by decide +kernel
  have hsum : (Number.real (bill (Engine.run env d (.obj []) {}).2.answers.reverse 0.0)).text =
      "0.6000000000000001" := by decide +kernel
  rcases hout : Engine.run env d (.obj []) {} with ⟨f | x, t⟩
  · rw [hout] at hends
    cases hends
  · rw [hout] at hends hcalls hnumbers hsum
    obtain ⟨hstatus, hcost⟩ := Prod.mk.inj (Option.some.inj hends)
    exact ⟨x, t, rfl, hstatus, hcalls, hnumbers, hcost, hsum⟩

end Engine

end Conductor
