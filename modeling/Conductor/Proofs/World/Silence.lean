import Conductor.Proofs.World.Later

/-! What most operations leave alone: the calls, the answers and the events that there have been, and, when they succeed,
the failures of requests. This holds of every operation but those that call an agent, take up an answer or note an
event, in every world. -/

namespace Conductor

namespace World

/-- No agent has been called, no answer taken up and nothing noted, and requests have failed only when the operation
did. -/
structure Silent {α : Type} (w : World) (out : Except Failure α × World) : Prop where
  calls : out.2.calls = w.calls
  answers : out.2.answers = w.answers
  journal : out.2.journal = w.journal
  refusals : ∃ refused, out.2.refusals = refused ++ w.refusals ∧ ∀ v, out.1 = .ok v → refused = []

variable {α β : Type} {w t : World}

theorem silent_of_eq {out : Except Failure α} (hc : t.calls = w.calls) (ha : t.answers = w.answers)
    (hj : t.journal = w.journal) (hr : t.refusals = w.refusals) : Silent w (out, t) :=
  ⟨hc, ha, hj, [], hr, fun _ _ => rfl⟩

theorem Silent.quiet {out : Except Failure α × World} {v : α} (h : Silent w out) (hv : out.1 = .ok v) :
    out.2.refusals = w.refusals := by
  obtain ⟨refused, hr, hnone⟩ := h.refusals
  rw [hr, hnone v hv, List.nil_append]

theorem Silent.trans {v : α} {out : Except Failure β × World} (h : Silent w (.ok v, t)) (h' : Silent t out) :
    Silent w out where
  calls := h'.calls.trans h.calls
  answers := h'.answers.trans h.answers
  journal := h'.journal.trans h.journal
  refusals := by
    rw [← show t.refusals = w.refusals from h.quiet rfl]
    exact h'.refusals

theorem Silent.fail {f : Failure} (h : Silent w ((.error f : Except Failure α), t)) :
    Silent w ((.error f : Except Failure β), t) where
  calls := h.calls
  answers := h.answers
  journal := h.journal
  refusals := by
    obtain ⟨refused, hr, -⟩ := h.refusals
    exact ⟨refused, hr, fun _ => nofun⟩

end World

namespace Act

open World

variable {α β : Type}

/-- An operation that is silent in every world. -/
class Hushed (a : Act World α) : Prop where
  silent : ∀ w, Silent w (a w)

section Combinators

variable {a : Act World α} {next : α → Act World β}

instance (v : α) : Hushed (pure v : Act World α) := ⟨fun _ => silent_of_eq rfl rfl rfl rfl⟩

instance (f : Failure) : Hushed (throw f : Act World α) := ⟨fun _ => silent_of_eq rfl rfl rfl rfl⟩

instance : Hushed (get : Act World World) := ⟨fun _ => silent_of_eq rfl rfl rfl rfl⟩

instance [ha : Hushed a] [hn : ∀ v, Hushed (next v)] : Hushed (a >>= next) := by
  refine ⟨fun w => ?_⟩
  have hw := ha.silent w
  rw [bind_apply]
  rcases hout : a w with ⟨f | v, t⟩
  · rw [hout] at hw
    exact hw.fail
  · rw [hout] at hw
    exact hw.trans ((hn v).silent t)

instance [ha : Hushed a] : Hushed (discard a) := by
  refine ⟨fun w => ?_⟩
  have hw := ha.silent w
  rw [discard_apply]
  rcases hout : a w with ⟨f | v, t⟩
  · rw [hout] at hw
    exact hw.fail
  · rw [hout] at hw
    exact hw.trans (silent_of_eq rfl rfl rfl rfl)

instance (result : Except Failure α) : Hushed (Failure.of result : Act World α) := by
  cases result <;> exact ⟨fun _ => silent_of_eq rfl rfl rfl rfl⟩

instance {ε : Type} (cause : ε → Failure) (result : Except ε α) :
    Hushed (Failure.ofExcept cause result : Act World α) := by
  cases result <;> exact ⟨fun _ => silent_of_eq rfl rfl rfl rfl⟩

instance {p : Prop} [Decidable p] {b : Act World α} [Hushed a] [Hushed b] : Hushed (if p then a else b) := by
  split <;> infer_instance

end Combinators

end Act

namespace World

open Act

variable {α : Type} {env : Setting}

instance (action : Act Store α) : Hushed (onStore action) := ⟨fun _ => silent_of_eq rfl rfl rfl rfl⟩

instance : Hushed now := by
  unfold now
  infer_instance

instance : Hushed (arrive env) := by
  refine ⟨fun w => ?_⟩
  have hrest := (aside_arrive env w).rest
  rw [show arrive env w = (.ok ⟨⟩, (arrive env w).2) from Prod.ext (arrive_ok env w) rfl]
  exact silent_of_eq (by rw [hrest]) (by rw [hrest]) (by rw [hrest]) (by rw [hrest])

instance (method : Method) : Hushed (modify fun w : World => { w with requests := method :: w.requests }) :=
  ⟨fun _ => silent_of_eq rfl rfl rfl rfl⟩

instance : Hushed (modify fun w : World => { w with issued := w.issued + 1 }) :=
  ⟨fun _ => silent_of_eq rfl rfl rfl rfl⟩

theorem hushed_fault (fault : Option Fault) : Hushed (match fault with
    | some (.raise e) => throw (.raised e)
    | other => pure other : Act World (Option Fault)) := by
  split <;> infer_instance

instance (method : Method) : Hushed (request env method) := by
  have hfault := hushed_fault
  unfold request
  dsimp only
  infer_instance

instance (action : Act World α) [ha : Hushed action] : Hushed (reporting action) := by
  refine ⟨fun w => ?_⟩
  have hw := ha.silent w
  rw [reporting_apply]
  obtain ⟨refused, hr, hnone⟩ := hw.refusals
  refine ⟨hw.calls, hw.answers, hw.journal, refusalOf (action w).1 ++ refused, ?_, fun v hv => ?_⟩
  · show refusalOf (action w).1 ++ (action w).2.refusals = _
    rw [hr, List.append_assoc]
  · have hok : (action w).1 = .ok v := hv
    rw [hnone v hok, hok]
    rfl

instance (action : String → Act World α) [∀ id, Hushed (action id)] : Hushed (issuing action) := by
  unfold issuing
  infer_instance

instance (workflow : String) (input : Json) : Hushed (createExecution env workflow input) := by
  unfold createExecution
  infer_instance

instance (id : String) (patch : Except Failure ExecutionPatch) (expected : Option (List RunStatus)) :
    Hushed (updateExecution env id patch expected) := by
  unfold updateExecution
  infer_instance

instance (execution step : String) : Hushed (createStep env execution step) := by
  unfold createStep
  infer_instance

instance (id : String) (patch : Except Failure StepPatch) : Hushed (updateStep env id patch) := by
  unfold updateStep
  infer_instance

instance (id : String) : Hushed (findExecution env id) := by
  unfold findExecution
  infer_instance

instance (id : String) : Hushed (getExecution env id) := by
  have hfound (found : Option Execution) : Hushed (match found with
      | some e => pure e
      | none => throw (.noExecution id) : Act World Execution) := by
    cases found <;> infer_instance
  unfold getExecution
  infer_instance

instance (id : String) : Hushed (cancel env id) := by
  have hdone (updated : Option Execution) : Hushed (match updated with
      | some _ => getExecution env id
      | none => do throw (.notCancellable (← getExecution env id).status) : Act World Execution) := by
    cases updated <;> infer_instance
  unfold cancel
  infer_instance

instance (e : Raised) : Hushed (fail e : Act World α) := by
  unfold fail
  infer_instance

instance (behaviour : Behaviour) : Hushed (answer env behaviour) := by
  unfold answer
  cases behaviour.cancels <;> cases behaviour.outcome <;> dsimp only <;> infer_instance

/-- An agent is called once, and at no time is an answer taken up or anything noted. -/
theorem invoke_calls (agent operation : String) (script : Script) (payload : Json) (w : World) :
    ∃ mid, mid.calls = w.calls ++ [⟨agent, operation, payload⟩] ∧ mid.answers = w.answers ∧ mid.journal = w.journal ∧
      mid.refusals = w.refusals ∧ Silent mid (invoke env agent operation script payload w) := by
  have harrive := Hushed.silent (a := arrive env) w
  rw [invoke_eq, bind_apply, show arrive env w = (.ok ⟨⟩, (arrive env w).2) from Prod.ext (arrive_ok env w) rfl]
  generalize hw : (arrive env w).2 = w' at harrive
  rw [show arrive env w = (.ok ⟨⟩, w') from Prod.ext (arrive_ok env w) hw] at harrive
  let behaviour := script (w'.calls.countP fun call => call.agent = agent && call.operation = operation) payload
  refine ⟨(called ⟨agent, operation, payload⟩ behaviour w').2, ?_, harrive.answers, harrive.journal,
    harrive.quiet rfl, ?_⟩
  · exact congrArg (· ++ [_]) harrive.calls
  · exact Hushed.silent (a := answer env behaviour) _

end World

end Conductor
