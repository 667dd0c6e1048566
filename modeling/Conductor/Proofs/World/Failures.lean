import Conductor.Proofs.World.Requests

/-! How requests fail: never for the reasons that a template or a registry gives. -/

namespace Conductor

/-- Neither a text that cannot be read nor an agent that is not there. -/
def Failure.isPlain : Failure → Bool
  | .lookup _ => false
  | .expression _ => false
  | _ => true

theorem Failure.isPlain_of_isOfStep {f : Failure} (h : f.isOfStep = true) : f.isPlain = true := by
  cases f <;> first | rfl | simp [isOfStep] at h

theorem Failure.isPlain_of_isExit {f : Failure} (h : f.isExit = true) : f.isPlain = true := by
  cases f <;> first | rfl | simp [isExit] at h

theorem Failure.isPlain_ofStep (step : String) (f : Failure) : (f.ofStep step).isPlain = true := by
  unfold ofStep
  by_cases h : f.isOfStep = true
  · rw [if_pos h]
    exact isPlain_of_isOfStep h
  · rw [if_neg h]
    rfl

namespace Act

variable {σ α β : Type}

/-- Whenever an operation fails, it does so plainly. -/
def FailsPlainly (a : Act σ α) : Prop := ∀ s f, (a s).1 = .error f → f.isPlain = true

theorem FailsPlainly.bind {a : Act σ α} {next : α → Act σ β} (ha : FailsPlainly a)
    (hn : ∀ v, FailsPlainly (next v)) : FailsPlainly (a >>= next) := by
  intro s f hf
  have hs := ha s
  rw [bind_apply] at hf
  rcases h : a s with ⟨e | v, t⟩
  · rw [h] at hf hs
    cases hf
    exact hs f rfl
  · rw [h] at hf
    exact hn v t f hf

theorem FailsPlainly.discard {a : Act σ α} (ha : FailsPlainly a) : FailsPlainly (discard a) := by
  intro s f hf
  rw [discard_apply] at hf
  cases h : (a s).1 with
  | error e =>
    rw [h] at hf
    cases hf
    exact ha s f h
  | ok v =>
    rw [h] at hf
    cases hf

theorem plainly_pure (v : α) : FailsPlainly (pure v : Act σ α) := by
  intro s f hf
  cases hf

theorem plainly_throw {f : Failure} (h : f.isPlain = true) : FailsPlainly (throw f : Act σ α) := by
  intro s e he
  cases he
  exact h

theorem plainly_throw_bind {f : Failure} (h : f.isPlain = true) (next : α → Act σ β) :
    FailsPlainly ((throw f : Act σ α) >>= next) := by
  intro s e he
  cases he
  exact h

theorem plainly_get : FailsPlainly (get : Act σ σ) := by
  intro s f hf
  cases hf

theorem plainly_modify (change : σ → σ) : FailsPlainly (modify change : Act σ PUnit) := by
  intro s f hf
  cases hf

theorem plainly_outcome (a : Act σ α) : FailsPlainly (Failure.outcome a : Act σ _) := by
  intro s f hf
  cases hf

theorem plainly_of {result : Except Failure α} (h : ∀ f, result = .error f → f.isPlain = true) :
    FailsPlainly (Failure.of result : Act σ α) := by
  intro s f hf
  rw [of_apply] at hf
  exact h f hf

theorem plainly_forM {γ : Type} {items : List γ} {each : γ → Act σ PUnit}
    (h : ∀ item, FailsPlainly (each item)) : FailsPlainly (items.forM each) := by
  induction items with
  | nil => exact plainly_pure _
  | cons item rest ih => exact (h item).bind fun _ => ih

end Act

open Act

/-! Stores -/

theorem Columns.plainly_ofFields {status error cost : Option Json} {f : Failure} (h : ofFields status error cost = .error f) :
    f.isPlain = true := by
  rcases ofFields_error h with rfl | rfl
  · rfl
  · rfl

theorem ExecutionPatch.plainly_write {p : ExecutionPatch} {columns : Columns} {row : ExecutionRow}
    {f : Failure} (h : p.write columns row = .error f) : f.isPlain = true := by
  unfold write at h
  split_ifs at h <;> cases h <;> rfl

theorem StepPatch.plainly_write {p : StepPatch} {columns : Columns} {row : StepRow} {f : Failure}
    (h : p.write columns row = .error f) : f.isPlain = true := by
  unfold write at h
  split_ifs at h <;> cases h <;> rfl

theorem ExecutionRow.plainly_read {row : ExecutionRow} {steps : List StepRecord} {f : Failure}
    (h : row.read steps = .error f) : f.isPlain = true := by
  obtain ⟨problems, rfl⟩ := read_error h
  rfl

theorem StepRow.plainly_read {row : StepRow} {f : Failure} (h : row.read = .error f) : f.isPlain = true := by
  obtain ⟨problems, rfl⟩ := read_error h
  rfl

namespace Store

variable {α : Type}

theorem plainly_run {onMemory : Act Memory α} {onTable : Act Table α} (hm : FailsPlainly onMemory)
    (ht : FailsPlainly onTable) : FailsPlainly (run onMemory onTable) := by
  intro s f hf
  cases s with
  | memory m => exact hm m f hf
  | table t => exact ht t f hf

theorem plainly_updateExecution (id : String) (p : ExecutionPatch) (expected : Option (List RunStatus)) :
    FailsPlainly (updateExecution id p expected) := by
  refine plainly_run (plainly_get.bind fun m => ?_) ?_
  · dsimp only
    split
    · exact plainly_throw rfl
    · split
      · split
        · exact plainly_throw_bind rfl _
        · refine (plainly_modify _).bind fun _ => ?_
          split
          · exact plainly_throw_bind rfl _
          · exact plainly_pure _
      · exact plainly_pure _
  · refine (plainly_of fun _ => Columns.plainly_ofFields).bind fun columns => plainly_get.bind fun t => ?_
    split
    · exact plainly_throw rfl
    · split
      · exact (plainly_of fun _ => ExecutionRow.plainly_read).bind fun _ => plainly_pure _
      · split
        · refine (plainly_of fun _ => ExecutionPatch.plainly_write).bind fun _ => ?_
          refine (plainly_modify _).bind fun _ => ?_
          exact (plainly_of fun _ => ExecutionRow.plainly_read).bind fun _ => plainly_pure _
        · exact plainly_pure _

theorem plainly_createStep (id execution step : String) : FailsPlainly (createStep id execution step) := by
  refine plainly_run (plainly_get.bind fun m => ?_) ((plainly_modify _).bind fun _ => plainly_pure _)
  dsimp only
  split
  · exact plainly_throw_bind rfl _
  · exact (plainly_modify _).bind fun _ => plainly_pure _

theorem plainly_updateStep (id : String) (p : StepPatch) : FailsPlainly (updateStep id p) := by
  refine plainly_run (plainly_get.bind fun m => ?_) ?_
  · dsimp only
    split
    · exact plainly_throw rfl
    · split
      · exact plainly_throw_bind rfl _
      · refine (plainly_modify _).bind fun _ => ?_
        split
        · exact plainly_throw_bind rfl _
        · exact plainly_pure _
  · refine (plainly_of fun _ => Columns.plainly_ofFields).bind fun columns => plainly_get.bind fun t => ?_
    split
    · exact plainly_throw rfl
    · refine (plainly_of fun _ => StepPatch.plainly_write).bind fun _ => ?_
      exact (plainly_modify _).bind fun _ => plainly_of fun _ => StepRow.plainly_read

theorem plainly_findExecution (id : String) : FailsPlainly (findExecution id) := by
  refine plainly_run (plainly_get.bind fun m => ?_) (plainly_get.bind fun t => ?_)
  · dsimp only
    split
    · exact plainly_pure _
    · split
      · exact plainly_throw_bind rfl _
      · exact plainly_pure _
  · split
    · exact plainly_pure _
    · refine (plainly_of fun f hf => ?_).bind fun _ => ?_
      · obtain ⟨_, row, _, -, -, hrow⟩ := mapM_eq_error.1 hf
        exact StepRow.plainly_read hrow
      exact (plainly_of fun _ => ExecutionRow.plainly_read).bind fun _ => plainly_pure _

end Store

namespace World

variable {α : Type} {env : Setting}

theorem plainly_onStore {action : Act Store α} (h : FailsPlainly action) : FailsPlainly (onStore action) :=
  fun w f hf => h w.store f hf

theorem plainly_arrive : FailsPlainly (arrive env) := by
  refine plainly_get.bind fun w => plainly_forM fun id => plainly_get.bind fun _ => ?_
  exact (plainly_outcome _).discard

theorem plainly_request (method : Method) : FailsPlainly (request env method) := by
  refine plainly_arrive.bind fun _ => (plainly_modify _).bind fun _ => plainly_get.bind fun w => ?_
  dsimp only
  split
  · exact plainly_throw rfl
  · exact plainly_pure _

theorem plainly_reporting {action : Act World α} (h : FailsPlainly action) : FailsPlainly (reporting action) := by
  intro w f hf
  rw [reporting_apply] at hf
  exact h w f hf

theorem plainly_requested {method : Method} {next : Act World α} (h : FailsPlainly next) :
    FailsPlainly (reporting (discard (request env method) >>= fun _ => next)) := by
  exact plainly_reporting ((plainly_request method).discard.bind fun _ => h)

theorem plainly_issuing {action : String → Act World α} (h : ∀ id, FailsPlainly (action id)) :
    FailsPlainly (issuing action) :=
  plainly_get.bind fun _ => (h _).bind fun _ => (plainly_modify _).bind fun _ => plainly_pure _

theorem plainly_updateExecution (id : String) (p : ExecutionPatch) (expected : Option (List RunStatus)) :
    FailsPlainly (updateExecution env id (.ok p) expected) :=
  plainly_requested (plainly_onStore (Store.plainly_updateExecution id p expected))

theorem plainly_createStep (execution step : String) : FailsPlainly (createStep env execution step) :=
  plainly_requested (plainly_issuing fun id => plainly_onStore (Store.plainly_createStep id execution step))

theorem plainly_updateStep (id : String) (p : StepPatch) : FailsPlainly (updateStep env id (.ok p)) :=
  plainly_requested (plainly_onStore (Store.plainly_updateStep id p))

theorem plainly_findExecution (id : String) : FailsPlainly (findExecution env id) :=
  plainly_requested (plainly_onStore (Store.plainly_findExecution id))

theorem plainly_getExecution (id : String) : FailsPlainly (getExecution env id) := by
  refine (plainly_findExecution id).bind fun found => ?_
  cases found with
  | none => exact plainly_throw rfl
  | some e => exact plainly_pure e

theorem plainly_cancel (id : String) : FailsPlainly (cancel env id) := by
  refine plainly_get.bind fun now => (plainly_updateExecution _ _ _).bind fun updated => ?_
  cases updated with
  | none => exact (plainly_getExecution id).bind fun e => plainly_throw rfl
  | some e => exact plainly_getExecution id

theorem plainly_fail (e : Raised) : FailsPlainly (fail e : Act World α) := by
  unfold fail
  split
  · exact plainly_reporting (plainly_throw rfl)
  · exact plainly_throw rfl

theorem plainly_invoke (agent operation : String) (script : Script) (payload : Json) :
    FailsPlainly (invoke env agent operation script payload) := by
  refine plainly_arrive.bind fun _ => plainly_get.bind fun w => (plainly_modify _).bind fun _ => ?_
  dsimp only
  split
  · refine (plainly_cancel _).discard.bind fun _ => ?_
    split
    · exact plainly_fail _
    · exact plainly_pure _
  · split
    · exact plainly_fail _
    · exact plainly_pure _

end World

end Conductor
