import Conductor.Proofs.World.Requests

/-! What is only ever added to: the stores there have been, the failures of requests, the requests and
calls. This holds of every operation in every world, and so what the last world does not show has
not been at any time before. -/

namespace Conductor

/-- No call takes the clock back. -/
class Setting.Forward (env : Setting) : Prop where
  advance : ∀ agent operation script, env.agents.get agent operation = .ok script →
    ∀ n payload, 0 ≤ (script n payload).advance

namespace World

structure Later (a b : World) : Prop where
  timeline : a.timeline <+: b.timeline
  refusals : a.refusals <:+ b.refusals
  turns : a.turns ≤ b.turns

instance : IsPreorder World Later where
  refl _ := ⟨List.prefix_rfl, List.suffix_rfl, Nat.le_refl _⟩
  trans _ _ _ h h' :=
    ⟨h.timeline.trans h'.timeline, h.refusals.trans h'.refusals, h.turns.trans h'.turns⟩

theorem later_of_eq {a b : World} (hs : b.store = a.store) (hp : b.past = a.past)
    (hr : b.refusals = a.refusals) (ht : a.turns ≤ b.turns) : Later a b := by
  have htimeline : b.timeline = a.timeline := by rw [timeline, timeline, hs, hp]
  exact ⟨htimeline ▸ List.prefix_rfl, hr ▸ List.suffix_rfl, ht⟩

theorem Later.calm {a b c : World} (h : Later a b) (h' : Later b c) (hc : c.refusals = a.refusals) :
    b.refusals = a.refusals ∧ c.refusals = b.refusals := by
  have hle : c.refusals.length ≤ b.refusals.length := hc ▸ h.refusals.length_le
  have hcb := h'.refusals.eq_of_length (Nat.le_antisymm h'.refusals.length_le hle)
  exact ⟨hcb.trans hc, hcb.symm⟩

/-- A world that is later, with no agent called and no answer taken up in between. -/
structure Idle (a b : World) : Prop extends Later a b where
  calls : b.calls = a.calls
  answers : b.answers = a.answers

instance : IsPreorder World Idle where
  refl a := ⟨Std.Refl.refl a, rfl, rfl⟩
  trans _ _ _ h h' :=
    ⟨IsTrans.trans _ _ _ h.toLater h'.toLater, h'.calls.trans h.calls, h'.answers.trans h.answers⟩

theorem idle_of_eq {a b : World} (hs : b.store = a.store) (hp : b.past = a.past)
    (hr : b.refusals = a.refusals) (ht : a.turns ≤ b.turns) (hc : b.calls = a.calls)
    (ha : b.answers = a.answers) : Idle a b :=
  ⟨later_of_eq hs hp hr ht, hc, ha⟩

end World

namespace Act

open World

variable {α β : Type}

/-- An operation after which the world stands in a relation to the one before. -/
class Follows (R : World → World → Prop) (a : Act World α) : Prop where
  within : Within R a

/-- An operation that only adds to what there has been. -/
abbrev Grows (a : Act World α) : Prop := Follows Later a

/-- An operation that calls no agent, and only adds to what there has been. -/
abbrev Idles (a : Act World α) : Prop := Follows Idle a

theorem Grows.later {a : Act World α} (h : Grows a) : Within Later a := h.within

theorem later (a : Act World α) [h : Grows a] (w : World) : Later w (a w).2 := h.within w

theorem idle (a : Act World α) [h : Idles a] (w : World) : Idle w (a w).2 := h.within w

theorem follows_modify {R : World → World → Prop} {change : World → World} (h : ∀ w, R w (change w)) :
    Follows R (modify change) := ⟨h⟩

section Combinators

variable {R : World → World → Prop} [IsPreorder World R] {a : Act World α} {next : α → Act World β}

instance (v : α) : Follows R (pure v : Act World α) := ⟨within_pure v⟩

instance (f : Failure) : Follows R (throw f : Act World α) := ⟨within_throw f⟩

instance : Follows R (get : Act World World) := ⟨within_get⟩

instance [ha : Follows R a] [hn : ∀ v, Follows R (next v)] : Follows R (a >>= next) :=
  ⟨ha.within.bind fun v => (hn v).within⟩

instance [ha : Follows R a] : Follows R (discard a) := ⟨ha.within.discard⟩

instance [ha : Follows R a] : Follows R (Failure.outcome a) := ⟨ha.within.outcome⟩

instance {handle : Failure → Act World α} [ha : Follows R a] [hh : ∀ f, Follows R (handle f)] :
    Follows R (tryCatch a handle) := by
  refine ⟨fun w => ?_⟩
  have hw := ha.within w
  rw [tryCatch_apply]
  rcases hout : a w with ⟨f | v, t⟩
  · rw [hout] at hw
    exact IsTrans.trans _ _ _ hw ((hh f).within t)
  · rwa [hout] at hw

instance {handle : Failure → Act World α} [ha : Follows R a] [hh : ∀ f, Follows R (handle f)] :
    Follows R (Failure.handling a handle) := by
  have hpass (f : Failure) : Follows R (if f.isExit then throw f else handle f) := by
    split <;> infer_instance
  unfold Failure.handling
  infer_instance

instance (result : Except Failure α) : Follows R (Failure.of result) := ⟨within_of result⟩

instance {ε : Type} (cause : ε → Failure) (result : Except ε α) :
    Follows R (Failure.ofExcept cause result) := ⟨within_ofExcept cause result⟩

instance {p : Prop} [Decidable p] {b : Act World α} [Follows R a] [Follows R b] :
    Follows R (if p then a else b) := by
  split <;> infer_instance

instance {items : List α} {each : α → Act World PUnit} [h : ∀ item, Follows R (each item)] :
    Follows R (items.forM each) := ⟨within_forM fun item => (h item).within⟩

end Combinators

instance (priority := low) (a : Act World α) [h : Idles a] : Grows a := ⟨fun w => (h.within w).toLater⟩

end Act

namespace World

open Act

variable {α : Type} {env : Setting}

instance (action : Act Store α) : Idles (onStore action) := by
  refine ⟨fun w => ⟨⟨?_, List.suffix_rfl, Nat.le_refl _⟩, rfl, rfl⟩⟩
  have hpast : (onStore action w).2.past = w.store :: w.past := rfl
  rw [timeline_asked hpast]
  exact List.prefix_append _ _

instance (event : Event) : Idles (note event) := ⟨fun _ => idle_of_eq rfl rfl rfl (Nat.le_refl _) rfl rfl⟩

instance : Idles now := by
  unfold now
  infer_instance

instance (id : String) : Idles (cancelAside id) := by
  unfold cancelAside
  infer_instance

instance : Idles (arrive env) := by
  unfold arrive
  infer_instance

instance (method : Method) : Idles (modify fun w : World => { w with requests := method :: w.requests }) :=
  follows_modify fun w => idle_of_eq rfl rfl rfl (by simp only [turns, List.length_cons]; omega) rfl rfl

theorem idles_fault (fault : Option Fault) : Idles (match fault with
    | some (.raise e) => throw (.raised e)
    | other => pure other : Act World (Option Fault)) := by
  split <;> infer_instance

instance (method : Method) : Idles (request env method) := by
  have hfault := idles_fault
  unfold request
  dsimp only
  infer_instance

instance (f : Failure) : Idles (modify fun w : World => { w with refusals := f :: w.refusals }) :=
  follows_modify fun _ => ⟨⟨List.prefix_rfl, List.suffix_cons _ _, Nat.le_refl _⟩, rfl, rfl⟩

instance (action : Act World α) [Idles action] : Idles (reporting action) := by
  unfold reporting
  infer_instance

instance : Idles (modify fun w : World => { w with issued := w.issued + 1 }) :=
  follows_modify fun _ => idle_of_eq rfl rfl rfl (Nat.le_refl _) rfl rfl

instance (action : String → Act World α) [∀ id, Idles (action id)] : Idles (issuing action) := by
  unfold issuing
  infer_instance

instance (workflow : String) (input : Json) : Idles (createExecution env workflow input) := by
  unfold createExecution
  infer_instance

instance (id : String) (patch : Except Failure ExecutionPatch) (expected : Option (List RunStatus)) :
    Idles (updateExecution env id patch expected) := by
  unfold updateExecution
  infer_instance

instance (execution step : String) : Idles (createStep env execution step) := by
  unfold createStep
  infer_instance

instance (id : String) (patch : Except Failure StepPatch) : Idles (updateStep env id patch) := by
  unfold updateStep
  infer_instance

instance (id : String) : Idles (findExecution env id) := by
  unfold findExecution
  infer_instance

instance : Idles (listExecutions env) := by
  unfold listExecutions
  infer_instance

instance (d : Definition) : Idles (createWorkflow env d) := by
  unfold createWorkflow
  infer_instance

instance (id : String) : Idles (findWorkflow env id) := by
  unfold findWorkflow
  infer_instance

instance : Idles (listWorkflows env) := by
  unfold listWorkflows
  infer_instance

instance (id : String) : Idles (getExecution env id) := by
  have hfound (found : Option Execution) : Idles (match found with
      | some e => pure e
      | none => throw (.noExecution id) : Act World Execution) := by
    cases found <;> infer_instance
  unfold getExecution
  infer_instance

instance (id : String) : Idles (cancel env id) := by
  have hdone (updated : Option Execution) : Idles (match updated with
      | some _ => getExecution env id
      | none => do throw (.notCancellable (← getExecution env id).status) : Act World Execution) := by
    cases updated <;> infer_instance
  unfold cancel
  infer_instance

instance (e : Raised) : Idles (fail e : Act World α) := by
  unfold fail
  infer_instance

instance (call : Call) (behaviour : Behaviour) : Grows (called call behaviour) :=
  follows_modify fun w => later_of_eq rfl rfl rfl (by simp only [turns, List.length_append]; omega)

instance (behaviour : Behaviour) : Idles (answer env behaviour) := by
  unfold answer
  cases behaviour.cancels <;> cases behaviour.outcome <;> dsimp only <;> infer_instance

instance (agent operation : String) (script : Script) (payload : Json) :
    Grows (invoke env agent operation script payload) := by
  rw [invoke_eq]
  dsimp only
  infer_instance

instance (answer : CallEnd) : Grows (modify fun w : World => { w with answers := w.answers ++ [answer] }) :=
  follows_modify fun _ => later_of_eq rfl rfl rfl (Nat.le_refl _)

instance (answer : CallEnd) : Grows (takeUp answer) := by
  unfold takeUp
  infer_instance

/-! Exits are reported -/

/-- Whenever an operation fails with an exit, it keeps this as a failure of a request. -/
def Candid (action : Act World α) : Prop :=
  ∀ w f, (action w).1 = .error f → f.isExit = true → w.refusals.length < (action w).2.refusals.length

theorem Candid.bind {β : Type} {action : Act World α} {next : α → Act World β} [ha : Grows action]
    (h : Candid action) (hn : ∀ v, Candid (next v)) : Candid (action >>= next) := by
  intro w f hf hexit
  have hw := h w
  have hgrown := (ha.later w).refusals.length_le
  rw [bind_apply] at hf ⊢
  rcases hout : action w with ⟨e | v, t⟩
  · rw [hout] at hf hw
    cases hf
    exact hw f rfl hexit
  · rw [hout] at hf hgrown
    exact hgrown.trans_lt (hn v t f hf hexit)

theorem candid_pure (v : α) : Candid (pure v : Act World α) := fun _ _ hf => by cases hf

theorem candid_throw {f : Failure} (h : f.isExit = false) : Candid (throw f : Act World α) := by
  intro w e he hexit
  cases he
  rw [h] at hexit
  cases hexit

theorem Candid.discard {action : Act World α} (h : Candid action) : Candid (discard action) := by
  intro w f hf hexit
  rw [discard_apply] at hf ⊢
  cases hout : (action w).1 with
  | error e =>
    rw [hout] at hf
    cases hf
    exact h w f hout hexit
  | ok v =>
    rw [hout] at hf
    cases hf

theorem candid_reporting (action : Act World α) [ha : Grows action] : Candid (reporting action) := by
  intro w f hf _
  have hgrown := (ha.later w).refusals.length_le
  rw [reporting_apply] at hf ⊢
  have hout : (action w).1 = .error f := hf
  show _ < (refusalOf (action w).1 ++ (action w).2.refusals).length
  rw [hout, List.length_append]
  exact Nat.lt_of_le_of_lt hgrown (Nat.lt_add_of_pos_left Nat.one_pos)

theorem candid_updateExecution (id : String) (p : ExecutionPatch) (expected : Option (List RunStatus)) :
    Candid (updateExecution env id (.ok p) expected) := candid_reporting _

theorem candid_getExecution (id : String) : Candid (getExecution env id) := by
  have hfind : Candid (findExecution env id) := candid_reporting _
  refine hfind.bind fun found => ?_
  cases found with
  | none => exact candid_throw rfl
  | some e => exact candid_pure e

theorem candid_cancel (id : String) : Candid (cancel env id) := by
  have hnow : Candid now := fun _ _ hf => by cases hf
  refine hnow.bind fun time => (candid_updateExecution id _ _).bind fun updated => ?_
  cases updated with
  | none => exact (candid_getExecution id).bind fun e => candid_throw rfl
  | some e => exact candid_getExecution id

theorem candid_fail (e : Raised) : Candid (fail e : Act World α) := by
  unfold fail
  split_ifs with hexit
  · exact candid_reporting _
  · exact candid_throw (Bool.eq_false_iff.2 hexit)

theorem candid_answer (behaviour : Behaviour) : Candid (answer env behaviour) := by
  unfold answer
  cases behaviour.cancels with
  | none =>
    cases behaviour.outcome with
    | fails e => exact candid_fail e
    | replies envelope => exact candid_pure _
  | some id =>
    refine (candid_cancel id).discard.bind fun _ => ?_
    cases behaviour.outcome with
    | fails e => exact candid_fail e
    | replies envelope => exact candid_pure _

theorem candid_invoke (agent operation : String) (script : Script) (payload : Json) :
    Candid (invoke env agent operation script payload) := by
  have harrive : Candid (arrive env) := fun w f hf => by rw [arrive_ok] at hf; cases hf
  have hget : Candid (get : Act World World) := fun _ _ hf => by cases hf
  rw [invoke_eq]
  refine harrive.bind fun _ => hget.bind fun w => Candid.bind (fun _ _ hf => by cases hf) fun _ => ?_
  exact candid_answer _

end World

end Conductor
