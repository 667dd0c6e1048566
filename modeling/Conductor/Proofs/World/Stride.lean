import Conductor.Proofs.Store.Shelf
import Conductor.Proofs.World.Later
import Conductor.Proofs.World.Life

/-! One request at a time: everything that a world does to its store, with who may do it, to which runs and
when. What holds of a store all along is shown once for each of these strides. -/

namespace Conductor

/-- What operations may do, apart from what agents and others do meanwhile. -/
structure Remit where
  /-- The runs that they open, start and end. -/
  runs : String → Prop := fun _ => False
  /-- The runs whose steps they record. -/
  steps : String → Prop := fun _ => False
  /-- The runs that they are asked to cancel. -/
  cancels : String → Prop := fun _ => False
  /-- Whether they add workflows. -/
  shelves : Prop := False

structure Remit.Within (m more : Remit) : Prop where
  runs : ∀ id, m.runs id → more.runs id
  steps : ∀ id, m.steps id → more.steps id
  cancels : ∀ id, m.cancels id → more.cancels id
  shelves : m.shelves → more.shelves

theorem Remit.Within.rfl {m : Remit} : m.Within m := ⟨fun _ => id, fun _ => id, fun _ => id, id⟩

/-- Those who are not asked for anything do nothing of their own. -/
theorem Remit.Within.none {m : Remit} : ({} : Remit).Within m :=
  ⟨fun _ => False.elim, fun _ => False.elim, fun _ => False.elim, False.elim⟩

/-- What becomes of the record of a step. -/
inductive StepRecord.Turn (now : Time) (r r' : StepRecord) : Prop
  | started (was : r.status = .pending)
      (is : r' = { r with status := .running, startedAt := some now, cost := r'.cost, copyable := r'.copyable })
  | completed (was : r.status = .running)
      (is : r' = { r with
        status := .completed, completedAt := some now
        output := r'.output, cost := r'.cost, copyable := r'.copyable })
  | failed {text : String} (was : r.status = .running)
      (is : r' = { r with
        status := .failed, completedAt := some now, error := .str text
        cost := r'.cost, copyable := r'.copyable })
  | skipped (was : r.status = .pending)
      (is : r' = { r with
        status := .skipped, completedAt := some now, cost := .real 0.0, copyable := r'.copyable })

namespace World

/-- An agent that was called since `base` asked to cancel a run. -/
def Passed (env : Setting) (base w : World) (id : String) : Prop :=
  ∃ earlier call script, base.calls <+: earlier ∧ earlier ++ [call] <+: w.calls ∧
    env.agents.get call.agent call.operation = .ok script ∧
    (script (earlier.countP fun other => other.agent = call.agent && other.operation = call.operation)
      call.payload).cancels = some id

/-- Whoever else uses the store asked since `base` to cancel a run. -/
def Arrived (env : Setting) (base w : World) (id : String) : Prop :=
  ∃ n, base.turns ≤ n ∧ n ≤ w.turns ∧ id ∈ env.arrivals n

section

variable (env : Setting) (base : World) (m : Remit)

/-- Who asked to cancel a run. -/
inductive Why (w : World) (id : String) : Prop
  | asked (h : m.cancels id)
  | passed (h : Passed env base w id)
  | arrived (h : Arrived env base w id)

/-- What becomes of a run that is there. -/
inductive Turn (w : World) (id : String) (e e' : Execution) : Prop
  | cancelled (why : Why env base m w id)
      (was : e.status ∈ RunStatus.active)
      (is : e' = { e with status := .cancelled, completedAt := some w.time })
  | started (ok : m.runs id) (was : e.status = .pending)
      (is : e' = { e with status := .running, startedAt := some w.time })
  | completed (ok : m.runs id) (was : e.status = .running)
      (is : e' = { e with
        status := .completed, completedAt := some w.time
        output := e'.output, cost := e'.cost, copyable := e'.copyable })
  | failed {text : String} (ok : m.runs id) (was : e.status = .running)
      (is : e' = { e with
        status := .failed, completedAt := some w.time, error := .str text
        output := e'.output, cost := e'.cost, copyable := e'.copyable })
  | aborted {text : String} (ok : m.runs id) (was : e.status ∈ RunStatus.active)
      (is : e' = { e with status := .failed, completedAt := some w.time, error := .str text })
  | results (ok : m.runs id) (was : e.status = .cancelled)
      (is : e' = { e with output := e'.output, cost := e'.cost, copyable := e'.copyable })
  /-- A fault cancels the run as soon as it is opened. -/
  | dropped (ok : m.runs id) (fault : ∃ n, env.faults .createExecution n = some .cancel)
      (is : e' = { e with status := .cancelled })

/-- A request that reaches the store. -/
inductive Asked (a b : World) : Prop
  | looked (store : b.store = a.store) (issued : b.issued = a.issued)
  | turned {id : String} {e e' : Execution} (turn : Turn env base m a id e e')
      (found : a.store.execution? id = some e) (replaced : a.store.Replaced id e' b.store)
      (shelf : b.store.shelf = a.store.shelf) (issued : b.issued = a.issued)
  | opened {workflow : String} {input : Json} (ok : m.runs a.nextId)
      (replaced : a.store.Replaced a.nextId { id := a.nextId, workflow, input, createdAt := a.time } b.store)
      (shelf : b.store.shelf = a.store.shelf) (issued : b.issued = a.issued + 1)
  | recorded {execution step : String} (ok : m.steps execution)
      (given : ∀ n, a.issued < n → execution ≠ s!"id-{n}")
      (added : a.store.Added { id := a.nextId, execution, step } b.store)
      (shelf : b.store.shelf = a.store.shelf) (issued : b.issued = a.issued + 1)
  | rewrote {r r' : StepRecord} (ok : m.steps r.execution) (turn : r.Turn a.time r')
      (rewrote : a.store.Rewrote r r' b.store) (shelf : b.store.shelf = a.store.shelf)
      (issued : b.issued = a.issued)
  | shelved {d : Definition} (ok : m.shelves) (store : b.store = (Store.createWorkflow d a.time a.store).2)
      (issued : b.issued = a.issued)

inductive Moved (a b : World) : Prop
  | idle (store : b.store = a.store) (past : b.past = a.past) (issued : b.issued = a.issued)
  | asked (request : Asked env base m a b) (past : b.past = a.store :: a.past)

/-- A stride of a world. What it does besides is counting, and letting time pass. -/
structure Stride (a b : World) : Prop where
  moved : Moved env base m a b
  clock : env.Forward → a.clock ≤ b.clock
  calls : a.calls <+: b.calls
  turns : a.turns ≤ b.turns

abbrev Path := Relation.ReflTransGen (Stride env base m)

end

/-- None of the ids to come has been used for a run or a record. -/
structure Fresh (w : World) : Prop where
  keyed : w.store.Keyed
  executions : ∀ n, w.issued < n → w.store.execution? s!"id-{n}" = none
  records : ∀ n, w.issued < n → ∀ r ∈ w.store.records, r.id ≠ s!"id-{n}" ∧ r.execution ≠ s!"id-{n}"

/-- There is nothing in the store yet. -/
def New (w : World) : Prop := w.store = .memory {} ∨ w.store = .table {}

/-- A world that may go on from `base`. -/
structure Ready (base w : World) : Prop where
  fresh : w.Fresh
  calls : base.calls <+: w.calls
  turns : base.turns ≤ w.turns

variable {env : Setting} {base a b : World} {m more : Remit} {id : String}

theorem Fresh.ready (h : a.Fresh) : Ready a a := ⟨h, List.prefix_rfl, Nat.le_refl _⟩

theorem New.fresh (h : a.New) : a.Fresh := by
  have hkeyed : ∀ s : Store, s = .memory {} ∨ s = .table {} →
      s.records = [] ∧ (∀ id, s.execution? id = none) ∧ s.Keyed := by
    rintro _ (rfl | rfl)
    · refine ⟨rfl, fun _ => rfl, List.nodup_nil, fun m hm => ?_⟩
      cases hm
      exact nofun
    · exact ⟨rfl, fun _ => rfl, List.nodup_nil, fun _ => nofun⟩
  obtain ⟨hrecords, hexecutions, hkeyed⟩ := hkeyed a.store h
  exact ⟨hkeyed, fun _ _ => hexecutions _, fun _ _ => by rw [hrecords]; exact nofun⟩

theorem Fresh.next (h : a.Fresh) : a.store.execution? a.nextId = none := h.executions _ (Nat.lt_succ_self _)

/-! More may be done under a wider remit, and later on -/

theorem Passed.mono (h : Passed env base a id) (hc : a.calls <+: b.calls) : Passed env base b id := by
  obtain ⟨earlier, call, script, hbase, hcalls, hrest⟩ := h
  exact ⟨earlier, call, script, hbase, hcalls.trans hc, hrest⟩

theorem Arrived.mono (h : Arrived env base a id) (ht : a.turns ≤ b.turns) : Arrived env base b id := by
  obtain ⟨n, hbase, hn, hid⟩ := h
  exact ⟨n, hbase, hn.trans ht, hid⟩

theorem Why.mono (h : Why env base m a id) (hm : m.Within more) (hc : a.calls <+: b.calls)
    (ht : a.turns ≤ b.turns) : Why env base more b id := by
  cases h with
  | asked h => exact .asked (hm.cancels id h)
  | passed h => exact .passed (h.mono hc)
  | arrived h => exact .arrived (h.mono ht)

theorem Turn.mono {e e' : Execution} (h : Turn env base m a id e e') (hm : m.Within more) :
    Turn env base more a id e e' := by
  cases h with
  | cancelled why was is => exact .cancelled (why.mono hm List.prefix_rfl (Nat.le_refl _)) was is
  | started ok was is => exact .started (hm.runs id ok) was is
  | completed ok was is => exact .completed (hm.runs id ok) was is
  | failed ok was is => exact .failed (hm.runs id ok) was is
  | aborted ok was is => exact .aborted (hm.runs id ok) was is
  | results ok was is => exact .results (hm.runs id ok) was is
  | dropped ok fault is => exact .dropped (hm.runs id ok) fault is

theorem Turn.named {e e' : Execution} (h : Turn env base m a id e e') : e'.id = e.id := by
  cases h with
  | cancelled why was is => rw [is]
  | started ok was is => rw [is]
  | completed ok was is => rw [is]
  | failed ok was is => rw [is]
  | aborted ok was is => rw [is]
  | results ok was is => rw [is]
  | dropped ok fault is => rw [is]

theorem Asked.mono (h : Asked env base m a b) (hm : m.Within more) : Asked env base more a b := by
  cases h with
  | looked store issued => exact .looked store issued
  | turned turn found replaced shelf issued => exact .turned (turn.mono hm) found replaced shelf issued
  | opened ok replaced shelf issued => exact .opened (hm.runs _ ok) replaced shelf issued
  | recorded ok given added shelf issued => exact .recorded (hm.steps _ ok) given added shelf issued
  | rewrote ok turn rewrote shelf issued => exact .rewrote (hm.steps _ ok) turn rewrote shelf issued
  | shelved ok store issued => exact .shelved (hm.shelves ok) store issued

theorem Stride.mono (h : Stride env base m a b) (hm : m.Within more) : Stride env base more a b := by
  refine ⟨?_, h.clock, h.calls, h.turns⟩
  cases h.moved with
  | idle store past issued => exact .idle store past issued
  | asked request past => exact .asked (request.mono hm) past

theorem Path.mono (h : Path env base m a b) (hm : m.Within more) : Path env base more a b :=
  Relation.ReflTransGen.mono (fun _ _ (hs : Stride env base m _ _) => hs.mono hm) _ _ h

/-! What a stride does to runs, to records, to workflows and to the ids that are given -/

inductive OnRuns (env : Setting) (base : World) (m : Remit) (a b : World) : Prop
  | same (h : ∀ id, b.store.execution? id = a.store.execution? id)
  | turned {id : String} {e e' : Execution} (turn : Turn env base m a id e e')
      (found : a.store.execution? id = some e) (replaced : a.store.Replaced id e' b.store)
  | opened {workflow : String} {input : Json} (ok : m.runs a.nextId)
      (replaced : a.store.Replaced a.nextId { id := a.nextId, workflow, input, createdAt := a.time } b.store)

inductive OnRecords (m : Remit) (a b : World) : Prop
  | same (h : b.store.records = a.store.records)
  | recorded {execution step : String} (ok : m.steps execution)
      (added : a.store.Added { id := a.nextId, execution, step } b.store)
  | rewrote {r r' : StepRecord} (ok : m.steps r.execution) (turn : r.Turn a.time r')
      (rewrote : a.store.Rewrote r r' b.store)

inductive OnShelf (m : Remit) (a b : World) : Prop
  | same (h : b.store.shelf = a.store.shelf)
  | shelved {d : Definition} (ok : m.shelves) (store : b.store = (Store.createWorkflow d a.time a.store).2)

theorem Stride.onRuns (h : Stride env base m a b) : OnRuns env base m a b := by
  cases h.moved with
  | idle store past issued => exact .same fun _ => by rw [store]
  | asked request past =>
    cases request with
    | looked store issued => exact .same fun _ => by rw [store]
    | turned turn found replaced shelf issued => exact .turned turn found replaced
    | opened ok replaced shelf issued => exact .opened ok replaced
    | recorded ok given added shelf issued => exact .same added.execution?
    | rewrote ok turn rewrote shelf issued => exact .same rewrote.execution?
    | @shelved d ok store issued => exact .same (store ▸ (a.store.createWorkflow_same d a.time).execution?)

theorem Stride.onRecords (h : Stride env base m a b) : OnRecords m a b := by
  cases h.moved with
  | idle store past issued => exact .same (by rw [store])
  | asked request past =>
    cases request with
    | looked store issued => exact .same (by rw [store])
    | turned turn found replaced shelf issued => exact .same replaced.records
    | opened ok replaced shelf issued => exact .same replaced.records
    | recorded ok given added shelf issued => exact .recorded ok added
    | rewrote ok turn rewrote shelf issued => exact .rewrote ok turn rewrote
    | @shelved d ok store issued => exact .same (store ▸ (a.store.createWorkflow_same d a.time).records)

theorem Stride.onShelf (h : Stride env base m a b) : OnShelf m a b := by
  cases h.moved with
  | idle store past issued => exact .same (by rw [store])
  | asked request past =>
    cases request with
    | looked store issued => exact .same (by rw [store])
    | turned turn found replaced shelf issued => exact .same shelf
    | opened ok replaced shelf issued => exact .same shelf
    | recorded ok given added shelf issued => exact .same shelf
    | rewrote ok turn rewrote shelf issued => exact .same shelf
    | shelved ok store issued => exact .shelved ok store

theorem Stride.issued (h : Stride env base m a b) : b.issued = a.issued ∨
    b.issued = a.issued + 1 ∧ (m.runs a.nextId ∨ ∃ execution, m.steps execution) := by
  cases h.moved with
  | idle store past issued => exact .inl issued
  | asked request past =>
    cases request with
    | looked store issued => exact .inl issued
    | turned turn found replaced shelf issued => exact .inl issued
    | opened ok replaced shelf issued => exact .inr ⟨issued, .inl ok⟩
    | recorded ok given added shelf issued => exact .inr ⟨issued, .inr ⟨_, ok⟩⟩
    | rewrote ok turn rewrote shelf issued => exact .inl issued
    | shelved ok store issued => exact .inl issued

/-! Ids stay fresh -/

theorem Fresh.same (h : a.Fresh) (hi : b.issued = a.issued) (he : ∀ id, b.store.execution? id = a.store.execution? id)
    (hr : b.store.records = a.store.records) (hk : b.store.Keyed) : b.Fresh where
  keyed := hk
  executions n hn := by rw [he, h.executions n (hi ▸ hn)]
  records n hn := by
    rw [hr]
    exact h.records n (hi ▸ hn)

theorem Fresh.replaced (h : a.Fresh) (hi : b.issued = a.issued) {e e' : Execution}
    (found : a.store.execution? id = some e) (hr : a.store.Replaced id e' b.store) : b.Fresh where
  keyed := hr.keyed h.keyed
  executions n hn := by
    have hnone := h.executions n (hi ▸ hn)
    rw [hr.execution?, if_neg, hnone]
    rintro rfl
    rw [hnone] at found
    cases found
  records n hn := by
    rw [hr.records]
    exact h.records n (hi ▸ hn)

theorem ne_nextId {n : Nat} (hn : a.issued + 1 < n) : s!"id-{n}" ≠ a.nextId := fun he => by
  have := id_injective he
  omega

theorem Fresh.opened (h : a.Fresh) (hi : b.issued = a.issued + 1) {e : Execution}
    (hr : a.store.Replaced a.nextId e b.store) : b.Fresh where
  keyed := hr.keyed h.keyed
  executions n hn := by
    rw [hi] at hn
    rw [hr.execution?, if_neg (ne_nextId hn)]
    exact h.executions n (Nat.lt_of_succ_lt hn)
  records n hn := by
    rw [hi] at hn
    rw [hr.records]
    exact h.records n (Nat.lt_of_succ_lt hn)

theorem Fresh.recorded (h : a.Fresh) (hi : b.issued = a.issued + 1) {r : StepRecord} (hid : r.id = a.nextId)
    (given : ∀ n, a.issued < n → r.execution ≠ s!"id-{n}") (hr : a.store.Added r b.store) : b.Fresh where
  keyed := hr.keyed h.keyed
  executions n hn := by
    rw [hi] at hn
    rw [hr.execution?]
    exact h.executions n (Nat.lt_of_succ_lt hn)
  records n hn old hold := by
    rw [hi] at hn
    rw [hr.records, List.mem_append, List.mem_singleton] at hold
    rcases hold with hold | rfl
    · exact h.records n (Nat.lt_of_succ_lt hn) old hold
    · exact ⟨fun he => ne_nextId hn (he.symm.trans hid), given n (Nat.lt_of_succ_lt hn)⟩

theorem Fresh.rewrote (h : a.Fresh) (hi : b.issued = a.issued) {r r' : StepRecord}
    (hr : a.store.Rewrote r r' b.store) : b.Fresh where
  keyed := hr.keyed h.keyed
  executions n hn := by rw [hr.execution?, h.executions n (hi ▸ hn)]
  records n hn old hold := by
    rw [hr.records, List.mem_map] at hold
    obtain ⟨before, hbefore, rfl⟩ := hold
    by_cases ho : before.id = r.id
    · rw [if_pos ho, hr.id, hr.execution]
      exact h.records n (hi ▸ hn) r hr.found
    · rw [if_neg ho]
      exact h.records n (hi ▸ hn) before hbefore

theorem Stride.fresh (h : Stride env base m a b) (ha : a.Fresh) : b.Fresh := by
  cases h.moved with
  | idle store past issued =>
    exact ha.same issued (fun _ => by rw [store]) (by rw [store]) (store ▸ ha.keyed)
  | asked request past =>
    cases request with
    | looked store issued => exact ha.same issued (fun _ => by rw [store]) (by rw [store]) (store ▸ ha.keyed)
    | turned turn found replaced shelf issued => exact ha.replaced issued found replaced
    | opened ok replaced shelf issued => exact ha.opened issued replaced
    | recorded ok given added shelf issued => exact ha.recorded issued rfl given added
    | rewrote ok turn rewrote shelf issued => exact ha.rewrote issued rewrote
    | @shelved d ok store issued =>
      have hsame := store ▸ a.store.createWorkflow_same d a.time
      exact ha.same issued hsame.execution? hsame.records (hsame.keyed ha.keyed)

theorem Path.calls (h : Path env base m a b) : a.calls <+: b.calls := by
  induction h with
  | refl => exact List.prefix_rfl
  | tail _ hs ih => exact ih.trans hs.calls

theorem Path.turns (h : Path env base m a b) : a.turns ≤ b.turns := by
  induction h with
  | refl => exact Nat.le_refl _
  | tail _ hs ih => exact ih.trans hs.turns

theorem Path.ready (h : Path env base m a b) (ha : Ready base a) : Ready base b := by
  refine ⟨?_, ha.calls.trans h.calls, ha.turns.trans h.turns⟩
  induction h with
  | refl => exact ha.fresh
  | tail _ hs ih => exact hs.fresh ih

theorem Path.issued (h : Path env base m a b) : a.issued ≤ b.issued := by
  induction h with
  | refl => exact Nat.le_refl _
  | tail _ hs ih =>
    rcases hs.issued with h | ⟨h, -⟩
    · exact h ▸ ih
    · exact h ▸ ih.trans (Nat.le_succ _)

theorem Path.issued_of_others (h : Path env base {} a b) : b.issued = a.issued := by
  induction h with
  | refl => rfl
  | tail _ hs ih =>
    rcases hs.issued with h | ⟨-, hm | ⟨_, hm⟩⟩
    · exact h.trans ih
    · exact hm.elim
    · exact hm.elim

/-! A run that is there -/

/-- Others do no more to a run than cancel it. -/
theorem Stride.at {statuses : List RunStatus} (h : Stride env base m a b) (hm : ¬ m.runs id)
    (hc : .cancelled ∈ statuses) (hat : a.store.At id statuses) : b.store.At id statuses := by
  have keep (he : b.store.execution? id = a.store.execution? id) : b.store.At id statuses := by
    obtain ⟨e, hfound, hstatus⟩ := hat
    exact ⟨e, he.trans hfound, hstatus⟩
  cases h.onRuns with
  | same h => exact keep (h id)
  | @turned other e e' turn found replaced =>
    by_cases hid : id = other
    · subst hid
      have hb : b.store.execution? id = some e' := by rw [replaced.execution?, if_pos rfl]
      cases turn with
      | cancelled why was is => exact ⟨e', hb, by rw [is]; exact hc⟩
      | started ok | completed ok | failed ok | aborted ok | results ok | dropped ok => exact absurd ok hm
    · exact keep (by rw [replaced.execution?, if_neg hid])
  | opened ok replaced =>
    have hid : id ≠ a.nextId := fun he => hm (he ▸ ok)
    exact keep (by rw [replaced.execution?, if_neg hid])

theorem Path.at {statuses : List RunStatus} (h : Path env base m a b) (hm : ¬ m.runs id)
    (hc : .cancelled ∈ statuses) (hat : a.store.At id statuses) : b.store.At id statuses := by
  induction h with
  | refl => exact hat
  | tail _ hs ih => exact hs.at hm hc ih

/-- The id of a run that is there is none of those to come. -/
theorem Fresh.given {statuses : List RunStatus} (h : a.Fresh) (hat : a.store.At id statuses) :
    ∀ n, a.issued < n → id ≠ s!"id-{n}" := by
  rintro n hn rfl
  obtain ⟨e, hfound, -⟩ := hat
  rw [h.executions n hn] at hfound
  cases hfound

end World

end Conductor
