import Conductor.Store
import Mathlib.Data.List.Nodup
import Mathlib.Data.Multiset.AddSub

/-! What either kind of store holds, by one view: the run that goes by an id, and the list of all
step records. Whatever a request does to a store is one of a few deeds, which say what becomes of
that view. -/

namespace Conductor

/-- A row as it would be read if every column were in order. -/
def ExecutionRow.record (row : ExecutionRow) : Execution where
  id := row.id
  workflow := row.workflow
  status := row.status
  input := row.input
  output := row.output
  createdAt := row.createdAt
  startedAt := row.startedAt
  completedAt := row.completedAt
  error := row.error
  cost := row.cost

def StepRow.record (row : StepRow) : StepRecord where
  id := row.id
  execution := row.execution
  step := row.step
  status := row.status
  output := row.output
  error := row.error
  cost := row.cost
  startedAt := row.startedAt
  completedAt := row.completedAt

namespace Store

def execution? : Store → String → Option Execution
  | .memory m, id => m.executions.get? id
  | .table t, id => (t.execution? id).map ExecutionRow.record

def records : Store → List StepRecord
  | .memory m => m.steps.map Prod.snd
  | .table t => t.steps.map StepRow.record

def recordsOf (s : Store) (execution : String) : List StepRecord :=
  s.records.filter (·.execution = execution)

/-- The records of one step of a run. -/
def recordsAt (s : Store) (execution step : String) : List StepRecord :=
  s.records.filter fun r => r.execution = execution && r.step = step

/-- The steps of a run that have a record, as often as they have one. -/
def stepsOf (s : Store) (execution : String) : Multiset String := (s.recordsOf execution).map (·.step)

/-- Step records are told apart by their ids, which are also their names where records are kept by name. -/
structure Keyed (s : Store) : Prop where
  distinct : (s.records.map (·.id)).Nodup
  named : ∀ m, s = .memory m → ∀ entry ∈ m.steps, entry.1 = entry.2.id

end Store

/-- What a patch makes of a run, as far as both kinds of store agree. -/
structure ExecutionPatch.Wrote (p : ExecutionPatch) (e e' : Execution) : Prop where
  kept : e' = { e with
    status := e'.status
    startedAt := p.startedAt.getD e.startedAt
    completedAt := p.completedAt.getD e.completedAt
    output := e'.output, error := e'.error, cost := e'.cost, copyable := e'.copyable }
  status : p.status.all RunStatus.isKnown = true → e'.status = p.status.getD e.status
  output : p.output = none → e'.output = e.output ∧ e'.copyable = e.copyable
  snapshot : ∀ snapshot, p.output = some snapshot → e'.output = snapshot.stored ∨ e'.copyable = false
  error : p.error = none → e'.error = e.error
  text : ∀ s, p.error = some (.str s) → e'.error = .str s
  cost : p.cost = none → e'.cost = e.cost
  real : ∀ x, p.cost = some (.real x) → e'.cost = .real x ∨ e'.cost = .real (x + 0.0)

structure StepPatch.Wrote (p : StepPatch) (r r' : StepRecord) : Prop where
  kept : r' = { r with
    status := r'.status
    startedAt := p.startedAt.getD r.startedAt
    completedAt := p.completedAt.getD r.completedAt
    output := r'.output, error := r'.error, cost := r'.cost, copyable := r'.copyable }
  status : p.status.all StepStatus.isKnown = true → r'.status = p.status.getD r.status
  output : p.output = none → r'.output = r.output
  snapshot : ∀ snapshot, p.output = some snapshot →
    r'.output = snapshot.value ∨ r'.output = snapshot.stored
  error : p.error = none → r'.error = r.error
  text : ∀ s, p.error = some (.str s) → r'.error = .str s
  real : ∀ x, p.cost = some (.real x) → r'.cost = .real x ∨ r'.cost = .real (x + 0.0)

/-- A status that a run can have is written as it is. -/
theorem ExecutionPatch.Wrote.named {p : ExecutionPatch} {e e' : Execution} (h : p.Wrote e e')
    (hs : p.status.all RunStatus.isKnown = true) :
    e' = { e with
      status := p.status.getD e.status
      startedAt := p.startedAt.getD e.startedAt
      completedAt := p.completedAt.getD e.completedAt
      output := e'.output, error := e'.error, cost := e'.cost, copyable := e'.copyable } := by
  rw [← h.status hs]
  exact h.kept

theorem StepPatch.Wrote.named {p : StepPatch} {r r' : StepRecord} (h : p.Wrote r r')
    (hs : p.status.all StepStatus.isKnown = true) :
    r' = { r with
      status := p.status.getD r.status
      startedAt := p.startedAt.getD r.startedAt
      completedAt := p.completedAt.getD r.completedAt
      output := r'.output, error := r'.error, cost := r'.cost, copyable := r'.copyable } := by
  rw [← h.status hs]
  exact h.kept

namespace Store

/-- The second store holds what the first one does. -/
structure Same (s t : Store) : Prop where
  execution? : ∀ id, t.execution? id = s.execution? id
  records : t.records = s.records
  keyed : s.Keyed → t.Keyed

/-- The second store holds a run under an id, and otherwise what the first one does. -/
structure Replaced (id : String) (e : Execution) (s t : Store) : Prop where
  execution? : ∀ other, t.execution? other = if other = id then some e else s.execution? other
  records : t.records = s.records
  keyed : s.Keyed → t.Keyed

/-- The second store holds one more record, with an id of its own. -/
structure Added (r : StepRecord) (s t : Store) : Prop where
  fresh : ∀ old ∈ s.records, old.id ≠ r.id
  execution? : ∀ id, t.execution? id = s.execution? id
  records : t.records = s.records ++ [r]
  keyed : s.Keyed → t.Keyed

/-- The second store holds one record in the place of another one, of the same step. -/
structure Rewrote (r r' : StepRecord) (s t : Store) : Prop where
  found : r ∈ s.records
  alone : ∀ old ∈ s.records, old.id = r.id → old = r
  id : r'.id = r.id
  execution : r'.execution = r.execution
  step : r'.step = r.step
  execution? : ∀ id, t.execution? id = s.execution? id
  records : t.records = s.records.map fun old => if old.id = r.id then r' else old
  keyed : s.Keyed → t.Keyed

end Store

/-- What a request may do to a store, other than look at it. -/
inductive Deed where
  | create (execution : String)
  | update (execution : String) (patch : ExecutionPatch) (expected : Option (List RunStatus))
  | record (execution step : String)

inductive Deed.Done : Deed → Store → Store → Prop
  | created {id : String} {e : Execution} {s t : Store} (fresh : s.execution? id = none)
      (pending : e.status = .pending) (replaced : s.Replaced id e t) : Done (.create id) s t
  | updated {id : String} {p : ExecutionPatch} {expected : Option (List RunStatus)} {e e' : Execution}
      {s t : Store} (found : s.execution? id = some e)
      (asked : ∀ statuses, expected = some statuses → e.status ∈ statuses) (wrote : p.Wrote e e')
      (replaced : s.Replaced id e' t) : Done (.update id p expected) s t
  | added {r : StepRecord} {s t : Store} (added : s.Added r t) : Done (.record r.execution r.step) s t
  | rewrote {r r' : StepRecord} {s t : Store} (rewrote : s.Rewrote r r' t) :
      Done (.record r.execution r.step) s t

namespace Store

theorem Keyed.eq_of_id {s : Store} (h : s.Keyed) {r old : StepRecord} (hr : r ∈ s.records)
    (ho : old ∈ s.records) (hid : old.id = r.id) : old = r :=
  List.inj_on_of_nodup_map h.distinct ho hr hid

theorem Replaced.owned {id : String} {e : Execution} {s t : Store} (h : s.Replaced id e t)
    (hs : ∀ r ∈ s.records, (s.execution? r.execution).isSome) :
    ∀ r ∈ t.records, (t.execution? r.execution).isSome := by
  intro r hr
  rw [h.execution?]
  by_cases he : r.execution = id
  · rw [if_pos he]
    rfl
  · rw [if_neg he]
    exact hs r (h.records ▸ hr)

theorem Same.refl (s : Store) : s.Same s := ⟨fun _ => rfl, rfl, id⟩

theorem Rewrote.filter {s t : Store} {r r' : StepRecord} (h : s.Rewrote r r' t) {p : StepRecord → Bool}
    (hr : p r = false) (hr' : p r' = false) : t.records.filter p = s.records.filter p := by
  have replace (rs : List StepRecord) (halone : ∀ old ∈ rs, old.id = r.id → old = r) :
      (rs.map fun old => if old.id = r.id then r' else old).filter p = rs.filter p := by
    induction rs with
    | nil => rfl
    | cons old rest ih =>
      have hrest := ih fun x hx => halone x (List.mem_cons_of_mem _ hx)
      by_cases ho : old.id = r.id
      · have heq := halone old (List.mem_cons_self ..) ho
        simpa [heq, hr, hr'] using hrest
      · simp [ho, List.filter_cons, hrest]
  rw [h.records]
  exact replace s.records h.alone

theorem Rewrote.recordsAt {s t : Store} {r r' : StepRecord} (h : s.Rewrote r r' t) {execution step : String}
    (hr : s.recordsAt execution step = [r]) : t.recordsAt execution step = [r'] := by
  have hmine : r.execution = execution ∧ r.step = step := by
    have hmem : r ∈ s.recordsAt execution step := by simp [hr]
    simpa [Store.recordsAt] using (List.mem_filter.1 hmem).2
  have hsame : s.records.filter ((fun r => r.execution = execution && r.step = step) ∘
      fun old => if old.id = r.id then r' else old) = s.recordsAt execution step := by
    refine List.filter_congr fun old ho => ?_
    by_cases hid : old.id = r.id
    · have heq := h.alone old ho hid
      simp [heq, h.execution, h.step]
    · simp [hid]
  rw [Store.recordsAt, h.records, List.filter_map, hsame, hr]
  simp

theorem Added.stepsOf {s t : Store} {r : StepRecord} (h : s.Added r t) :
    t.stepsOf r.execution = s.stepsOf r.execution + {r.step} := by
  simp [Store.stepsOf, recordsOf, h.records, List.filter_append, ← Multiset.coe_add]

theorem Rewrote.stepsOf {s t : Store} {r r' : StepRecord} (h : s.Rewrote r r' t) (execution : String) :
    t.stepsOf execution = s.stepsOf execution := by
  let change (old : StepRecord) : StepRecord := if old.id = r.id then r' else old
  have hsame (old : StepRecord) (ho : old ∈ s.records) :
      (change old).execution = old.execution ∧ (change old).step = old.step := by
    by_cases hid : old.id = r.id
    · simp [change, h.alone old ho hid, h.execution, h.step]
    · simp [change, hid]
  have hmine : s.records.filter ((fun x => decide (x.execution = execution)) ∘ change) = s.recordsOf execution :=
    List.filter_congr fun old ho => by simp [hsame old ho]
  rw [Store.stepsOf, Store.stepsOf, recordsOf, h.records, List.filter_map, hmine, List.map_map]
  refine congrArg _ (List.map_congr_left fun old ho => ?_)
  exact (hsame old (List.mem_filter.1 ho).1).2

theorem stepsOf_le_of_done {s t : Store} {deed : Deed} (hd : deed.Done s t) (execution : String) :
    s.stepsOf execution ≤ t.stepsOf execution := by
  cases hd with
  | created fresh pending replaced => rw [stepsOf, stepsOf, recordsOf, recordsOf, replaced.records]
  | updated found asked wrote replaced => rw [stepsOf, stepsOf, recordsOf, recordsOf, replaced.records]
  | added added =>
    rw [stepsOf, stepsOf, recordsOf, recordsOf, added.records, List.filter_append, List.map_append,
      ← Multiset.coe_add]
    exact Multiset.le_add_right _ _
  | rewrote rewrote => rw [rewrote.stepsOf]

end Store

end Conductor
