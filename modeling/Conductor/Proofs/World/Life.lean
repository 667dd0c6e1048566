import Conductor.World
import Conductor.Proofs.Store.Contents
import Mathlib.Order.Defs.Unbundled

/-! The life of a run in a store: the moves of its status, and what may still change once it has
ended. What is done for one run leaves every other one as it is, or cancels it. -/

namespace Conductor

/-- The moves that a status makes. -/
inductive RunStatus.Move : RunStatus → RunStatus → Prop
  | start : Move .pending .running
  | drop : Move .pending .cancelled
  | spoil : Move .pending .failed
  | complete : Move .running .completed
  | fail : Move .running .failed
  | cancel : Move .running .cancelled

theorem RunStatus.Move.from_active {a b : RunStatus} (h : a.Move b) : a ∈ active := by
  cases h <;> decide

theorem RunStatus.Move.isKnown {a b : RunStatus} (h : a.Move b) : b.isKnown = true := by
  cases h <;> rfl

namespace Store

def status? (s : Store) (id : String) : Option RunStatus := (s.execution? id).map (·.status)

/-- The status of a run stays, makes one of its moves, or is there for the first time. -/
inductive Moves : Option RunStatus → Option RunStatus → Prop
  | stay (status : Option RunStatus) : Moves status status
  | appear : Moves none (some .pending)
  | move {a b : RunStatus} (h : a.Move b) : Moves (some a) (some b)

/-- A run that is completed or has failed stays as it is, with its records. -/
def Settled (id : String) (s t : Store) : Prop :=
  ∀ e, s.execution? id = some e → e.status = .completed ∨ e.status = .failed →
    t.execution? id = some e ∧ t.recordsOf id = s.recordsOf id

/-- A run that is cancelled may get another output and another cost, and nothing else. -/
def Dropped (id : String) (s t : Store) : Prop :=
  ∀ e, s.execution? id = some e → e.status = .cancelled → ∃ e', t.execution? id = some e' ∧
    e' = { e with output := e'.output, cost := e'.cost, copyable := e'.copyable }

structure Lives (id : String) (s t : Store) : Prop where
  moves : Moves (s.status? id) (t.status? id)
  settled : Settled id s t
  dropped : Dropped id s t

/-- All that others do to a run is cancelling it. -/
structure Leaves (id : String) (s t : Store) : Prop where
  records : t.recordsOf id = s.recordsOf id
  execution : t.execution? id = s.execution? id ∨ ∃ e now, s.execution? id = some e ∧
    e.status ∈ RunStatus.active ∧
    t.execution? id = some { e with status := .cancelled, completedAt := some now }

/-- What is done in the course of one run. -/
structure Runs (own : String) (s t : Store) : Prop where
  lives : Lives own s t
  leaves : ∀ id, id ≠ own → Leaves id s t

instance (id : String) : IsTrans Store (Settled id) where
  trans s t u h h' e he hs := by
    obtain ⟨ht, hr⟩ := h e he hs
    obtain ⟨hu, hr'⟩ := h' e ht hs
    exact ⟨hu, hr'.trans hr⟩

instance (id : String) : IsTrans Store (Dropped id) where
  trans s t u h h' e he hs := by
    obtain ⟨e', ht, heq⟩ := h e he hs
    have hs' : e'.status = .cancelled := by rw [heq, hs]
    obtain ⟨e'', hu, heq'⟩ := h' e' ht hs'
    refine ⟨e'', hu, ?_⟩
    rw [heq'] at hu ⊢
    rw [heq]

variable {s t : Store} {id own : String}

theorem Leaves.lives (h : Leaves id s t) : Lives id s t := by
  rcases h.execution with he | ⟨e, now, hs, hactive, ht⟩
  · refine ⟨?_, ?_, ?_⟩
    · rw [status?, status?, he]
      exact .stay _
    · exact fun e hs _ => ⟨he.trans hs, h.records⟩
    · exact fun e hs _ => ⟨e, he.trans hs, rfl⟩
  · have hstatus : e.status = .pending ∨ e.status = .running := by simpa [RunStatus.active] using hactive
    refine ⟨?_, ?_, ?_⟩
    · rw [status?, status?, hs, ht]
      rcases hstatus with h | h <;> simp only [Option.map_some, h]
      · exact .move .drop
      · exact .move .cancel
    · intro e' he' hended
      rw [hs] at he'
      cases he'
      rcases hstatus with h | h <;> rcases hended with h' | h' <;> rw [h] at h' <;> cases h'
    · intro e' he' hcancelled
      rw [hs] at he'
      cases he'
      rcases hstatus with h | h <;> rw [h] at hcancelled <;> cases hcancelled

theorem Leaves.trans {u : Store} (h : Leaves id s t) (h' : Leaves id t u) : Leaves id s u := by
  refine ⟨h'.records.trans h.records, ?_⟩
  rcases h'.execution with he' | ⟨e, now, ht, hactive, hu⟩
  · rw [he']
    exact h.execution
  · rcases h.execution with he | ⟨e', now', hs, _, ht'⟩
    · exact .inr ⟨e, now, he.symm.trans ht, hactive, hu⟩
    · -- one that was cancelled is not cancelled again
      rw [ht'] at ht
      cases ht
      exact absurd hactive (show RunStatus.cancelled ∉ RunStatus.active by decide)

theorem Lives.has (h : Lives id s t) (hs : (s.execution? id).isSome) : (t.execution? id).isSome := by
  obtain ⟨e, he⟩ := Option.isSome_iff_exists.1 hs
  have hm := h.moves
  rw [status?, status?, he, Option.map_some] at hm
  cases ht : t.execution? id with
  | some e' => rfl
  | none =>
    rw [ht, Option.map_none] at hm
    cases hm

theorem Same.leaves (h : s.Same t) (id : String) : Leaves id s t :=
  ⟨by rw [recordsOf, recordsOf, h.records], .inl (h.execution? id)⟩

theorem Same.runs (h : s.Same t) : Runs own s t := ⟨(h.leaves own).lives, fun id _ => h.leaves id⟩

theorem Replaced.leaves {e : Execution} (h : s.Replaced own e t) (hid : id ≠ own) : Leaves id s t :=
  ⟨by rw [recordsOf, recordsOf, h.records], .inl (by rw [h.execution?, if_neg hid])⟩

theorem Added.leaves {r : StepRecord} (h : s.Added r t) (hid : id ≠ r.execution) : Leaves id s t := by
  refine ⟨?_, .inl (h.execution? id)⟩
  rw [recordsOf, recordsOf, h.records, List.filter_append]
  simp [Ne.symm hid]

theorem Rewrote.leaves {r r' : StepRecord} (h : s.Rewrote r r' t) (hid : id ≠ r.execution) :
    Leaves id s t := by
  refine ⟨h.filter ?_ ?_, .inl (h.execution? id)⟩
  · simp [Ne.symm hid]
  · simp [h.execution, Ne.symm hid]

theorem leaves_of_cancel {now : Time} {other : String}
    (h : Deed.Done (.update other (World.cancelPatch now) (some RunStatus.active)) s t) (id : String) :
    Leaves id s t := by
  cases h with
  | @updated _ _ _ e e' _ _ found asked wrote replaced =>
    by_cases hid : id = other
    · subst hid
      refine ⟨by rw [recordsOf, recordsOf, replaced.records], .inr ⟨e, now, found, asked _ rfl, ?_⟩⟩
      have hout := wrote.output rfl
      rw [replaced.execution?, if_pos rfl, wrote.named rfl, hout.1, hout.2, wrote.error rfl, wrote.cost rfl]
      rfl
    · exact replaced.leaves hid

theorem runs_of_cancel {now : Time} {other : String}
    (h : Deed.Done (.update other (World.cancelPatch now) (some RunStatus.active)) s t) : Runs own s t :=
  ⟨(leaves_of_cancel h own).lives, fun id _ => leaves_of_cancel h id⟩

theorem Replaced.runs_appear {e : Execution} (h : s.Replaced own e t) (hs : s.execution? own = none)
    (he : e.status = .pending) : Runs own s t := by
  have ht : t.execution? own = some e := by rw [h.execution?, if_pos rfl]
  refine ⟨⟨?_, ?_, ?_⟩, fun id hid => h.leaves hid⟩
  · rw [status?, status?, hs, ht, Option.map_some, he]
    exact .appear
  · intro e' he'
    rw [hs] at he'
    cases he'
  · intro e' he'
    rw [hs] at he'
    cases he'

theorem Replaced.runs_move {e e' : Execution} (h : s.Replaced own e' t) (hs : s.execution? own = some e)
    (hm : e.status.Move e'.status) : Runs own s t := by
  have ht : t.execution? own = some e' := by rw [h.execution?, if_pos rfl]
  have hactive : e.status = .pending ∨ e.status = .running := by
    simpa [RunStatus.active] using hm.from_active
  refine ⟨⟨?_, ?_, ?_⟩, fun id hid => h.leaves hid⟩
  · rw [status?, status?, hs, ht]
    exact .move hm
  · intro x hx hended
    rw [hs] at hx
    cases hx
    rcases hactive with h | h <;> rcases hended with h' | h' <;> rw [h] at h' <;> cases h'
  · intro x hx hcancelled
    rw [hs] at hx
    cases hx
    rcases hactive with h | h <;> rw [h] at hcancelled <;> cases hcancelled

theorem Replaced.runs_results {e e' : Execution} (h : s.Replaced own e' t) (hs : s.execution? own = some e)
    (hc : e.status = .cancelled)
    (he : e' = { e with output := e'.output, cost := e'.cost, copyable := e'.copyable }) : Runs own s t := by
  have ht : t.execution? own = some e' := by rw [h.execution?, if_pos rfl]
  refine ⟨⟨?_, ?_, ?_⟩, fun id hid => h.leaves hid⟩
  · have hstatus : e'.status = e.status := by rw [he]
    rw [status?, status?, hs, ht, Option.map_some, Option.map_some, hstatus]
    exact .stay _
  · intro x hx hended
    rw [hs] at hx
    cases hx
    rcases hended with h' | h' <;> rw [hc] at h' <;> cases h'
  · intro x hx _
    rw [hs] at hx
    cases hx
    exact ⟨e', ht, he⟩

/-- A run is there, with one of some statuses. -/
def At (own : String) (statuses : List RunStatus) (s : Store) : Prop :=
  ∃ e, s.execution? own = some e ∧ e.status ∈ statuses

theorem At.mono {statuses more : List RunStatus} (h : At own statuses s) (hm : ∀ x ∈ statuses, x ∈ more) :
    At own more s := by
  obtain ⟨e, he, hstatus⟩ := h
  exact ⟨e, he, hm _ hstatus⟩

theorem Runs.cancelled (h : Runs own s t) (hs : At own [.cancelled] s) : At own [.cancelled] t := by
  obtain ⟨e, he, hstatus⟩ := hs
  obtain ⟨e', he', heq⟩ := h.lives.dropped e he (List.mem_singleton.1 hstatus)
  exact ⟨e', he', by rw [heq]; exact hstatus⟩

theorem Leaves.at {statuses : List RunStatus} (h : Leaves own s t) (hc : .cancelled ∈ statuses)
    (hs : At own statuses s) : At own statuses t := by
  obtain ⟨e, he, hstatus⟩ := hs
  rcases h.execution with heq | ⟨e', now, _, _, ht⟩
  · exact ⟨e, heq.trans he, hstatus⟩
  · exact ⟨_, ht, hc⟩

theorem at_of_record {step : String} {statuses : List RunStatus} (h : Deed.Done (.record own step) s t)
    (hs : At own statuses s) : At own statuses t := by
  obtain ⟨e, he, hstatus⟩ := hs
  cases h with
  | added added => exact ⟨e, (added.execution? _).trans he, hstatus⟩
  | rewrote rewrote => exact ⟨e, (rewrote.execution? _).trans he, hstatus⟩

theorem runs_of_record {step : String} (h : Deed.Done (.record own step) s t)
    (hb : At own [.running, .cancelled] s) : Runs own s t := by
  have same (he : ∀ id, t.execution? id = s.execution? id)
      (hl : ∀ id, id ≠ own → Leaves id s t) : Runs own s t := by
    obtain ⟨e, hs, hmem⟩ := hb
    have hstatus : e.status = .running ∨ e.status = .cancelled := by simpa using hmem
    refine ⟨⟨?_, ?_, ?_⟩, hl⟩
    · rw [status?, status?, he]
      exact .stay _
    · intro x hx hended
      rw [hs] at hx
      cases hx
      rcases hstatus with h | h <;> rcases hended with h' | h' <;> rw [h] at h' <;> cases h'
    · intro x hx _
      exact ⟨x, (he own).trans hx, rfl⟩
  cases h with
  | added added => exact same added.execution? fun id hid => added.leaves hid
  | rewrote rewrote => exact same rewrote.execution? fun id hid => rewrote.leaves hid

end Store

end Conductor
