import Conductor.Proofs.Engine.Uses

/-! The shape of records. Which times, errors, outputs and costs stand in the record of a run or of a step is a
matter of its status, at every moment and whatever fails. -/

namespace Conductor

open Store

/-- Something was made, started and ended in this order, as far as it has come. -/
structure Time.InOrder (created : Time) (start finish : Option Time) : Prop where
  started : ∀ t, start = some t → created ≤ t
  completed : ∀ t, finish = some t → created ≤ t
  between : ∀ t u, start = some t → finish = some u → t ≤ u

/-- What stands in the record of a run. -/
structure Execution.Shaped (e : Execution) : Prop where
  known : e.status.isKnown
  completed : e.completedAt.isSome ↔ e.status ∈ [.completed, .failed, .cancelled]
  error : e.error ≠ .null ↔ e.status = .failed
  bare : e.status ∈ [.pending, .running] → e.output = .obj [] ∧ e.cost = .real 0.0
  started : e.status ∈ [.running, .completed] → e.startedAt.isSome
  ordered : Time.InOrder e.createdAt e.startedAt e.completedAt

/-- What stands in the record of a step. -/
structure StepRecord.Shaped (r : StepRecord) : Prop where
  known : r.status.isKnown
  started : r.startedAt.isSome ↔ r.status ∈ [.running, .completed, .failed]
  completed : r.completedAt.isSome ↔ r.status ∈ [.completed, .failed, .skipped]
  ordered : ∀ t u, r.startedAt = some t → r.completedAt = some u → t ≤ u
  error : r.error ≠ .null ↔ r.status = .failed
  output : r.output ≠ .null → r.status = .completed
  skipped : r.status = .skipped → r.cost = .real 0.0

structure Store.Shaped (s : Store) : Prop where
  executions : ∀ id e, s.execution? id = some e → e.Shaped
  records : ∀ r ∈ s.records, r.Shaped

/-! Time goes on -/

/-- No time of a run lies ahead. -/
structure Execution.Until (now : Time) (e : Execution) : Prop where
  created : e.createdAt ≤ now
  started : ∀ t, e.startedAt = some t → t ≤ now
  completed : ∀ t, e.completedAt = some t → t ≤ now

structure StepRecord.Until (now : Time) (r : StepRecord) : Prop where
  started : ∀ t, r.startedAt = some t → t ≤ now
  completed : ∀ t, r.completedAt = some t → t ≤ now

variable {now later : Time} {start finish : Option Time} {created : Time} {e : Execution} {r r' : StepRecord}

theorem Execution.Until.mono (h : e.Until now) (hl : now ≤ later) : e.Until later :=
  ⟨h.created.trans hl, fun t ht => (h.started t ht).trans hl, fun t ht => (h.completed t ht).trans hl⟩

theorem StepRecord.Until.mono (h : r.Until now) (hl : now ≤ later) : r.Until later :=
  ⟨fun t ht => (h.started t ht).trans hl, fun t ht => (h.completed t ht).trans hl⟩

theorem Time.le_of_some {t : Time} (h : some now = some t) : t ≤ now := Int.le_of_eq (Option.some.inj h).symm

theorem Time.InOrder.begin (h : created ≤ now) : InOrder created (some now) none :=
  ⟨fun _ ht => Option.some.inj ht ▸ h, fun _ => nofun, fun _ _ _ => nofun⟩

theorem Time.InOrder.end (h : InOrder created start finish) (hc : created ≤ now)
    (hs : ∀ t, start = some t → t ≤ now) : InOrder created start (some now) :=
  ⟨h.started, fun _ ht => Option.some.inj ht ▸ hc, fun t _ ht hu => Option.some.inj hu ▸ hs t ht⟩

/-! Runs -/

theorem Execution.Shaped.clear (h : e.Shaped) (hs : e.status ≠ .failed) : e.error = .null := by
  by_contra he
  exact hs (h.error.1 he)

theorem Execution.Shaped.open (h : e.Shaped) (hs : e.status ∈ RunStatus.active) : e.completedAt = none := by
  rw [← Option.not_isSome_iff_eq_none, h.completed]
  intro hended
  simp only [RunStatus.active, List.mem_cons, List.not_mem_nil, or_false] at hs hended
  rcases hs with hs | hs <;> simp [hs] at hended

namespace World

variable {env : Setting} {base a b w : World} {m : Remit} {id : String} {e' : Execution}

theorem Turn.until (h : Turn env base m w id e e') (he : e.Until w.time) : e'.Until w.time := by
  cases h with
  | cancelled why was is => exact is ▸ ⟨he.created, he.started, fun _ => Time.le_of_some⟩
  | started ok was is => exact is ▸ ⟨he.created, fun _ => Time.le_of_some, he.completed⟩
  | completed ok was is => exact is ▸ ⟨he.created, he.started, fun _ => Time.le_of_some⟩
  | failed ok was is => exact is ▸ ⟨he.created, he.started, fun _ => Time.le_of_some⟩
  | aborted ok was is => exact is ▸ ⟨he.created, he.started, fun _ => Time.le_of_some⟩
  | results ok was is => exact is ▸ ⟨he.created, he.started, he.completed⟩
  | dropped ok fault is => exact is ▸ ⟨he.created, he.started, he.completed⟩

theorem Turn.shaped (h : Turn env base m w id e e') (hfaults : ∀ n, env.faults .createExecution n ≠ some .cancel)
    (he : e.Shaped) (hu : e.Until w.time) : e'.Shaped := by
  have hended : Time.InOrder e.createdAt e.startedAt (some w.time) := he.ordered.end hu.created hu.started
  cases h with
  | cancelled why was is =>
    have hclear := he.clear (by rintro hf; simp [hf, RunStatus.active] at was)
    rw [is]
    exact ⟨rfl, by simp, by simp [hclear], by simp, by simp, hended⟩
  | started ok was is =>
    have hopen := he.open (by simp [was, RunStatus.active])
    have hclear := he.clear (by simp [was])
    have hbare := he.bare (by simp [was])
    rw [is]
    exact ⟨rfl, by simp [hopen], by simp [hclear], fun _ => hbare, by simp, hopen ▸ .begin hu.created⟩
  | completed ok was is =>
    have hclear := he.clear (by simp [was])
    have hstarted := he.started (by simp [was])
    rw [is]
    exact ⟨rfl, by simp, by simp [hclear], by simp, fun _ => hstarted, hended⟩
  | failed ok was is =>
    rw [is]
    exact ⟨rfl, by simp, by simp, by simp, by simp, hended⟩
  | aborted ok was is =>
    rw [is]
    exact ⟨rfl, by simp, by simp, by simp, by simp, hended⟩
  | results ok was is =>
    rw [is]
    exact ⟨he.known, he.completed, he.error, by simp [was], he.started, he.ordered⟩
  | dropped ok fault is =>
    obtain ⟨n, hn⟩ := fault
    exact absurd hn (hfaults n)

end World

/-! Steps -/

namespace StepRecord

theorem Shaped.clear (h : r.Shaped) (hs : r.status ≠ .failed) : r.error = .null := by
  by_contra he
  exact hs (h.error.1 he)

theorem Shaped.bare (h : r.Shaped) (hs : r.status ≠ .completed) : r.output = .null := by
  by_contra ho
  exact hs (h.output ho)

theorem Turn.until (h : r.Turn now r') (hr : r.Until now) : r'.Until now := by
  cases h with
  | started was is => exact is ▸ ⟨fun _ => Time.le_of_some, hr.completed⟩
  | completed was is => exact is ▸ ⟨hr.started, fun _ => Time.le_of_some⟩
  | failed was is => exact is ▸ ⟨hr.started, fun _ => Time.le_of_some⟩
  | skipped was is => exact is ▸ ⟨hr.started, fun _ => Time.le_of_some⟩

theorem Turn.shaped (h : r.Turn now r') (hr : r.Shaped) (hu : r.Until now) : r'.Shaped := by
  have hended : ∀ t u, r.startedAt = some t → some now = some u → t ≤ u :=
    fun t u ht hn => Option.some.inj hn ▸ hu.started t ht
  cases h with
  | started was is =>
    have hclear := hr.clear (by simp [was])
    have hbare := hr.bare (by simp [was])
    have hopen : r.completedAt = none := by
      rw [← Option.not_isSome_iff_eq_none, hr.completed, was]
      decide
    rw [is]
    exact ⟨rfl, by simp, by simp [hopen], by simp [hopen], by simp [hclear], by simp [hbare], nofun⟩
  | completed was is =>
    have hclear := hr.clear (by simp [was])
    have hstarted : r.startedAt.isSome := hr.started.2 (by simp [was])
    rw [is]
    exact ⟨rfl, by simp [hstarted], by simp, hended, by simp [hclear], fun _ => rfl, nofun⟩
  | failed was is =>
    have hbare := hr.bare (by simp [was])
    have hstarted : r.startedAt.isSome := hr.started.2 (by simp [was])
    rw [is]
    exact ⟨rfl, by simp [hstarted], by simp, hended, by simp, by simp [hbare], nofun⟩
  | skipped was is =>
    have hclear := hr.clear (by simp [was])
    have hbare := hr.bare (by simp [was])
    have hnever : r.startedAt = none := by
      rw [← Option.not_isSome_iff_eq_none, hr.started, was]
      decide
    rw [is]
    exact ⟨rfl, by simp [hnever], by simp, by simp [hnever], by simp [hclear], by simp [hbare], fun _ => rfl⟩

end StepRecord

/-! Stores -/

/-- What a store holds, none of it ahead of time. -/
structure Store.Formed (now : Time) (s : Store) : Prop where
  shaped : s.Shaped
  executions : ∀ id e, s.execution? id = some e → e.Until now
  records : ∀ r ∈ s.records, r.Until now

theorem Store.Formed.mono {s : Store} (h : s.Formed now) (hl : now ≤ later) : s.Formed later :=
  ⟨h.shaped, fun id e he => (h.executions id e he).mono hl, fun r hr => (h.records r hr).mono hl⟩

namespace World

variable {env : Setting} {base a b w : World} {m : Remit}

theorem Stride.executions_formed (h : Stride env base m a b)
    (hfaults : ∀ n, env.faults .createExecution n ≠ some .cancel) (ha : a.store.Formed a.time) :
    ∀ id e, b.store.execution? id = some e → e.Shaped ∧ e.Until a.time := by
  intro id e he
  have keep (he : a.store.execution? id = some e) : e.Shaped ∧ e.Until a.time :=
    ⟨ha.shaped.executions id e he, ha.executions id e he⟩
  cases h.onRuns with
  | same h => exact keep (h id ▸ he)
  | @turned other x x' turn found replaced =>
    rw [replaced.execution?] at he
    by_cases hid : id = other
    · rw [if_pos hid] at he
      cases he
      have hu := ha.executions other x found
      exact ⟨turn.shaped hfaults (ha.shaped.executions other x found) hu, turn.until hu⟩
    · rw [if_neg hid] at he
      exact keep he
  | opened ok replaced =>
    rw [replaced.execution?] at he
    by_cases hid : id = a.nextId
    · rw [if_pos hid] at he
      cases he
      refine ⟨⟨rfl, by simp, by simp, fun _ => ⟨rfl, rfl⟩, by simp, ?_⟩, ?_⟩
      · exact ⟨fun _ => nofun, fun _ => nofun, fun _ => nofun⟩
      · exact ⟨Int.le_refl _, fun _ => nofun, fun _ => nofun⟩
    · rw [if_neg hid] at he
      exact keep he

theorem Stride.records_formed (h : Stride env base m a b) (ha : a.store.Formed a.time) :
    ∀ r ∈ b.store.records, r.Shaped ∧ r.Until a.time := by
  have keep (r : StepRecord) (hr : r ∈ a.store.records) : r.Shaped ∧ r.Until a.time :=
    ⟨ha.shaped.records r hr, ha.records r hr⟩
  cases h.onRecords with
  | same h => exact h ▸ keep
  | recorded ok added =>
    intro r hr
    rw [added.records, List.mem_append, List.mem_singleton] at hr
    rcases hr with hr | rfl
    · exact keep r hr
    · exact ⟨⟨rfl, by simp, by simp, nofun, by simp, by simp, nofun⟩, ⟨fun _ => nofun, fun _ => nofun⟩⟩
  | @rewrote before after ok turn rewrote =>
    intro r hr
    rw [rewrote.records, List.mem_map] at hr
    obtain ⟨r, hr, rfl⟩ := hr
    by_cases hb : r.id = before.id
    · rw [if_pos hb]
      obtain ⟨hshaped, huntil⟩ := keep before rewrote.found
      exact ⟨turn.shaped hshaped huntil, turn.until huntil⟩
    · rw [if_neg hb]
      exact keep r hr

theorem Stride.formed (h : Stride env base m a b) (henv : env.Forward)
    (hfaults : ∀ n, env.faults .createExecution n ≠ some .cancel) (ha : a.store.Formed a.time) :
    b.store.Formed b.time := by
  have hclock : a.time ≤ b.time := Int.mul_le_mul_of_nonneg_left (h.clock henv) (by decide)
  have hruns := h.executions_formed hfaults ha
  have hrecords := h.records_formed ha
  have hformed : b.store.Formed a.time :=
    ⟨⟨fun id e he => (hruns id e he).1, fun r hr => (hrecords r hr).1⟩, fun id e he => (hruns id e he).2,
      fun r hr => (hrecords r hr).2⟩
  exact hformed.mono hclock

/-- What is formed stays so, and every store on the way was. -/
theorem Path.formed (h : Path env base m a b) (henv : env.Forward)
    (hfaults : ∀ n, env.faults .createExecution n ≠ some .cancel) (ha : a.store.Formed a.time)
    (hall : ∀ s ∈ a.timeline, s.Shaped) : b.store.Formed b.time ∧ ∀ s ∈ b.timeline, s.Shaped := by
  induction h with
  | refl => exact ⟨ha, hall⟩
  | tail _ hs ih =>
    have hformed := hs.formed henv hfaults ih.1
    refine ⟨hformed, ?_⟩
    cases hs.moved with
    | idle store past issued =>
      rw [timeline, store, past]
      exact ih.2
    | asked request past =>
      rw [timeline_asked past]
      intro s hs
      rcases List.mem_append.1 hs with hs | hs
      · exact ih.2 s hs
      · exact List.mem_singleton.1 hs ▸ hformed.shaped

theorem New.formed (h : w.New) : w.store.Formed w.time := by
  rcases h with h | h <;> rw [h] <;>
    exact ⟨⟨fun _ _ => nofun, fun _ => nofun⟩, fun _ _ => nofun, fun _ => nofun⟩

end World

namespace Use

open World

/-- From an empty store on, every record of a run and of a step has its shape at any moment, whatever is asked, whatever
agents do and whatever fails, as long as the clock is not set back and nobody else writes to the store. -/
theorem records_shaped (env : Setting) (henv : env.Forward)
    (hfaults : ∀ n, env.faults .createExecution n ≠ some .cancel) (uses : List Use) {w : World} (hw : w.New)
    (hpast : w.past = []) : ∀ s ∈ (runAll env uses w).timeline, s.Shaped := by
  refine ((path uses hw.fresh.ready).formed henv hfaults hw.formed fun s hs => ?_).2
  rw [timeline, hpast, List.reverse_nil, List.nil_append, List.mem_singleton] at hs
  exact hs ▸ hw.formed.shaped

/-- An agent takes its time and cancels another run; the step that called it and its run are completed after that. -/
theorem records_shaped_in_a_run :
    let doc := Json.obj [("name", .str "halt"), ("steps", .arr [.obj [("type", .str "agent"), ("id", .str "a"),
      ("agent", .str "Warden"), ("operation", .str "halt")]])]
    let halt : Script := fun _ payload => { Behaviour.echo 0.5 payload with advance := 3, cancels := some "id-1" }
    let env : Setting := { agents := ⟨[("Warden", [("halt", halt)])]⟩ }
    let uses : List Use := [.createExecution "other" (.obj []), .ofRequest (.wait 2),
      .ofRequest (.ofEngine (.executeCustom doc (.obj [("projectId", .str "p")])))]
    let w : World := { store := .table {} }
    env.Forward ∧ (∀ n, env.faults .createExecution n ≠ some .cancel) ∧ w.New ∧ w.past = [] ∧
      (∀ s ∈ (runAll env uses w).timeline, s.Shaped) ∧
      ((runAll env uses w).store.execution? "id-1").map (fun e => (e.status, e.startedAt, e.completedAt)) =
        some (.cancelled, none, some 5000) ∧
      ((runAll env uses w).store.execution? "id-2").map (fun e => (e.status, e.startedAt, e.completedAt)) =
        some (.completed, some 2000, some 5000) ∧
      (runAll env uses w).store.records.map (fun r => (r.status, r.startedAt, r.completedAt)) =
        [(.completed, some 2000, some 5000)] := by
  intro doc halt env uses w
  have henv : env.Forward := ⟨fun agent operation script hget n payload => by
    obtain ⟨operations, hagent, hoperation⟩ := Registry.mem_of_get_eq_ok hget
    obtain ⟨-, rfl⟩ := Prod.mk.inj (List.mem_singleton.1 hagent)
    obtain ⟨-, rfl⟩ := Prod.mk.inj (List.mem_singleton.1 hoperation)
    exact Int.natCast_nonneg 3⟩
  exact ⟨henv, fun _ => nofun, .inr rfl, rfl, records_shaped env henv (fun _ => nofun) uses (.inr rfl) rfl,
    by decide +kernel, by decide +kernel, by decide +kernel⟩

end Use

end Conductor
