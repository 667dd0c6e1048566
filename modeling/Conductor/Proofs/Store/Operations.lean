import Conductor.Proofs.Store.Contents
import Conductor.Proofs.Store.Outcomes

/-! What the operations of either kind of store do to what it holds. An operation that fails may
have written all the same; one that answers has done what it was asked. -/

namespace Conductor

namespace Assoc

variable {α : Type}

theorem put_of_get?_eq_some {t : Assoc α} {name : String} {old : α} (hn : t.names.Nodup)
    (h : t.get? name = some old) (value : α) :
    t.put name value = t.map fun entry => if entry.1 = name then (name, value) else entry := by
  induction t with
  | nil => simp at h
  | cons entry rest ih =>
    obtain ⟨k, v⟩ := entry
    rw [names, List.map_cons, List.nodup_cons] at hn
    by_cases hk : k = name
    · have hrest : ∀ entry ∈ rest, entry.1 ≠ name := by
        intro entry he hname
        exact hn.1 (List.mem_map.2 ⟨entry, he, hname.trans hk.symm⟩)
      have hid : (rest.map fun entry => if entry.1 = name then (name, value) else entry) = rest := by
        conv_rhs => rw [← List.map_id rest]
        exact List.map_congr_left fun entry he => if_neg (hrest entry he)
      simp [put, hk, hid]
    · simp only [get?, hk, if_false] at h
      simp [put, hk, ih hn.2 h]

end Assoc

namespace Store

variable {s : Store}

inductive Updated (id : String) (p : ExecutionPatch) (expected : Option (List RunStatus)) (s : Store) :
    Except Failure (Option Execution) × Store → Prop
  | refused (f : Failure) : Updated id p expected s (.error f, s)
  | passed {e : Execution} {statuses : List RunStatus} (found : s.execution? id = some e)
      (asked : expected = some statuses) (status : e.status ∉ statuses) :
      Updated id p expected s (.ok none, s)
  | wrote {e e' : Execution} {t : Store} {result : Except Failure (Option Execution)}
      (found : s.execution? id = some e) (asked : ∀ statuses, expected = some statuses → e.status ∈ statuses)
      (wrote : p.Wrote e e') (replaced : s.Replaced id e' t) (answer : result ≠ .ok none) :
      Updated id p expected s (result, t)

inductive StepUpdated (id : String) (p : StepPatch) (s : Store) :
    Except Failure StepRecord × Store → Prop
  | refused (f : Failure) : StepUpdated id p s (.error f, s)
  | wrote {r r' : StepRecord} {t : Store} {result : Except Failure StepRecord} (named : r.id = id)
      (wrote : p.Wrote r r') (rewrote : s.Rewrote r r' t) : StepUpdated id p s (result, t)

inductive StepCreated (r : StepRecord) (s : Store) : Except Failure StepRecord × Store → Prop
  | refused (f : Failure) : StepCreated r s (.error f, s)
  | made {t : Store} (added : s.Added r t) : StepCreated r s (.ok r, t)

theorem nodup_ids_append {rs : List StepRecord} {r : StepRecord} (h : (rs.map (·.id)).Nodup)
    (hf : ∀ old ∈ rs, old.id ≠ r.id) : ((rs ++ [r]).map (·.id)).Nodup := by
  rw [List.map_append, List.nodup_append]
  refine ⟨h, List.nodup_singleton _, ?_⟩
  intro a ha b hb
  obtain ⟨old, ho, rfl⟩ := List.mem_map.1 ha
  rw [List.map_singleton, List.mem_singleton] at hb
  exact hb ▸ hf old ho

theorem ids_replace {r r' : StepRecord} (hid : r'.id = r.id) (rs : List StepRecord) :
    (rs.map fun old => if old.id = r.id then r' else old).map (·.id) = rs.map (·.id) := by
  rw [List.map_map]
  refine List.map_congr_left fun old _ => ?_
  by_cases h : old.id = r.id <;> simp [h, hid]

end Store

theorem Snapshot.stored_of_closed {s : Snapshot} (h : s.closed = none) : s.stored = s.value := by
  rw [stored, h]
  rfl

namespace ExecutionPatch

theorem wrote_apply {p : ExecutionPatch} {e : Execution} (h : e.copyable = true) :
    p.Wrote e (p.apply e) where
  kept := rfl
  status _ := rfl
  output ho := by simp [apply, ho, keepsCopyable, h]
  snapshot s hs := by
    cases hc : s.closed with
    | none => exact .inl (by simp [apply, hs, Snapshot.stored_of_closed hc])
    | some doc => exact .inr (by simp [apply, keepsCopyable, hs, hc])
  error he := by simp [apply, he]
  text s hs := by simp [apply, hs]
  cost hc := by simp [apply, hc]
  real x hx := .inl (by simp [apply, hx])

end ExecutionPatch

theorem StepPatch.wrote_apply {p : StepPatch} {r : StepRecord} : p.Wrote r (p.apply r) where
  kept := rfl
  status _ := rfl
  output ho := by simp [apply, ho]
  snapshot snapshot hs := .inl (by simp [apply, hs])
  error he := by simp [apply, he]
  text s hs := by simp [apply, hs]
  real x hx := .inl (by simp [apply, hx])

/-! What turns a value or a row away -/

theorem textColumn_error {doc : Json} {f : Failure} (h : textColumn doc = .error f) :
    f = .tooLarge ∨ f = .notStorable := by
  unfold textColumn at h
  split at h
  case h_3 n =>
    split_ifs at h
    exact .inl (Except.error.inj h).symm
  case h_6 => exact .inr (Except.error.inj h).symm
  all_goals cases h

theorem costColumn_error {doc : Json} {f : Failure} (h : costColumn doc = .error f) :
    f = .tooLarge ∨ f = .notStorable := by
  unfold costColumn at h
  split at h
  case h_3 n =>
    split_ifs at h
    exact .inl (Except.error.inj h).symm
  case h_5 =>
    dsimp only at h
    split at h <;> cases h
  case h_6 => exact .inr (Except.error.inj h).symm
  all_goals cases h

theorem Columns.column_error {read : Json → Except Failure Json} {field : Option Json} {f : Failure}
    (h : column read field = .error f) : ∃ doc, read doc = .error f := by
  cases field with
  | none => cases h
  | some doc => exact ⟨doc, map_eq_error h⟩

theorem Columns.ofFields_error {status error cost : Option Json} {f : Failure}
    (h : ofFields status error cost = .error f) : f = .tooLarge ∨ f = .notStorable := by
  rcases bind_eq_error h with h | ⟨name, -, h⟩
  · exact (column_error h).elim fun _ => textColumn_error
  rcases bind_eq_error h with h | ⟨text, -, h⟩
  · exact (column_error h).elim fun _ => textColumn_error
  rcases bind_eq_error h with h | ⟨amount, -, h⟩
  · exact (column_error h).elim fun _ => costColumn_error
  · cases h

theorem ExecutionRow.read_error {row : ExecutionRow} {steps : List StepRecord} {f : Failure}
    (h : row.read steps = .error f) : ∃ problems, f = .malformed "WorkflowExecution" problems := by
  obtain ⟨problems, -, rfl⟩ := mapError_eq_error h
  exact ⟨problems, rfl⟩

theorem StepRow.read_error {row : StepRow} {f : Failure} (h : row.read = .error f) :
    ∃ problems, f = .malformed "StepExecutionRecord" problems := by
  obtain ⟨problems, -, rfl⟩ := mapError_eq_error h
  exact ⟨problems, rfl⟩

/-! Texts are kept as they are -/

theorem Columns.column_of_isText {field : Option Json} (h : field.all Json.isText = true) :
    column textColumn field = .ok field := by
  cases field with
  | none => rfl
  | some doc => match doc, h with | .str _, _ => rfl

theorem Json.any_isNull_of_isText {field : Option Json} (h : field.all isText = true) : field.any isNull = false := by
  cases field with
  | none => rfl
  | some doc => match doc, h with | .str _, _ => rfl

section

variable {status : Option RunStatus} (h : status.all RunStatus.isKnown = true)
include h

theorem RunStatus.isText_of_isKnown : (status.map toJson).all Json.isText = true := by
  cases status with
  | none => rfl
  | some status => rw [Option.map_some, toJson_of_isKnown h]; rfl

theorem RunStatus.map_ofJson : (status.map toJson).map ofJson = status := by
  cases status with
  | none => rfl
  | some status => exact congrArg some (ofJson_toJson h)

end

section

variable {status : Option StepStatus} (h : status.all StepStatus.isKnown = true)
include h

theorem StepStatus.isText_of_isKnown : (status.map toJson).all Json.isText = true := by
  cases status with
  | none => rfl
  | some status => rw [Option.map_some, toJson_of_isKnown h]; rfl

theorem StepStatus.map_ofJson : (status.map toJson).map ofJson = status := by
  cases status with
  | none => rfl
  | some status => exact congrArg some (ofJson_toJson h)

end

/-- What the columns hold of the fields of a patch. -/
structure Columns.Hold (columns : Columns) (status error cost : Option Json) : Prop where
  status : status.all Json.isText = true → columns.status = status
  error : error.all Json.isText = true → columns.error = error
  noCost : cost = none → columns.cost = none
  real : ∀ x, cost = some (.real x) → columns.cost = some .null ∨ columns.cost = some (.real (x + 0.0))

theorem Columns.hold_ofFields {status error cost : Option Json} {columns : Columns}
    (h : ofFields status error cost = .ok columns) : columns.Hold status error cost := by
  obtain ⟨names, hnames, h⟩ := bind_eq_ok h
  obtain ⟨texts, htexts, h⟩ := bind_eq_ok h
  obtain ⟨reals, hreals, h⟩ := bind_eq_ok h
  cases h
  refine ⟨?_, ?_, ?_, ?_⟩
  · intro htext
    exact Except.ok.inj (hnames.symm.trans (column_of_isText htext))
  · intro htext
    exact Except.ok.inj (htexts.symm.trans (column_of_isText htext))
  · rintro rfl
    exact (Except.ok.inj hreals).symm
  · rintro x rfl
    have hcolumn : reals = some (if x.isNaN then .null else .real (x + 0.0)) := (Except.ok.inj hreals).symm
    by_cases hx : x.isNaN = true
    · exact .inl (hcolumn.trans (by rw [if_pos hx]))
    · exact .inr (hcolumn.trans (by rw [if_neg hx]))

theorem ExecutionPatch.wrote_of_write {p : ExecutionPatch} {columns : Columns} {row updated : ExecutionRow}
    (hc : p.columns = .ok columns) (h : p.write columns row = .ok updated) :
    p.Wrote row.record updated.record ∧ updated.id = row.id := by
  have hold := Columns.hold_ofFields hc
  unfold write at h
  split_ifs at h with _ hnull
  cases h
  refine ⟨⟨rfl, ?_, ?_, ?_, ?_, ?_, ?_, ?_⟩, rfl⟩
  · intro hs
    rw [ExecutionRow.record, hold.status (RunStatus.isText_of_isKnown hs), RunStatus.map_ofJson hs]
    rfl
  · intro ho
    simp [ExecutionRow.record, ho]
  · intro s hs
    exact .inl (by simp [ExecutionRow.record, hs])
  · intro he
    simp [ExecutionRow.record, hold.error (by simp [he]), he]
  · intro s hs
    simp [ExecutionRow.record, hold.error (by simp [hs, Json.isText]), hs]
  · intro he
    simp [ExecutionRow.record, hold.noCost he]
  · intro x hx
    rcases hold.real x hx with hc | hc
    · exact absurd (by rw [hc]; rfl) hnull
    · exact .inr (by simp [ExecutionRow.record, hc])

theorem StepPatch.wrote_of_write {p : StepPatch} {columns : Columns} {row updated : StepRow}
    (hc : p.columns = .ok columns) (h : p.write columns row = .ok updated) :
    p.Wrote row.record updated.record ∧
      updated.id = row.id ∧ updated.execution = row.execution ∧ updated.step = row.step := by
  have hold := Columns.hold_ofFields hc
  unfold write at h
  split_ifs at h with _ hnull
  cases h
  refine ⟨⟨rfl, ?_, ?_, ?_, ?_, ?_, ?_⟩, rfl, rfl, rfl⟩
  · intro hs
    rw [StepRow.record, hold.status (StepStatus.isText_of_isKnown hs), StepStatus.map_ofJson hs]
    rfl
  · intro ho
    simp [StepRow.record, ho]
  · intro snapshot hs
    exact .inr (by simp [StepRow.record, hs])
  · intro he
    simp [StepRow.record, hold.error (by simp [he]), he]
  · intro s hs
    simp [StepRow.record, hold.error (by simp [hs, Json.isText]), hs]
  · intro x hx
    rcases hold.real x hx with hc | hc
    · exact absurd (by rw [hc]; rfl) hnull
    · exact .inr (by simp [StepRow.record, hc])

namespace Memory

variable (m : Memory)

theorem replaced (id : String) (e : Execution) :
    Store.Replaced id e (.memory m) (.memory { m with executions := m.executions.put id e }) where
  execution? other := by
    rw [Store.execution?, Assoc.get?_put]
    by_cases h : id = other
    · simp [h]
    · simp [h, Ne.symm h, Store.execution?]
  records := rfl
  keyed h := ⟨h.distinct, fun m' hm => by
    cases hm
    exact h.named m rfl⟩

theorem updated (id : String) (p : ExecutionPatch) (expected : Option (List RunStatus)) :
    Store.Updated id p expected (.memory m) (Store.updateExecution id p expected (.memory m)) := by
  rw [Store.updateExecution, Store.run_memory, updateExecution_eq]
  cases hg : m.executions.get? id with
  | none => exact .refused _
  | some e =>
    dsimp only
    by_cases hs : expected.all (e.status ∈ ·) = true
    · rw [if_pos hs]
      cases hc : e.copyable with
      | false => exact .refused _
      | true =>
        have hasked : ∀ statuses, expected = some statuses → e.status ∈ statuses := by
          rintro statuses rfl
          simpa using hs
        exact .wrote hg hasked (ExecutionPatch.wrote_apply hc) (m.replaced id _) (by cases (p.apply e).copyable <;> nofun)
    · rw [if_neg hs]
      cases expected with
      | none => simp at hs
      | some statuses => exact .passed hg rfl (by simpa using hs)

theorem names_steps {m : Memory} (h : (Store.memory m).Keyed) :
    m.steps.names = (Store.memory m).records.map (·.id) := by
  rw [Assoc.names, Store.records, List.map_map]
  exact List.map_congr_left fun entry he => h.named m rfl entry he

theorem added {m : Memory} {id : String} {r : StepRecord} (hk : (Store.memory m).Keyed) (hr : r.id = id)
    (hf : ∀ old ∈ (Store.memory m).records, old.id ≠ r.id) :
    Store.Added r (.memory m) (.memory { m with steps := m.steps.put id r }) := by
  have hnone : m.steps.get? id = none := by
    cases hg : m.steps.get? id with
    | none => rfl
    | some old =>
      have hmem := Assoc.mem_of_get?_eq_some hg
      have hid : id = old.id := hk.named m rfl _ hmem
      exact absurd (hid.symm.trans hr.symm) (hf old (List.mem_map.2 ⟨_, hmem, rfl⟩))
  have hput := Assoc.put_of_get?_eq_none hnone r
  have hrec : (Store.memory { m with steps := m.steps.put id r }).records =
      (Store.memory m).records ++ [r] := by
    simp [Store.records, hput]
  refine ⟨hf, fun _ => rfl, hrec, fun _ => ⟨?_, ?_⟩⟩
  · rw [hrec]
    exact Store.nodup_ids_append hk.distinct hf
  · intro m' hm entry he
    cases hm
    rw [hput, List.mem_append, List.mem_singleton] at he
    rcases he with he | rfl
    · exact hk.named m rfl entry he
    · exact hr.symm

theorem rewrote {m : Memory} {id : String} {r r' : StepRecord} (hk : (Store.memory m).Keyed)
    (hg : m.steps.get? id = some r) (hid : r'.id = r.id) (he : r'.execution = r.execution)
    (hs : r'.step = r.step) :
    Store.Rewrote r r' (.memory m) (.memory { m with steps := m.steps.put id r' }) := by
  have hmem := Assoc.mem_of_get?_eq_some hg
  have hr : id = r.id := hk.named m rfl _ hmem
  have hnodup : m.steps.names.Nodup := names_steps hk ▸ hk.distinct
  have hput := Assoc.put_of_get?_eq_some hnodup hg r'
  have hrec : (Store.memory { m with steps := m.steps.put id r' }).records =
      (Store.memory m).records.map fun old => if old.id = r.id then r' else old := by
    rw [Store.records, Store.records, hput, List.map_map, List.map_map]
    refine List.map_congr_left fun entry he => ?_
    have hname : entry.1 = entry.2.id := hk.named m rfl entry he
    by_cases h : entry.1 = id
    · simp [h, ← hname, hr]
    · have h' : entry.2.id ≠ r.id := by rwa [← hname, ← hr]
      simp [h, h']
  have hfound : r ∈ (Store.memory m).records := List.mem_map.2 ⟨_, hmem, rfl⟩
  refine ⟨hfound, fun _ => hk.eq_of_id hfound, hid, he, hs, fun _ => rfl, hrec, fun _ => ⟨?_, ?_⟩⟩
  · rw [hrec, Store.ids_replace hid]
    exact hk.distinct
  · intro m' hm entry he
    cases hm
    rw [hput, List.mem_map] at he
    obtain ⟨old, ho, rfl⟩ := he
    by_cases h : old.1 = id
    · simp [h, hid, hr]
    · simpa [h] using hk.named m rfl old ho

theorem stepUpdated (id : String) (p : StepPatch) (hk : (Store.memory m).Keyed) :
    Store.StepUpdated id p (.memory m) (Store.updateStep id p (.memory m)) := by
  rw [Store.updateStep, Store.run_memory, updateStep_eq]
  cases hg : m.steps.get? id with
  | none => exact .refused _
  | some r =>
    have hid : r.id = id := (hk.named m rfl _ (Assoc.mem_of_get?_eq_some hg)).symm
    cases hc : r.copyable with
    | false =>
      dsimp only
      rw [hc]
      exact .refused _
    | true =>
      dsimp only
      rw [hc]
      exact .wrote hid StepPatch.wrote_apply (rewrote hk hg rfl rfl rfl)

theorem stepCreated (id execution step : String) (hk : (Store.memory m).Keyed)
    (hf : ∀ old ∈ (Store.memory m).records, old.id ≠ id) :
    Store.StepCreated { id, execution, step } (.memory m)
      (Store.createStep id execution step (.memory m)) := by
  rw [Store.createStep, Store.run_memory, createStep_eq]
  cases m.executions.has execution with
  | false => exact .refused _
  | true => exact .made (added hk rfl hf)

end Memory

namespace Table

variable (t : Table)

theorem execution?_putExecution {t : Table} {old row : ExecutionRow} (h : t.execution? row.id = some old)
    (other : String) :
    (t.putExecution row).execution? other = if other = row.id then some row else t.execution? other := by
  have find (rows : List ExecutionRow) :
      (rows.map fun old => if old.id = row.id then row else old).find? (·.id = other) =
        if other = row.id then (rows.find? (·.id = row.id)).map fun _ => row
        else rows.find? (·.id = other) := by
    induction rows with
    | nil => simp
    | cons first rest ih =>
      by_cases hf : first.id = row.id
      · by_cases ho : other = row.id
        · simp [hf, ho]
        · simp [hf, ho, Ne.symm ho, ih]
      · by_cases ho : other = row.id
        · simpa [hf, ho] using ih
        · simp [hf, ho, List.find?_cons, ih]
  rw [execution?] at h
  rw [execution?, putExecution, find, h]
  rfl

theorem replaced {t : Table} {old row : ExecutionRow} (h : t.execution? row.id = some old) :
    Store.Replaced row.id row.record (.table t) (.table (t.putExecution row)) where
  execution? other := by
    rw [Store.execution?, execution?_putExecution h]
    by_cases ho : other = row.id <;> simp [ho, Store.execution?]
  records := rfl
  keyed h := ⟨h.distinct, fun m hm => by cases hm⟩

theorem updated (id : String) (p : ExecutionPatch) (hp : p.isEmpty = false)
    (expected : Option (List RunStatus)) :
    Store.Updated id p expected (.table t) (Store.updateExecution id p expected (.table t)) := by
  rw [Store.updateExecution, Store.run_table, updateExecution_eq]
  cases hc : p.columns with
  | error f => exact .refused f
  | ok columns =>
    cases hg : t.execution? id with
    | none => exact .refused _
    | some row =>
      dsimp only
      have hid : row.id = id := by simpa using List.find?_some hg
      have hfound : (Store.table t).execution? id = some row.record := by
        rw [Store.execution?, hg]
        rfl
      rw [hp, if_neg (by simp)]
      by_cases hs : expected.all (row.status ∈ ·) = true
      · rw [if_pos hs]
        have hasked : ∀ statuses, expected = some statuses → row.record.status ∈ statuses := by
          rintro statuses rfl
          simpa [ExecutionRow.record] using hs
        cases hw : p.write columns row with
        | error f => exact .refused f
        | ok updated =>
          obtain ⟨hwrote, hrow⟩ := ExecutionPatch.wrote_of_write hc hw
          have hrep : Store.Replaced id updated.record (.table t) (.table (t.putExecution updated)) := by
            rw [← hid, ← hrow]
            exact replaced (by rw [hrow, hid, hg])
          refine .wrote hfound hasked hwrote hrep fun hread => ?_
          obtain ⟨e, -, he⟩ := map_eq_ok hread
          cases he
      · rw [if_neg hs]
        cases expected with
        | none => simp at hs
        | some statuses => exact .passed hfound rfl (by simpa [ExecutionRow.record] using hs)

theorem rewrote {t : Table} {row updated : StepRow} (hg : t.step? row.id = some row)
    (hid : updated.id = row.id) (he : updated.execution = row.execution) (hs : updated.step = row.step)
    (hk : (Store.table t).Keyed) :
    Store.Rewrote row.record updated.record (.table t) (.table (t.putStep updated)) := by
  have hrec : (Store.table (t.putStep updated)).records = (Store.table t).records.map
      fun old => if old.id = row.record.id then updated.record else old := by
    rw [Store.records, Store.records, putStep, List.map_map, List.map_map]
    refine List.map_congr_left fun old _ => ?_
    by_cases h : old.id = row.id <;> simp [h, hid, StepRow.record]
  have hfound : row.record ∈ (Store.table t).records :=
    List.mem_map.2 ⟨_, List.mem_of_find?_eq_some hg, rfl⟩
  refine ⟨hfound, fun _ => hk.eq_of_id hfound, hid, he, hs, fun _ => rfl, hrec,
    fun _ => ⟨?_, fun m hm => by cases hm⟩⟩
  rw [hrec, Store.ids_replace (show updated.record.id = row.record.id from hid)]
  exact hk.distinct

theorem stepUpdated (id : String) (p : StepPatch) (hk : (Store.table t).Keyed) :
    Store.StepUpdated id p (.table t) (Store.updateStep id p (.table t)) := by
  rw [Store.updateStep, Store.run_table, updateStep_eq]
  cases hc : p.columns with
  | error f => exact .refused f
  | ok columns =>
    cases hg : t.step? id with
    | none => exact .refused _
    | some row =>
      have hid : row.id = id := by simpa using List.find?_some hg
      dsimp only
      cases hw : p.write columns row with
      | error f => exact .refused f
      | ok updated =>
        obtain ⟨hwrote, hrow, he, hs⟩ := StepPatch.wrote_of_write hc hw
        exact .wrote (show row.record.id = id from hid) hwrote (rewrote (by rw [hid, hg]) hrow he hs hk)

theorem added {t : Table} (row : StepRow) (hk : (Store.table t).Keyed)
    (hf : ∀ old ∈ (Store.table t).records, old.id ≠ row.id) :
    Store.Added row.record (.table t) (.table { t with steps := t.steps ++ [row] }) := by
  have hrec : (Store.table { t with steps := t.steps ++ [row] }).records =
      (Store.table t).records ++ [row.record] := by
    simp [Store.records]
  refine ⟨hf, fun _ => rfl, hrec, fun _ => ⟨?_, fun m hm => by cases hm⟩⟩
  rw [hrec]
  exact Store.nodup_ids_append hk.distinct hf

end Table

namespace Store

variable (s : Store)

theorem updated (id : String) (p : ExecutionPatch) (hp : p.isEmpty = false)
    (expected : Option (List RunStatus)) : Updated id p expected s (updateExecution id p expected s) := by
  cases s with
  | memory m => exact m.updated id p expected
  | table t => exact t.updated id p hp expected

theorem stepUpdated (id : String) (p : StepPatch) (hk : s.Keyed) :
    StepUpdated id p s (updateStep id p s) := by
  cases s with
  | memory m => exact m.stepUpdated id p hk
  | table t => exact t.stepUpdated id p hk

theorem stepCreated (id execution step : String) (hk : s.Keyed) (hf : ∀ old ∈ s.records, old.id ≠ id) :
    StepCreated { id, execution, step } s (createStep id execution step s) := by
  cases s with
  | memory m => exact m.stepCreated id execution step hk hf
  | table t =>
    exact .made (Table.added ⟨id, execution, step, .pending, .null, .null, .real 0.0, none, none⟩ hk hf)

theorem created (id workflow : String) (input : Json) (now : Time) (hf : s.execution? id = none) :
    ∃ t, createExecution id workflow input now s = (.ok { id, workflow, input, createdAt := now }, t) ∧
      s.Replaced id { id, workflow, input, createdAt := now } t := by
  cases s with
  | memory m => exact ⟨_, rfl, m.replaced id _⟩
  | table t =>
    refine ⟨_, rfl, ⟨fun other => ?_, rfl, fun h => ⟨h.distinct, fun m hm => by cases hm⟩⟩⟩
    simp only [execution?, Option.map_eq_none_iff, Table.execution?] at hf ⊢
    rw [List.find?_append]
    by_cases ho : other = id
    · subst ho
      simp [hf, ExecutionRow.record]
    · simp [ho, Ne.symm ho]

/-- A run whose input is an object can be cancelled as soon as it is there. -/
theorem created_cancels (id workflow : String) (members : Members) (now : Time)
    (hf : s.execution? id = none) :
    ∃ x t, updateExecution id { status := some .cancelled } none
      (createExecution id workflow (.obj members) now s).2 = (.ok x, t) := by
  cases s with
  | memory m =>
    let e : Execution := { id, workflow, input := .obj members, createdAt := now }
    show ∃ x t, updateExecution id { status := some .cancelled } none
      (.memory { m with executions := m.executions.put id e }) = (.ok x, t)
    rw [updateExecution, run_memory, Memory.updateExecution_eq, Assoc.get?_put, if_pos rfl]
    exact ⟨_, _, rfl⟩
  | table t =>
    let row : ExecutionRow :=
      ⟨id, workflow, .pending, .obj members, .obj [], now, none, none, .null, .real 0.0⟩
    let made : Table := { t with executions := t.executions ++ [row] }
    have hfind : made.execution? id = some row := by
      simp only [execution?, Option.map_eq_none_iff, Table.execution?] at hf
      simp [Table.execution?, List.find?_append, hf, row, made]
    show ∃ x t, updateExecution id { status := some .cancelled } none (.table made) = (.ok x, t)
    have hcolumns : ({ status := some .cancelled } : ExecutionPatch).columns =
        .ok ⟨some (.str "cancelled"), none, none⟩ := rfl
    rw [updateExecution, run_table, Table.updateExecution_eq, hcolumns, hfind]
    exact ⟨_, _, rfl⟩

theorem findExecution_snd (id : String) : (findExecution id s).2 = s := by
  cases s with
  | memory m => rw [findExecution, run_memory, Memory.findExecution_eq]
  | table t => rw [findExecution, run_table, Table.findExecution_eq]

theorem listExecutions_snd : (listExecutions s).2 = s := by
  cases s with
  | memory m => rw [listExecutions, run_memory, Memory.listExecutions_eq]
  | table t => rw [listExecutions, run_table, Table.listExecutions_eq]

theorem findWorkflow_snd (id : String) : (findWorkflow id s).2 = s := by
  cases s with
  | memory m => rfl
  | table t => rw [findWorkflow, run_table, Table.findWorkflow_eq]

theorem listWorkflows_snd : (listWorkflows s).2 = s := by
  cases s with
  | memory m => rfl
  | table t => rw [listWorkflows, run_table, Table.listWorkflows_eq]

theorem createWorkflow_same (d : Definition) (now : Time) : s.Same (createWorkflow d now s).2 := by
  cases s with
  | memory m =>
    rw [createWorkflow, run_memory, Memory.createWorkflow_eq]
    cases m.workflows.has d.id with
    | false => exact ⟨fun _ => rfl, rfl, fun h => ⟨h.distinct, fun m' hm => by cases hm; exact h.named m rfl⟩⟩
    | true => exact .refl _
  | table t =>
    rw [createWorkflow, run_table, Table.createWorkflow_eq]
    cases (t.workflow? d.id).isSome with
    | false => exact ⟨fun _ => rfl, rfl, fun h => ⟨h.distinct, fun m hm => by cases hm⟩⟩
    | true => exact .refl _

end Store

end Conductor
