import Conductor.Proofs.Store.Edits

/-! What a rejected request leaves behind. All rejections but one kind come before anything is written. The
one that comes later is that of an update which cannot read back the record that it has written; from
then on nobody else can read it either. -/

namespace Conductor

namespace Store

variable {s t : Store}

/-- Every record can be read. -/
def Legible : Store → Prop
  | .memory m => (∀ entry ∈ m.executions, entry.2.copyable = true) ∧ ∀ entry ∈ m.steps, entry.2.copyable = true
  | .table t => (∀ row ∈ t.executions, ∃ x, row.read [] = .ok x) ∧ ∀ row ∈ t.steps, ∃ r, row.read = .ok r

/-- Every look at the store gets an answer. -/
structure Answers (s : Store) : Prop where
  execution : ∀ id, ∃ x, (findExecution id s).1 = .ok x
  executions : ∃ xs, (listExecutions s).1 = .ok xs
  workflow : ∀ id, ∃ x, (findWorkflow id s).1 = .ok x
  workflows : ∃ xs, (listWorkflows s).1 = .ok xs

theorem Legible.finds (h : s.Legible) (id : String) : ∃ x, (findExecution id s).1 = .ok x := by
  cases s with
  | memory m =>
    rw [findExecution, run_memory, Memory.findExecution_eq, Memory.lookup]
    cases hfound : m.executions.get? id with
    | none => exact ⟨none, rfl⟩
    | some e =>
      have hcopy : e.copyable = true := h.1 _ (Assoc.mem_of_get?_eq_some hfound)
      have hsteps : (m.stepsOf id).all (·.copyable) = true := by
        refine List.all_eq_true.2 fun r hr => ?_
        obtain ⟨entry, hentry, rfl⟩ := List.mem_map.1 (List.mem_of_mem_filter hr)
        exact h.2 entry hentry
      exact ⟨some { e with steps := m.stepsOf id }, by simp [hcopy, hsteps]⟩
  | table t =>
    rw [findExecution, run_table, Table.findExecution_eq, Table.lookup]
    cases hfound : t.execution? id with
    | none => exact ⟨none, rfl⟩
    | some row =>
      obtain ⟨x, hx⟩ := h.1 row (List.mem_of_find?_eq_some hfound)
      obtain ⟨steps, hsteps⟩ := exists_mapM fun row hr => h.2 row (List.mem_of_mem_filter (p := (·.execution = id)) hr)
      refine ⟨some { x with steps }, ?_⟩
      dsimp only
      rw [hsteps]
      show (row.read steps).map some = _
      rw [row.read_steps steps, hx]
      rfl

theorem Legible.lists (h : s.Legible) : ∃ xs, (listExecutions s).1 = .ok xs := by
  cases s with
  | memory m =>
    have hall : (m.executions.map Prod.snd).all (·.copyable) = true := by
      simpa [List.all_eq_true] using fun id e he => h.1 (id, e) he
    refine ⟨(m.executions.map Prod.snd).mergeSort fun a b => decide (b.createdAt ≤ a.createdAt), ?_⟩
    rw [listExecutions, run_memory, Memory.listExecutions_eq, if_pos hall]
  | table t =>
    let rows := t.executions.mergeSort fun a b => decide (b.createdAt ≤ a.createdAt)
    have hread : ∀ row ∈ rows, ∃ x, row.read [] = .ok x := fun row hr => h.1 row (List.mem_mergeSort.1 hr)
    obtain ⟨xs, hxs⟩ := exists_mapM hread
    refine ⟨xs, ?_⟩
    rw [listExecutions, run_table, Table.listExecutions_eq]
    exact hxs

theorem Legible.answers (h : s.Legible) (ho : s.Orderly) : s.Answers := by
  obtain ⟨kept, hkept⟩ := ho.kept
  obtain ⟨listed, hlisted, -⟩ := hkept.listWorkflows
  exact ⟨h.finds, h.lists, fun id => ⟨_, hkept.findWorkflow id⟩, listed, hlisted⟩

/-! Updates -/

section Revised

variable {ρ κ α : Type} {key : ρ → κ} {legible : ρ → Prop} {found : Option ρ} {place : ρ → Store}
  {out : Except Failure α × Store} {f : Failure}

theorem Revised.eq_of_rejected (h : Revised key legible found place s out) (hf : out.1 = .error f)
    (hn : f.isMisread = false) : out.2 = s := by
  cases h with
  | refused | looked | unread => rfl
  | wrote => cases hf
  | spoilt h hk hl hm =>
    cases hf
    rw [hn] at hm
    cases hm

theorem Revised.legible_after (h : Revised key legible found place s out) (hs : s.Legible)
    (hfound : ∀ old, found = some old → legible old) (hplace : ∀ new, legible new → (place new).Legible)
    (hok : ∀ f, out.1 = .error f → f.isMisread = false) : out.2.Legible := by
  cases h with
  | refused | looked => exact hs
  | unread h hl => exact absurd (hfound _ h) hl
  | wrote h hk hl => exact hplace _ hl
  | spoilt h hk hl hm =>
    rw [hok _ rfl] at hm
    cases hm

theorem Revised.spoils (h : Revised key legible found place s out) (hfound : ∀ old, found = some old → legible old)
    (hf : out.1 = .error f) (hm : f.isMisread = true) :
    ∃ old new, found = some old ∧ key new = key old ∧ ¬ legible new ∧ out.2 = place new := by
  cases h with
  | refused hn =>
    cases hf
    rw [hn] at hm
    cases hm
  | looked | wrote => cases hf
  | unread h hl => exact absurd (hfound _ h) hl
  | spoilt h hk hl => exact ⟨_, _, h, hk, hl, rfl⟩

end Revised

theorem Legible.execution_memory {m : Memory} (h : (Store.memory m).Legible) {id : String} {e : Execution}
    (he : m.executions.get? id = some e) : e.copyable = true := h.1 _ (Assoc.mem_of_get?_eq_some he)

theorem Legible.step_memory {m : Memory} (h : (Store.memory m).Legible) {id : String} {r : StepRecord}
    (hr : m.steps.get? id = some r) : r.copyable = true := h.2 _ (Assoc.mem_of_get?_eq_some hr)

theorem Legible.execution_table {t : Table} (h : (Store.table t).Legible) {id : String} {row : ExecutionRow}
    (hrow : t.execution? id = some row) : ∃ x, row.read [] = .ok x := h.1 row (List.mem_of_find?_eq_some hrow)

theorem Legible.step_table {t : Table} (h : (Store.table t).Legible) {id : String} {row : StepRow}
    (hrow : t.step? id = some row) : ∃ r, row.read = .ok r := h.2 row (List.mem_of_find?_eq_some hrow)

theorem Legible.placeExecution {m : Memory} (h : (Store.memory m).Legible) (id : String) {e : Execution}
    (he : e.copyable = true) : (placeExecution m id e).Legible := by
  refine ⟨fun entry hentry => ?_, h.2⟩
  rcases Assoc.mem_put hentry with rfl | hentry
  · exact he
  · exact h.1 entry hentry

theorem Legible.placeStep {m : Memory} (h : (Store.memory m).Legible) (id : String) {r : StepRecord}
    (hr : r.copyable = true) : (placeStep m id r).Legible := by
  refine ⟨h.1, fun entry hentry => ?_⟩
  rcases Assoc.mem_put hentry with rfl | hentry
  · exact hr
  · exact h.2 entry hentry

theorem Legible.putExecution {t : Table} (h : (Store.table t).Legible) {row : ExecutionRow}
    (hrow : ∃ x, row.read [] = .ok x) : (Store.table (t.putExecution row)).Legible := by
  refine ⟨fun other hother => ?_, h.2⟩
  obtain ⟨old, hold, rfl⟩ := List.mem_map.1 hother
  by_cases hid : old.id = row.id
  · rwa [if_pos hid]
  · rw [if_neg hid]
    exact h.1 old hold

theorem Legible.putStep {t : Table} (h : (Store.table t).Legible) {row : StepRow}
    (hrow : ∃ r, row.read = .ok r) : (Store.table (t.putStep row)).Legible := by
  refine ⟨h.1, fun other hother => ?_⟩
  obtain ⟨old, hold, rfl⟩ := List.mem_map.1 hother
  by_cases hid : old.id = row.id
  · rwa [if_pos hid]
  · rw [if_neg hid]
    exact h.2 old hold

theorem legible_updateExecution (hs : s.Legible) (id : String) (p : ExecutionPatch)
    (expected : Option (List RunStatus))
    (hok : ∀ f, (updateExecution id p expected s).1 = .error f → f.isMisread = false) :
    (updateExecution id p expected s).2.Legible := by
  cases s with
  | memory m =>
    exact (revised_execution_memory m id p expected).legible_after hs (fun _ => hs.execution_memory)
      (fun _ => hs.placeExecution id) hok
  | table t =>
    exact (revised_execution_table t id p expected).legible_after hs (fun _ => hs.execution_table)
      (fun _ => hs.putExecution) hok

theorem legible_updateStep (hs : s.Legible) (id : String) (p : StepPatch)
    (hok : ∀ f, (updateStep id p s).1 = .error f → f.isMisread = false) : (updateStep id p s).2.Legible := by
  cases s with
  | memory m =>
    exact (revised_step_memory m id p).legible_after hs (fun _ => hs.step_memory) (fun _ => hs.placeStep id) hok
  | table t =>
    exact (revised_step_table t id p).legible_after hs (fun _ => hs.step_table) (fun _ => hs.putStep) hok

theorem legible_createExecution (hs : s.Legible) (id workflow : String) (members : Members) (now : Time) :
    (createExecution id workflow (.obj members) now s).2.Legible := by
  cases s with
  | memory m => exact hs.placeExecution id rfl
  | table t =>
    refine ⟨fun row hrow => ?_, hs.2⟩
    rcases List.mem_append.1 hrow with hrow | hrow
    · exact hs.1 row hrow
    · obtain rfl := List.mem_singleton.1 hrow
      exact ⟨_, rfl⟩

theorem legible_createStep (hs : s.Legible) (id execution step : String) :
    (createStep id execution step s).2.Legible := by
  rcases s.createStep_cases id execution step with h | h <;> rw [h]
  · exact hs
  · cases s with
    | memory m => exact hs.placeStep id rfl
    | table t =>
      refine ⟨hs.1, fun row hrow => ?_⟩
      rcases List.mem_append.1 hrow with hrow | hrow
      · exact hs.2 row hrow
      · obtain rfl := List.mem_singleton.1 hrow
        exact ⟨_, rfl⟩

theorem legible_createWorkflow (hs : s.Legible) (d : Definition) (now : Time) :
    (createWorkflow d now s).2.Legible := by
  rcases s.createWorkflow_cases d now with h | h <;> rw [h]
  · exact hs
  · cases s <;> exact hs

theorem legible_perform {e : Edit} (hs : s.Legible)
    (hok : ∀ f, (e.perform s).1 = .error f → f.isMisread = false) : (e.perform s).2.Legible := by
  cases e with
  | createExecution id workflow members now =>
    rw [Edit.perform, Act.discard_apply]
    exact legible_createExecution hs id workflow members now
  | updateExecution id names p expected =>
    rcases perform_updateExecution s id names p expected with ⟨f, -, hout⟩ | hout
    · rwa [hout]
    · rw [hout] at hok ⊢
      exact legible_updateExecution hs id p expected fun f hf => hok f (by rw [hf]; rfl)
  | createStep id execution step =>
    rw [Edit.perform, Act.discard_apply]
    exact legible_createStep hs id execution step
  | updateStep id names p =>
    rcases perform_updateStep s id names p with ⟨f, -, hout⟩ | hout
    · rwa [hout]
    · rw [hout] at hok ⊢
      exact legible_updateStep hs id p fun f hf => hok f (by rw [hf]; rfl)
  | createWorkflow d now =>
    rw [Edit.perform, Act.discard_apply]
    exact legible_createWorkflow hs d now

theorem Reached.legible (h : Reached (·.isMisread = false) s) : s.Legible := by
  induction h with
  | memory => exact ⟨nofun, nofun⟩
  | table => exact ⟨nofun, nofun⟩
  | edit _ e fresh fails ih => exact legible_perform ih fails

/-! Rejections -/

theorem eq_of_updateExecution {id : String} {p : ExecutionPatch} {expected : Option (List RunStatus)} {f : Failure}
    (h : (updateExecution id p expected s).1 = .error f) (hn : f.isMisread = false) :
    (updateExecution id p expected s).2 = s := by
  cases s with
  | memory m => exact (revised_execution_memory m id p expected).eq_of_rejected h hn
  | table t => exact (revised_execution_table t id p expected).eq_of_rejected h hn

theorem eq_of_updateStep {id : String} {p : StepPatch} {f : Failure} (h : (updateStep id p s).1 = .error f)
    (hn : f.isMisread = false) : (updateStep id p s).2 = s := by
  cases s with
  | memory m => exact (revised_step_memory m id p).eq_of_rejected h hn
  | table t => exact (revised_step_table t id p).eq_of_rejected h hn

theorem eq_of_createStep {id execution step : String} {f : Failure}
    (h : (createStep id execution step s).1 = .error f) :
    (createStep id execution step s).2 = s ∧ f.isMisread = false := by
  rcases s.createStep_cases id execution step with hout | hout <;> rw [hout] at h ⊢ <;> cases h
  exact ⟨rfl, rfl⟩

theorem eq_of_createWorkflow {d : Definition} {now : Time} {f : Failure}
    (h : (createWorkflow d now s).1 = .error f) : (createWorkflow d now s).2 = s ∧ f.isMisread = false := by
  rcases s.createWorkflow_cases d now with hout | hout <;> rw [hout] at h ⊢ <;> cases h
  exact ⟨rfl, rfl⟩

theorem createExecution_answers (s : Store) (id workflow : String) (input : Json) (now : Time) (f : Failure) :
    (createExecution id workflow input now s).1 ≠ .error f := by
  cases s <;> nofun

/-- What is left of an update that was rejected once it had written: the record holds what the patch made of it,
and cannot be read any more. -/
inductive Spoilt (s t : Store) : Edit → Prop
  | execution {id : String} {names : List String} {p : ExecutionPatch} {expected : Option (List RunStatus)}
      {e e' : Execution} (found : s.execution? id = some e) (wrote : p.Wrote e e') (replaced : s.Replaced id e' t)
      (find : ∃ f, (findExecution id t).1 = .error f) (list : ∃ f, (listExecutions t).1 = .error f) :
      Spoilt s t (.updateExecution id names p expected)
  | step {id : String} {names : List String} {p : StepPatch} {r r' : StepRecord} (named : r.id = id)
      (wrote : p.Wrote r r') (rewrote : s.Rewrote r r' t)
      (find : (s.execution? r.execution).isSome → ∃ f, (findExecution r.execution t).1 = .error f) :
      Spoilt s t (.updateStep id names p)

theorem misread_placeExecution (m : Memory) (id : String) {e : Execution} (he : e.copyable ≠ true) :
    (findExecution id (placeExecution m id e)).1 = .error .notCopyable ∧
      (listExecutions (placeExecution m id e)).1 = .error .notCopyable := by
  replace he : e.copyable = false := by simpa using he
  have hget : (m.executions.put id e).get? id = some e := (Assoc.get?_put ..).trans (if_pos rfl)
  constructor
  · rw [placeExecution, findExecution, run_memory, Memory.findExecution_eq, Memory.lookup, hget]
    simp [he]
  · have hall : ((m.executions.put id e).map Prod.snd).all (·.copyable) = false := by
      refine List.all_eq_false.2 ⟨e, List.mem_map_of_mem (Assoc.mem_of_get?_eq_some hget), by simp [he]⟩
    rw [placeExecution, listExecutions, run_memory, Memory.listExecutions_eq, hall]
    rfl

theorem misread_putExecution {t : Table} {old new : ExecutionRow} (hold : t.execution? new.id = some old)
    (hnew : ¬ ∃ x, new.read [] = .ok x) :
    (∃ f, (findExecution new.id (.table (t.putExecution new))).1 = .error f) ∧
      ∃ f, (listExecutions (.table (t.putExecution new))).1 = .error f := by
  have hfound : (t.putExecution new).execution? new.id = some new :=
    (Table.execution?_putExecution hold _).trans (if_pos rfl)
  constructor
  · rw [findExecution, run_table, Table.findExecution_eq]
    refine Table.exists_lookup_eq_error hfound fun steps e _ hread => ?_
    rw [new.read_steps steps] at hread
    obtain ⟨x, hx, -⟩ := map_eq_ok hread
    exact hnew ⟨x, hx⟩
  · rw [listExecutions, run_table, Table.listExecutions_eq]
    cases hread : ((t.putExecution new).executions.mergeSort fun a b => decide (b.createdAt ≤ a.createdAt)).mapM
        (·.read []) with
    | error f => exact ⟨f, rfl⟩
    | ok xs =>
      exact absurd (ok_of_mapM hread new (List.mem_mergeSort.2 (List.mem_of_find?_eq_some hfound))) hnew

theorem misread_placeStep {m : Memory} {id : String} {r : StepRecord} (hr : r.copyable ≠ true) {e : Execution}
    (he : m.executions.get? r.execution = some e) :
    (findExecution r.execution (placeStep m id r)).1 = .error .notCopyable := by
  have hget : (m.steps.put id r).get? id = some r := (Assoc.get?_put ..).trans (if_pos rfl)
  have hall : (Memory.stepsOf { m with steps := m.steps.put id r } r.execution).all (·.copyable) = false := by
    refine List.all_eq_false.2 ⟨r, ?_, by simpa using hr⟩
    exact List.mem_filter.2 ⟨List.mem_map_of_mem (Assoc.mem_of_get?_eq_some hget), by simp⟩
  rw [placeStep, findExecution, run_memory, Memory.findExecution_eq, Memory.lookup, he]
  simp [hall]

theorem misread_putStep {t : Table} {new : StepRow} (hmem : new ∈ (t.putStep new).steps)
    (hnew : ¬ ∃ r, new.read = .ok r) {row : ExecutionRow} (hrow : t.execution? new.execution = some row) :
    ∃ f, (findExecution new.execution (.table (t.putStep new))).1 = .error f := by
  have hfound : (t.putStep new).execution? new.execution = some row := hrow
  rw [findExecution, run_table, Table.findExecution_eq]
  exact Table.exists_lookup_eq_error hfound fun steps e hread _ =>
    hnew (ok_of_mapM hread new (List.mem_filter.2 ⟨hmem, by simp⟩))

theorem mem_putStep {t : Table} {old new : StepRow} (hold : t.step? new.id = some old) :
    new ∈ (t.putStep new).steps := by
  have hid : old.id = new.id := by simpa using List.find?_some hold
  exact List.mem_map.2 ⟨old, List.mem_of_find?_eq_some hold, if_pos hid⟩

theorem misread_updateExecution (hs : s.Legible) {id : String} {p : ExecutionPatch}
    {expected : Option (List RunStatus)} {f : Failure} (hf : (updateExecution id p expected s).1 = .error f)
    (hm : f.isMisread = true) :
    (∃ g, (findExecution id (updateExecution id p expected s).2).1 = .error g) ∧
      ∃ g, (listExecutions (updateExecution id p expected s).2).1 = .error g := by
  cases s with
  | memory m =>
    obtain ⟨old, new, -, -, hnew, hplace⟩ :=
      (revised_execution_memory m id p expected).spoils (fun _ => hs.execution_memory) hf hm
    obtain ⟨hfind, hlist⟩ := misread_placeExecution m id hnew
    rw [hplace]
    exact ⟨⟨_, hfind⟩, _, hlist⟩
  | table t =>
    obtain ⟨old, new, hold, hid, hnew, hplace⟩ :=
      (revised_execution_table t id p expected).spoils (fun _ => hs.execution_table) hf hm
    have hold' : old.id = id := by simpa using List.find?_some hold
    obtain rfl : new.id = id := hid.trans hold'
    rw [hplace]
    exact misread_putExecution hold hnew

theorem spoilt_updateExecution (hs : s.Legible) {id : String} {names : List String} {p : ExecutionPatch}
    {expected : Option (List RunStatus)} {f : Failure} (hf : (updateExecution id p expected s).1 = .error f)
    (hm : f.isMisread = true) :
    Spoilt s (updateExecution id p expected s).2 (.updateExecution id names p expected) := by
  obtain ⟨hfind, hlist⟩ := misread_updateExecution hs hf hm
  -- a look could not have failed
  have hwritten : (updateExecution id p expected s).2 ≠ s := by
    intro he
    obtain ⟨g, hg⟩ := hfind
    obtain ⟨x, hx⟩ := hs.finds id
    rw [he, hx] at hg
    cases hg
  have hupdated : Updated id p expected s (updateExecution id p expected s) := by
    cases s with
    | memory m => exact m.updated id p expected
    | table t =>
      refine t.updated id p ?_ expected
      by_contra hempty
      rw [Bool.not_eq_false] at hempty
      exact hwritten (by rw [updateExecution_of_isEmpty t id hempty])
  generalize updateExecution id p expected s = out at hf hfind hlist hwritten hupdated ⊢
  cases hupdated with
  | refused | passed => exact absurd rfl hwritten
  | wrote found asked wrote replaced answer => exact .execution found wrote replaced hfind hlist

theorem misread_updateStep (hs : s.Legible) (hk : s.Keyed) {id : String} {p : StepPatch} {f : Failure}
    (hf : (updateStep id p s).1 = .error f) (hm : f.isMisread = true) :
    ¬ (updateStep id p s).2.Legible ∧ ∃ r ∈ s.records, r.id = id ∧
      ((s.execution? r.execution).isSome → ∃ g, (findExecution r.execution (updateStep id p s).2).1 = .error g) := by
  cases s with
  | memory m =>
    obtain ⟨old, new, hold, hkey, hnew, hplace⟩ :=
      (revised_step_memory m id p).spoils (fun _ => hs.step_memory) hf hm
    have hmem := Assoc.mem_of_get?_eq_some hold
    rw [hplace]
    refine ⟨fun h => hnew ?_, old, List.mem_map_of_mem hmem, (hk.named m rfl _ hmem).symm, fun hsome => ?_⟩
    · exact Legible.step_memory h ((Assoc.get?_put ..).trans (if_pos rfl))
    · obtain ⟨e, he⟩ := Option.isSome_iff_exists.1 hsome
      rw [← (Prod.mk.inj hkey).2] at he ⊢
      exact ⟨_, misread_placeStep hnew he⟩
  | table t =>
    obtain ⟨old, new, hold, hkey, hnew, hplace⟩ :=
      (revised_step_table t id p).spoils (fun _ => hs.step_table) hf hm
    obtain ⟨hid, hexecution⟩ := Prod.mk.inj hkey
    have hold' : old.id = id := by simpa using List.find?_some hold
    have hmem : new ∈ (t.putStep new).steps := mem_putStep (hid.trans hold' ▸ hold)
    rw [hplace]
    refine ⟨fun h => hnew (h.2 new hmem), old.record, List.mem_map_of_mem (List.mem_of_find?_eq_some hold), hold',
      fun hsome => ?_⟩
    obtain ⟨row, hrow⟩ := Option.isSome_iff_exists.1 (Option.isSome_map ▸ hsome)
    have hrow' : t.execution? new.execution = some row := by
      rw [hexecution]
      exact hrow
    change ∃ g, (findExecution old.execution _).1 = .error g
    rw [← hexecution]
    exact misread_putStep hmem hnew hrow'

theorem spoilt_updateStep (hs : s.Legible) (hk : s.Keyed) {id : String} {names : List String} {p : StepPatch}
    {f : Failure} (hf : (updateStep id p s).1 = .error f) (hm : f.isMisread = true) :
    Spoilt s (updateStep id p s).2 (.updateStep id names p) := by
  obtain ⟨hwritten, r, hr, hid, hfind⟩ := misread_updateStep hs hk hf hm
  have hupdated := s.stepUpdated id p hk
  generalize updateStep id p s = out at hf hfind hwritten hupdated ⊢
  cases hupdated with
  | refused => exact absurd hs hwritten
  | wrote named wrote rewrote =>
    obtain rfl := hk.eq_of_id rewrote.found hr (hid.trans named.symm)
    exact .step named wrote rewrote hfind

/-- A request that is rejected before it writes leaves the store as it was. -/
theorem eq_of_rejected {e : Edit} {f : Failure} (h : (e.perform s).1 = .error f) (hn : f.isMisread = false) :
    (e.perform s).2 = s := by
  cases e with
  | createExecution id workflow members now =>
    rw [Edit.perform, Act.discard_apply] at h
    exact absurd (map_eq_error h) (createExecution_answers s id workflow _ now f)
  | updateExecution id names p expected =>
    rcases perform_updateExecution s id names p expected with ⟨g, -, hout⟩ | hout
    · rw [hout]
    · rw [hout] at h ⊢
      exact eq_of_updateExecution (map_eq_error h) hn
  | createStep id execution step =>
    rw [Edit.perform, Act.discard_apply] at h ⊢
    exact (eq_of_createStep (map_eq_error h)).1
  | updateStep id names p =>
    rcases perform_updateStep s id names p with ⟨g, -, hout⟩ | hout
    · rw [hout]
    · rw [hout] at h ⊢
      exact eq_of_updateStep (map_eq_error h) hn
  | createWorkflow d now =>
    rw [Edit.perform, Act.discard_apply] at h ⊢
    exact (eq_of_createWorkflow (map_eq_error h)).1

theorem spoilt_of_misread {e : Edit} {f : Failure} (hs : s.Legible) (hk : s.Keyed)
    (h : (e.perform s).1 = .error f) (hm : f.isMisread = true) : Spoilt s (e.perform s).2 e := by
  cases e with
  | createExecution id workflow members now =>
    rw [Edit.perform, Act.discard_apply] at h
    exact absurd (map_eq_error h) (createExecution_answers s id workflow _ now f)
  | updateExecution id names p expected =>
    rcases perform_updateExecution s id names p expected with ⟨g, hg, hout⟩ | hout
    · rw [hout] at h
      cases h
      rw [hg] at hm
      cases hm
    · rw [hout] at h ⊢
      exact spoilt_updateExecution hs (map_eq_error h) hm
  | createStep id execution step =>
    rw [Edit.perform, Act.discard_apply] at h
    rw [(eq_of_createStep (map_eq_error h)).2] at hm
    cases hm
  | updateStep id names p =>
    rcases perform_updateStep s id names p with ⟨g, hg, hout⟩ | hout
    · rw [hout] at h
      cases h
      rw [hg] at hm
      cases hm
    · rw [hout] at h ⊢
      exact spoilt_updateStep hs hk (map_eq_error h) hm
  | createWorkflow d now =>
    rw [Edit.perform, Act.discard_apply] at h
    rw [(eq_of_createWorkflow (map_eq_error h)).2] at hm
    cases hm

/-- A request that fails leaves the store as it was, unless it fails to read back what it has written. As long
as no request has failed in that way, every record can be read, and so it stays after any other failure. The
first one that does is an update of a run or of a record of a step, and that run can be read no more, nor,
if it was the run itself that was updated, can the runs be listed. -/
theorem rejections_write_nothing_but_what_is_misread (s : Store) :
    (∀ (e : Edit) f t, e.perform s = (.error f, t) → f.isMisread = false → t = s) ∧
    (Reached (·.isMisread = false) s → s.Answers ∧
      ∀ (e : Edit) f t, e.perform s = (.error f, t) →
        (f.isMisread = false → t = s ∧ t.Answers) ∧ (f.isMisread = true → Spoilt s t e)) := by
  have hsame {e : Edit} {f : Failure} {t : Store} (h : e.perform s = (.error f, t)) (hn : f.isMisread = false) :
      t = s := by
    have heq := eq_of_rejected (s := s) (congrArg Prod.fst h) hn
    rwa [h] at heq
  refine ⟨fun e f t h hn => hsame h hn, fun hs => ?_⟩
  have hanswers := hs.legible.answers hs.orderly
  refine ⟨hanswers, fun e f t h => ⟨fun hn => ?_, fun hm => ?_⟩⟩
  · obtain rfl : t = s := hsame h hn
    exact ⟨rfl, hanswers⟩
  · have hspoilt := spoilt_of_misread hs.legible hs.orderly.keyed (congrArg Prod.fst h) hm
    rwa [h] at hspoilt

/-- A status that no run has is refused by a table only once it is in its row. -/
theorem rejections_write_nothing_but_what_is_misread_of_status :
    let made : Edit := .createExecution "id-1" "w" [("q", .str "why")] 0
    let poison : Edit := .updateExecution "id-1" ["status"] { status := some (.other (.str "bogus")) } none
    let s := (made.perform (.table {})).2
    Reached (·.isMisread = false) s ∧ s.Answers ∧
      ∃ f t, poison.perform s = (.error f, t) ∧ f.isMisread = true ∧ Spoilt s t poison := by
  intro made poison s
  have hs : Reached (·.isMisread = false) s := .edit .table made rfl nofun
  obtain ⟨hanswers, hrejected⟩ := (rejections_write_nothing_but_what_is_misread s).2 hs
  refine ⟨hs, hanswers, _, _, rfl, rfl, (hrejected poison _ _ rfl).2 rfl⟩

end Store

end Conductor
