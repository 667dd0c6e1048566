import Conductor.Proofs.Store.Mirror
import Conductor.Proofs.Store.Workflows

/-! Everything that writes to a store, and the stores that come of it. An update checks the names of its
fields, finds its record, writes, and then reads back what it has written; where that cannot be read the
update fails, but it has written. -/

namespace Conductor

/-- Whether a stored record could not be read back. -/
def Failure.isMisread : Failure → Bool
  | .malformed .. => true
  | .notCopyable => true
  | _ => false

theorem ExecutionRow.read_steps (row : ExecutionRow) (steps : List StepRecord) :
    row.read steps = (row.read []).map fun x => { x with steps } := by
  unfold read reading
  dsimp only
  generalize objectColumn "input" row.input = input
  generalize objectColumn "output" row.output = output
  generalize (Reading.real row.cost).below "total_cost_usd" = cost
  cases row.status.isKnown <;> cases input <;> cases output <;> cases cost <;> rfl

theorem ExecutionRow.isMisread_of_read {row : ExecutionRow} {steps : List StepRecord} {f : Failure}
    (h : row.read steps = .error f) : f.isMisread = true := by
  obtain ⟨problems, rfl⟩ := read_error h
  rfl

theorem StepRow.isMisread_of_read {row : StepRow} {f : Failure} (h : row.read = .error f) :
    f.isMisread = true := by
  obtain ⟨problems, rfl⟩ := read_error h
  rfl

theorem Columns.not_isMisread_of_ofFields {status error cost : Option Json} {f : Failure}
    (h : ofFields status error cost = .error f) : f.isMisread = false := by
  rcases ofFields_error h with rfl | rfl
  · rfl
  · rfl

namespace Store

/-- What comes of an update: it is refused, it writes nothing, or it writes a record in the place of the one
that it found, with the same key. It answers as long as it reads a record that is in order. -/
inductive Revised {ρ κ α : Type} (key : ρ → κ) (legible : ρ → Prop) (found : Option ρ) (place : ρ → Store)
    (s : Store) : Except Failure α × Store → Prop
  | refused {f : Failure} (h : f.isMisread = false) : Revised key legible found place s (.error f, s)
  | looked {v : α} : Revised key legible found place s (.ok v, s)
  | unread {old : ρ} {f : Failure} (h : found = some old) (hl : ¬ legible old) :
      Revised key legible found place s (.error f, s)
  | wrote {old new : ρ} {v : α} (h : found = some old) (hk : key new = key old) (hl : legible new) :
      Revised key legible found place s (.ok v, place new)
  | spoilt {old new : ρ} {f : Failure} (h : found = some old) (hk : key new = key old) (hl : ¬ legible new)
      (hf : f.isMisread = true) : Revised key legible found place s (.error f, place new)

def placeExecution (m : Memory) (id : String) (e : Execution) : Store :=
  .memory { m with executions := m.executions.put id e }

def placeStep (m : Memory) (id : String) (r : StepRecord) : Store :=
  .memory { m with steps := m.steps.put id r }

theorem revised_execution_memory (m : Memory) (id : String) (p : ExecutionPatch)
    (expected : Option (List RunStatus)) :
    Revised Execution.id (·.copyable = true) (m.executions.get? id) (placeExecution m id) (.memory m)
      (updateExecution id p expected (.memory m)) := by
  rw [updateExecution, run_memory, Memory.updateExecution_eq]
  cases hfound : m.executions.get? id with
  | none => exact .refused rfl
  | some e =>
    dsimp only
    by_cases hasked : expected.all (e.status ∈ ·) = true
    · rw [if_pos hasked]
      cases hcopy : e.copyable with
      | false => exact .unread rfl (by simp [hcopy])
      | true =>
        cases hkeeps : (p.apply e).copyable with
        | true => exact .wrote rfl rfl hkeeps
        | false => exact .spoilt rfl rfl (by simp [hkeeps]) rfl
    · rw [if_neg hasked]
      exact .looked

theorem revised_execution_table (t : Table) (id : String) (p : ExecutionPatch)
    (expected : Option (List RunStatus)) :
    Revised ExecutionRow.id (fun row => ∃ x, row.read [] = .ok x) (t.execution? id)
      (fun row => .table (t.putExecution row)) (.table t) (updateExecution id p expected (.table t)) := by
  rw [updateExecution, run_table, Table.updateExecution_eq]
  cases hcolumns : p.columns with
  | error f => exact .refused (Columns.not_isMisread_of_ofFields hcolumns)
  | ok columns =>
    cases hfound : t.execution? id with
    | none => exact .refused rfl
    | some row =>
      dsimp only
      by_cases hempty : p.isEmpty = true
      · rw [if_pos hempty]
        cases hread : row.read [] with
        | error f => exact .unread rfl (by simp [hread])
        | ok x => exact .looked
      · rw [if_neg hempty]
        by_cases hasked : expected.all (row.status ∈ ·) = true
        · rw [if_pos hasked]
          cases hwrite : p.write columns row with
          | error f =>
            refine .refused ?_
            unfold ExecutionPatch.write at hwrite
            split_ifs at hwrite <;> cases hwrite <;> rfl
          | ok new =>
            have hid : new.id = row.id := (ExecutionPatch.wrote_of_write hcolumns hwrite).2
            dsimp only
            cases hread : new.read [] with
            | error f => exact .spoilt rfl hid (by simp [hread]) (ExecutionRow.isMisread_of_read hread)
            | ok x => exact .wrote rfl hid ⟨x, hread⟩
        · rw [if_neg hasked]
          exact .looked

theorem revised_step_memory (m : Memory) (id : String) (p : StepPatch) :
    Revised (fun r => (r.id, r.execution)) (·.copyable = true) (m.steps.get? id) (placeStep m id) (.memory m)
      (updateStep id p (.memory m)) := by
  rw [updateStep, run_memory, Memory.updateStep_eq]
  cases hfound : m.steps.get? id with
  | none => exact .refused rfl
  | some r =>
    dsimp only
    cases hcopy : r.copyable with
    | false => exact .unread rfl (by simp [hcopy])
    | true =>
      cases hkeeps : (p.apply r).copyable with
      | true => exact .wrote rfl rfl hkeeps
      | false => exact .spoilt rfl rfl (by simp [hkeeps]) rfl

theorem revised_step_table (t : Table) (id : String) (p : StepPatch) :
    Revised (fun row => (row.id, row.execution)) (fun row => ∃ r, row.read = .ok r) (t.step? id)
      (fun row => .table (t.putStep row)) (.table t) (updateStep id p (.table t)) := by
  rw [updateStep, run_table, Table.updateStep_eq]
  cases hcolumns : p.columns with
  | error f => exact .refused (Columns.not_isMisread_of_ofFields hcolumns)
  | ok columns =>
    cases hfound : t.step? id with
    | none => exact .refused rfl
    | some row =>
      dsimp only
      cases hwrite : p.write columns row with
      | error f =>
        refine .refused ?_
        unfold StepPatch.write at hwrite
        split_ifs at hwrite <;> cases hwrite <;> rfl
      | ok new =>
        obtain ⟨-, hid, hexecution, -⟩ := StepPatch.wrote_of_write hcolumns hwrite
        have hkey : (new.id, new.execution) = (row.id, row.execution) := by rw [hid, hexecution]
        dsimp only
        cases hread : new.read with
        | error f => exact .spoilt rfl hkey (by simp [hread]) (StepRow.isMisread_of_read hread)
        | ok r => exact .wrote rfl hkey ⟨r, hread⟩

/-- An update of a row without fields only looks at it, whatever status it expects. -/
theorem updateExecution_of_isEmpty (t : Table) (id : String) {p : ExecutionPatch} (hp : p.isEmpty = true)
    (expected : Option (List RunStatus)) :
    updateExecution id p expected (.table t) = (match t.execution? id with
      | none => .error (.noExecution id)
      | some row => (row.read []).map some, .table t) := by
  have hcolumns : p.columns = .ok ⟨none, none, none⟩ := by
    simp only [ExecutionPatch.isEmpty, Bool.and_eq_true, Option.isNone_iff_eq_none] at hp
    obtain ⟨⟨⟨⟨⟨hstatus, -⟩, -⟩, -⟩, herror⟩, hcost⟩ := hp
    rw [ExecutionPatch.columns, hstatus, herror, hcost]
    rfl
  rw [updateExecution, run_table, Table.updateExecution_eq, hcolumns]
  cases t.execution? id with
  | none => rfl
  | some row =>
    dsimp only
    rw [if_pos hp]

/-- The store with a new record of a step. -/
def addStep (id execution step : String) : Store → Store
  | .memory m => placeStep m id { id, execution, step }
  | .table t =>
    .table { t with steps := t.steps ++ [⟨id, execution, step, .pending, .null, .null, .real 0.0, none, none⟩] }

/-- The store with a new workflow. -/
def addWorkflow (d : Definition) (now : Time) : Store → Store
  | .memory m => .memory { m with workflows := m.workflows.put d.id ⟨d, now⟩ }
  | .table t => .table { t with workflows := t.workflows ++ [.ofDefinition d now] }

theorem createStep_cases (s : Store) (id execution step : String) :
    createStep id execution step s = (.error (.noExecution execution), s) ∨
      createStep id execution step s = (.ok { id, execution, step }, s.addStep id execution step) := by
  cases s with
  | memory m =>
    rw [createStep, run_memory, Memory.createStep_eq]
    cases m.executions.has execution with
    | false => exact .inl rfl
    | true => exact .inr rfl
  | table t => exact .inr rfl

theorem createWorkflow_cases (s : Store) (d : Definition) (now : Time) :
    createWorkflow d now s = (.error (.workflowStored d.id), s) ∨
      createWorkflow d now s = (.ok ⟨d, now⟩, s.addWorkflow d now) := by
  cases s with
  | memory m =>
    rw [createWorkflow, run_memory, Memory.createWorkflow_eq]
    cases m.workflows.has d.id with
    | true => exact .inl rfl
    | false => exact .inr rfl
  | table t =>
    rw [createWorkflow, run_table, Table.createWorkflow_eq]
    cases (t.workflow? d.id).isSome with
    | true => exact .inl rfl
    | false => exact .inr rfl

/-! Stores that come of edits -/

/-- A write to a store. An update comes with the names of its fields. -/
inductive Edit where
  | createExecution (id workflow : String) (input : Members) (now : Time)
  | updateExecution (id : String) (names : List String) (patch : ExecutionPatch)
      (expected : Option (List RunStatus))
  | createStep (id execution step : String)
  | updateStep (id : String) (names : List String) (patch : StepPatch)
  | createWorkflow (d : Definition) (now : Time)

namespace Edit

def perform : Edit → Act Store PUnit
  | .createExecution id workflow input now => discard (Store.createExecution id workflow (.obj input) now)
  | .updateExecution id names patch expected => do
    Failure.of (Patch.checkNames ExecutionPatch.fields names)
    discard (Store.updateExecution id patch expected)
  | .createStep id execution step => discard (Store.createStep id execution step)
  | .updateStep id names patch => do
    Failure.of (Patch.checkNames StepPatch.fields names)
    discard (Store.updateStep id patch)
  | .createWorkflow d now => discard (Store.createWorkflow d now)

/-- What is created gets an id that nothing goes by. -/
def Fresh (s : Store) : Edit → Prop
  | .createExecution id .. => s.execution? id = none
  | .createStep id .. => ∀ r ∈ s.records, r.id ≠ id
  | _ => True

end Edit

theorem not_isMisread_of_checkNames {allowed names : List String} {f : Failure}
    (h : Patch.checkNames allowed names = .error f) : f.isMisread = false := by
  unfold Patch.checkNames at h
  dsimp only at h
  split_ifs at h
  cases h
  rfl

theorem perform_updateExecution (s : Store) (id : String) (names : List String) (p : ExecutionPatch)
    (expected : Option (List RunStatus)) :
    (∃ f, f.isMisread = false ∧ (Edit.updateExecution id names p expected).perform s = (.error f, s)) ∨
      (Edit.updateExecution id names p expected).perform s =
        ((updateExecution id p expected s).1.map fun _ => ⟨⟩, (updateExecution id p expected s).2) := by
  simp only [Edit.perform, Act.bind_apply, Act.of_apply]
  cases hnames : Patch.checkNames ExecutionPatch.fields names with
  | error f => exact .inl ⟨f, not_isMisread_of_checkNames hnames, rfl⟩
  | ok u =>
    rw [Act.andThen_ok, Act.discard_apply]
    exact .inr rfl

theorem perform_updateStep (s : Store) (id : String) (names : List String) (p : StepPatch) :
    (∃ f, f.isMisread = false ∧ (Edit.updateStep id names p).perform s = (.error f, s)) ∨
      (Edit.updateStep id names p).perform s = ((updateStep id p s).1.map fun _ => ⟨⟩, (updateStep id p s).2) := by
  simp only [Edit.perform, Act.bind_apply, Act.of_apply]
  cases hnames : Patch.checkNames StepPatch.fields names with
  | error f => exact .inl ⟨f, not_isMisread_of_checkNames hnames, rfl⟩
  | ok u =>
    rw [Act.andThen_ok, Act.discard_apply]
    exact .inr rfl

/-- The stores that come of edits from an empty one, if they only ever fail in ways that are allowed. -/
inductive Reached (allowed : Failure → Prop) : Store → Prop
  | memory : Reached allowed (.memory {})
  | table : Reached allowed (.table {})
  | edit {s : Store} (h : Reached allowed s) (e : Edit) (fresh : e.Fresh s)
      (fails : ∀ f, (e.perform s).1 = .error f → allowed f) : Reached allowed (e.perform s).2

/-- The runs by their ids, in the order in which they are kept. -/
def runs : Store → Assoc Execution
  | .memory m => m.executions
  | .table t => t.executions.map fun row => (row.id, row.record)

variable {s t : Store}

/-- What holds of a store whatever failed on the way to it. -/
structure Orderly (s : Store) : Prop where
  keyed : s.Keyed
  runs : s.runs.names.Nodup
  kept : ∃ kept, s.Keeps kept

theorem orderly_memory : (Store.memory {}).Orderly where
  keyed := ⟨List.nodup_nil, fun m hm entry he => by cases hm; cases he⟩
  runs := List.nodup_nil
  kept := ⟨[], .inl rfl, List.nodup_nil⟩

theorem orderly_table : (Store.table {}).Orderly where
  keyed := ⟨List.nodup_nil, fun m hm => by cases hm⟩
  runs := List.nodup_nil
  kept := ⟨[], .inr rfl, List.nodup_nil⟩

theorem Revised.place_or_eq {ρ κ α : Type} {key : ρ → κ} {legible : ρ → Prop} {found : Option ρ}
    {place : ρ → Store} {out : Except Failure α × Store} (h : Revised key legible found place s out) :
    out.2 = s ∨ ∃ old new, found = some old ∧ out.2 = place new := by
  cases h with
  | refused | looked | unread => exact .inl rfl
  | wrote h | spoilt h => exact .inr ⟨_, _, h, rfl⟩

theorem names_runs_updateExecution (hs : s.runs.names.Nodup) (id : String) (p : ExecutionPatch)
    (expected : Option (List RunStatus)) : (updateExecution id p expected s).2.runs.names.Nodup := by
  cases s with
  | memory m =>
    rcases (revised_execution_memory m id p expected).place_or_eq with h | ⟨old, new, -, h⟩
    · rwa [h]
    · rw [h]
      exact Assoc.nodup_names_put hs id new
  | table t =>
    rcases (revised_execution_table t id p expected).place_or_eq with h | ⟨old, new, -, h⟩
    · rwa [h]
    · have hsame : (Store.table (t.putExecution new)).runs.names = (Store.table t).runs.names := by
        simp only [Store.runs, Assoc.names, Table.putExecution, List.map_map]
        refine List.map_congr_left fun row _ => ?_
        by_cases hid : row.id = new.id <;> simp [hid]
      rw [h, hsame]
      exact hs

theorem keyed_updateExecution (hs : s.Keyed) (id : String) (p : ExecutionPatch)
    (expected : Option (List RunStatus)) : (updateExecution id p expected s).2.Keyed := by
  cases s with
  | memory m =>
    rcases (revised_execution_memory m id p expected).place_or_eq with h | ⟨old, new, -, h⟩
    · rwa [h]
    · rw [h]
      exact (m.replaced id new).keyed hs
  | table t =>
    rcases (revised_execution_table t id p expected).place_or_eq with h | ⟨old, new, -, h⟩
    · rwa [h]
    · rw [h]
      exact ⟨hs.distinct, fun m hm => by cases hm⟩

theorem runs_updateStep (s : Store) (id : String) (p : StepPatch) : (updateStep id p s).2.runs = s.runs := by
  cases s with
  | memory m =>
    rcases (revised_step_memory m id p).place_or_eq with h | ⟨old, new, -, h⟩ <;> rw [h]
    rfl
  | table t =>
    rcases (revised_step_table t id p).place_or_eq with h | ⟨old, new, -, h⟩ <;> rw [h]
    rfl

theorem runs_createStep (s : Store) (id execution step : String) :
    (createStep id execution step s).2.runs = s.runs := by
  rcases s.createStep_cases id execution step with h | h <;> rw [h]
  cases s <;> rfl

theorem runs_createWorkflow (s : Store) (d : Definition) (now : Time) :
    (createWorkflow d now s).2.runs = s.runs := by
  rcases s.createWorkflow_cases d now with h | h <;> rw [h]
  cases s <;> rfl

theorem names_runs_createExecution (hs : s.runs.names.Nodup) {id : String} (hf : s.execution? id = none)
    (workflow : String) (input : Json) (now : Time) :
    (createExecution id workflow input now s).2.runs.names.Nodup := by
  cases s with
  | memory m => exact Assoc.nodup_names_put hs id _
  | table t =>
    have hfresh : ∀ row ∈ t.executions, row.id ≠ id := by
      simpa [execution?, Table.execution?] using hf
    show ((t.executions ++ [_]).map fun row : ExecutionRow => (row.id, row.record)).map Prod.fst |>.Nodup
    rw [List.map_append, List.map_append, List.nodup_append]
    refine ⟨hs, List.nodup_singleton _, fun a ha b hb => ?_⟩
    simp only [List.map_cons, List.map_nil, List.mem_singleton] at hb
    obtain ⟨entry, hentry, rfl⟩ := List.mem_map.1 ha
    obtain ⟨row, hrow, rfl⟩ := List.mem_map.1 hentry
    exact hb ▸ hfresh row hrow

theorem orderly_perform {e : Edit} (hs : s.Orderly) (hf : e.Fresh s) : (e.perform s).2.Orderly := by
  obtain ⟨kept, hkept⟩ := hs.kept
  cases e with
  | createExecution id workflow input now =>
    obtain ⟨t, ht, hr⟩ := s.created id workflow (.obj input) now hf
    have hshelf := s.shelf_createExecution id workflow (.obj input) now
    have hruns := names_runs_createExecution hs.runs hf workflow (.obj input) now
    rw [Edit.perform, Act.discard_apply]
    rw [ht] at hshelf hruns ⊢
    exact ⟨hr.keyed hs.keyed, hruns, kept, hkept.same hshelf⟩
  | updateExecution id names p expected =>
    rcases perform_updateExecution s id names p expected with ⟨f, -, hout⟩ | hout <;> rw [hout]
    · exact hs
    · exact ⟨keyed_updateExecution hs.keyed id p expected, names_runs_updateExecution hs.runs id p expected, kept,
        hkept.same (s.shelf_updateExecution id p expected)⟩
  | createStep id execution step =>
    have hshelf := s.shelf_createStep id execution step
    have hruns := s.runs_createStep id execution step
    have hmade := s.stepCreated id execution step hs.keyed hf
    rw [Edit.perform, Act.discard_apply]
    generalize createStep id execution step s = out at hshelf hruns hmade ⊢
    cases hmade with
    | refused f => exact hs
    | made added => exact ⟨added.keyed hs.keyed, hruns ▸ hs.runs, kept, hkept.same hshelf⟩
  | updateStep id names p =>
    rcases perform_updateStep s id names p with ⟨f, -, hout⟩ | hout <;> rw [hout]
    · exact hs
    · have hshelf := s.shelf_updateStep id p
      have hruns := s.runs_updateStep id p
      have hmade := s.stepUpdated id p hs.keyed
      generalize updateStep id p s = out at hshelf hruns hmade ⊢
      cases hmade with
      | refused f => exact hs
      | wrote named wrote rewrote => exact ⟨rewrote.keyed hs.keyed, hruns ▸ hs.runs, kept, hkept.same hshelf⟩
  | createWorkflow d now =>
    have hsame := s.createWorkflow_same d now
    have hruns := s.runs_createWorkflow d now
    have hadding := hkept.adding d now
    rw [Edit.perform, Act.discard_apply]
    generalize createWorkflow d now s = out at hsame hruns hadding ⊢
    cases hadding with
    | refused taken => exact hs
    | added keeps => exact ⟨hsame.keyed hs.keyed, hruns ▸ hs.runs, _, keeps⟩

theorem Reached.orderly {allowed : Failure → Prop} (h : Reached allowed s) : s.Orderly := by
  induction h with
  | memory => exact orderly_memory
  | table => exact orderly_table
  | edit _ e fresh _ ih => exact orderly_perform ih fresh

end Store

end Conductor
