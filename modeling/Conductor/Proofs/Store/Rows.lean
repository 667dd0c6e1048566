import Conductor.Proofs.Context
import Conductor.Proofs.Number.Zero
import Conductor.Proofs.World.Trail
import Conductor.Proofs.Workflow.Written

/-! A store of records beside the table of their rows. As long as records can be copied, costs are numbers and
definitions are finite, each operation gives the same on both, and what it leaves is again such a table. -/

namespace Conductor

namespace Assoc

variable {α β : Type}

/-- What an entry stands for in a table, in the order of the entries. -/
def rows (row : α → β) (t : Assoc α) : List β := t.map fun entry => row entry.2

/-- Entries that go by the ids of what they hold, each id once and none that has yet to be given out. -/
structure Filed (id : α → String) (issued : Nat) (t : Assoc α) : Prop where
  keyed : ∀ entry ∈ t, entry.1 = id entry.2
  nodup : t.names.Nodup
  fresh : ∀ n, issued < n → s!"id-{n}" ∉ t.names

variable {id : α → String} {issued : Nat} {t : Assoc α} {row : α → β} {name : String} {old value : α}

theorem rows_eq (row : α → β) (t : Assoc α) : t.rows row = (t.map Prod.snd).map row := (List.map_map ..).symm

theorem rows_append (first second : Assoc α) : rows row (first ++ second) = rows row first ++ rows row second :=
  List.map_append

theorem has_put {other : String} (h : t.has other = true) : (t.put name value).has other = true := by
  rw [has, get?_put]
  split
  · rfl
  · exact h

theorem mem_names_of_get? (h : t.get? name = some old) : name ∈ t.names :=
  List.mem_map.2 ⟨_, mem_of_get?_eq_some h, rfl⟩

theorem Filed.id_of_get? (h : t.Filed id issued) (hget : t.get? name = some old) : id old = name :=
  (h.keyed _ (mem_of_get?_eq_some hget)).symm

theorem mem_put {entry : String × α} (h : entry ∈ t.put name value) : entry = (name, value) ∨ entry ∈ t := by
  induction t with
  | nil => exact .inl (List.mem_singleton.1 h)
  | cons first rest ih =>
    obtain ⟨k, v⟩ := first
    by_cases hk : k = name
    · rw [put, if_pos hk, List.mem_cons] at h
      exact h.imp (fun h => by rw [h, hk]) (List.mem_cons_of_mem _)
    · rw [put, if_neg hk, List.mem_cons] at h
      rcases h with h | h
      · exact .inr (h ▸ List.mem_cons_self ..)
      · exact (ih h).imp_right (List.mem_cons_of_mem _)

theorem Filed.replace (h : t.Filed id issued) (hget : t.get? name = some old) (hid : id value = name) :
    (t.put name value).Filed id issued where
  keyed entry hentry := by
    rcases mem_put hentry with rfl | hentry
    · exact hid.symm
    · exact h.keyed entry hentry
  nodup := nodup_names_put h.nodup name value
  fresh n hn hmem := by
    rcases mem_names_put.1 hmem with hname | hmem
    · exact h.fresh n hn (hname ▸ mem_names_of_get? hget)
    · exact h.fresh n hn hmem

theorem Filed.add (h : t.Filed id issued) (hid : id value = s!"id-{issued + 1}") :
    (t.put s!"id-{issued + 1}" value).Filed id (issued + 1) where
  keyed entry hentry := by
    rcases mem_put hentry with rfl | hentry
    · exact hid.symm
    · exact h.keyed entry hentry
  nodup := nodup_names_put h.nodup _ value
  fresh n hn hmem := by
    rcases mem_names_put.1 hmem with hname | hmem
    · have := World.id_injective hname
      omega
    · exact h.fresh n (by omega) hmem

theorem Filed.later {more : Nat} (h : t.Filed id issued) (hmore : issued ≤ more) : t.Filed id more :=
  ⟨h.keyed, h.nodup, fun n hn => h.fresh n (Nat.lt_of_le_of_lt hmore hn)⟩

theorem find?_rows {key : β → String} (hkeyed : ∀ entry ∈ t, entry.1 = id entry.2) (hrow : ∀ a, key (row a) = id a) :
    (t.rows row).find? (key · = name) = (t.get? name).map row := by
  induction t with
  | nil => rfl
  | cons entry rest ih =>
    obtain ⟨k, v⟩ := entry
    have hk : k = id v := hkeyed _ (List.mem_cons_self ..)
    have hrest := ih fun entry hentry => hkeyed entry (List.mem_cons_of_mem _ hentry)
    rw [rows, List.map_cons, List.find?_cons, get?]
    by_cases hname : k = name
    · simp [hrow, ← hk, hname]
    · simp only [hrow, ← hk, hname, decide_false, if_false]
      exact hrest

theorem Filed.rows_replace (h : t.Filed id issued) (key : β → String) (hrow : ∀ a, key (row a) = id a)
    (hget : t.get? name = some old) (hid : id value = name) :
    (t.put name value).rows row = (t.rows row).map fun old => if key old = key (row value) then row value else old := by
  rw [rows, rows, put_of_get?_eq_some h.nodup hget, List.map_map, List.map_map]
  refine List.map_congr_left fun entry hentry => ?_
  have hk := h.keyed entry hentry
  by_cases hname : entry.1 = name
  · simp [hname, hrow, hid, ← hk]
  · simp [hname, hrow, hid, ← hk]

theorem Filed.rows_add (h : t.Filed id issued) :
    (t.put s!"id-{issued + 1}" value).rows row = t.rows row ++ [row value] := by
  rw [rows, rows, put_of_get?_eq_none (get?_eq_none_of_not_mem (h.fresh _ (Nat.lt_succ_self _))), List.map_append]
  rfl

end Assoc

/-! Records and rows -/

def Execution.row (e : Execution) : ExecutionRow where
  id := e.id
  workflow := e.workflow
  status := e.status
  input := e.input
  output := e.output
  createdAt := e.createdAt
  startedAt := e.startedAt
  completedAt := e.completedAt
  error := e.error
  cost := e.cost

def StepRecord.row (r : StepRecord) : StepRow where
  id := r.id
  execution := r.execution
  step := r.step
  status := r.status
  output := r.output
  error := r.error
  cost := r.cost
  startedAt := r.startedAt
  completedAt := r.completedAt

def StoredWorkflow.row (s : StoredWorkflow) : WorkflowRow := .ofDefinition s.definition s.createdAt

/-- A double that is a number. -/
def Json.isAmount : Json → Bool
  | .num (.real x) => !x.isNaN
  | _ => false

def Execution.isPlain (e : Execution) : Bool := e.copyable && e.cost.isAmount

def StepRecord.isPlain (r : StepRecord) : Bool := r.copyable && r.cost.isAmount

def StoredWorkflow.isPlain (s : StoredWorkflow) : Bool := Json.areFinite (Step.allToJson s.definition.steps)

/-- A run as it is kept beside its records. -/
structure Execution.Regular (e : Execution) : Prop where
  known : e.status.isKnown = true
  bare : e.steps = []
  input : ∃ members, e.input = .obj members
  output : ∃ members, e.output = .obj members

theorem Json.real_of_isAmount {doc : Json} (h : doc.isAmount = true) : ∃ x, doc = .real x ∧ x.isNaN = false := by
  match doc, h with
  | .num (.real x), h => exact ⟨x, rfl, by simpa [isAmount] using h⟩

theorem Execution.Regular.read {e : Execution} (h : e.Regular) (hplain : e.isPlain = true) (steps : List StepRecord) :
    e.row.read steps = .ok { e with steps } := by
  obtain ⟨id, workflow, status, input, output, _, createdAt, startedAt, completedAt, error, cost, copyable⟩ := e
  obtain ⟨hknown, -, ⟨members, rfl⟩, members', rfl⟩ := h
  rw [isPlain, Bool.and_eq_true] at hplain
  obtain ⟨rfl, hcost⟩ := hplain
  obtain ⟨x, rfl, -⟩ := Json.real_of_isAmount hcost
  cases status with
  | other text => cases hknown
  | _ => rfl

theorem StepRecord.read_row {r : StepRecord} (hknown : r.status.isKnown = true) (hplain : r.isPlain = true) :
    r.row.read = .ok r := by
  obtain ⟨id, execution, step, status, output, error, cost, startedAt, completedAt, copyable⟩ := r
  rw [isPlain, Bool.and_eq_true] at hplain
  obtain ⟨rfl, hcost⟩ := hplain
  obtain ⟨x, rfl, -⟩ := Json.real_of_isAmount hcost
  cases status with
  | other text => cases hknown
  | _ => rfl

theorem StoredWorkflow.read_row {s : StoredWorkflow} (hplain : s.isPlain = true) : s.row.read = .ok s := by
  have hfinite : Json.finite (.arr (Step.allToJson s.definition.steps)) = .arr (Step.allToJson s.definition.steps) :=
    Json.finite_of_isFinite hplain
  unfold WorkflowRow.read
  rw [row, WorkflowRow.ofDefinition, hfinite, Step.readAll_allToJson]
  rfl

/-! Patches -/

/-- A patch as the engine writes it. -/
structure ExecutionPatch.Regular (p : ExecutionPatch) : Prop where
  full : p.isEmpty = false
  status : ∀ status, p.status = some status → status.isKnown = true
  output : ∀ snapshot, p.output = some snapshot → ∃ members, snapshot.value = .obj members
  error : ∀ doc, p.error = some doc → ∃ text, doc = .str text
  cost : ∀ doc, p.cost = some doc → ∃ x, doc = .real x ∧ x ≠ -0.0

/-- What sets no more than the status and the times. -/
theorem ExecutionPatch.regular_of_status (status : RunStatus) (h : status.isKnown = true)
    (startedAt completedAt : Option (Option Time)) :
    ({ status := some status, startedAt, completedAt } : ExecutionPatch).Regular where
  full := rfl
  status := by
    rintro _ ⟨⟩
    exact h
  output _ := nofun
  error _ := nofun
  cost _ := nofun

structure StepPatch.Regular (p : StepPatch) : Prop where
  status : ∀ status, p.status = some status → status.isKnown = true
  error : ∀ doc, p.error = some doc → ∃ text, doc = .str text
  cost : ∀ doc, p.cost = some doc → ∃ x, doc = .real x ∧ x ≠ -0.0

theorem ExecutionPatch.Regular.isKnown {p : ExecutionPatch} (h : p.Regular) :
    p.status.all RunStatus.isKnown = true :=
  (Option.all_eq_true _ _).2 h.status

theorem StepPatch.Regular.isKnown {p : StepPatch} (h : p.Regular) : p.status.all StepStatus.isKnown = true :=
  (Option.all_eq_true _ _).2 h.status

theorem Columns.ofFields_regular {status error cost : Option Json} (hstatus : status.all Json.isText = true)
    (herror : ∀ doc, error = some doc → ∃ text, doc = .str text)
    (hcost : ∀ doc, cost = some doc → ∃ x, doc = .real x ∧ x ≠ -0.0) :
    ∃ columns, ofFields status error cost = .ok columns ∧
      (cost.all Json.isAmount = true → columns = ⟨status, error, cost⟩) := by
  have htext : error.all Json.isText = true := (Option.all_eq_true _ _).2 fun doc hdoc => by
    obtain ⟨text, rfl⟩ := herror doc hdoc
    rfl
  obtain ⟨kept, hkept, hamount⟩ : ∃ kept, column costColumn cost = .ok kept ∧
      (cost.all Json.isAmount = true → kept = cost) := by
    cases cost with
    | none => exact ⟨none, rfl, fun _ => rfl⟩
    | some doc =>
      obtain ⟨x, rfl, hx⟩ := hcost doc rfl
      refine ⟨_, rfl, fun hamount => ?_⟩
      obtain ⟨y, hy, hnumber⟩ := Json.real_of_isAmount (show (Json.real x).isAmount = true from hamount)
      cases hy
      rw [hnumber, Number.add_zero hx]
      rfl
  refine ⟨⟨status, error, kept⟩, ?_, fun h => by rw [hamount h]⟩
  unfold ofFields
  rw [column_of_isText hstatus, column_of_isText htext, hkept]
  rfl

/-- The columns of a patch as the engine writes it, which are its fields where its cost is a number. -/
theorem ExecutionPatch.Regular.columns {p : ExecutionPatch} (h : p.Regular) :
    ∃ columns, p.columns = .ok columns ∧
      (p.cost.all Json.isAmount = true → columns = ⟨p.status.map RunStatus.toJson, p.error, p.cost⟩) :=
  Columns.ofFields_regular (RunStatus.isText_of_isKnown h.isKnown) h.error h.cost

theorem StepPatch.Regular.columns {p : StepPatch} (h : p.Regular) :
    ∃ columns, p.columns = .ok columns ∧
      (p.cost.all Json.isAmount = true → columns = ⟨p.status.map StepStatus.toJson, p.error, p.cost⟩) :=
  Columns.ofFields_regular (StepStatus.isText_of_isKnown h.isKnown) h.error h.cost

theorem snapshot_of_kept {output : Option Snapshot} (h : output.all (·.closed.isNone) = true) (doc : Json) :
    (output.map Snapshot.stored).getD doc = (output.map Snapshot.value).getD doc := by
  cases output with
  | none => rfl
  | some snapshot => exact Snapshot.stored_of_closed (by simpa using h)

theorem any_isNull_of_real {cost : Option Json} (h : ∀ doc, cost = some doc → ∃ x, doc = .real x ∧ x ≠ -0.0) :
    cost.any Json.isNull = false := by
  cases cost with
  | none => rfl
  | some doc =>
    obtain ⟨x, rfl, -⟩ := h doc rfl
    rfl

theorem ExecutionPatch.Regular.write {p : ExecutionPatch} {e : Execution} (hp : p.Regular)
    (hplain : (p.apply e).isPlain = true) :
    p.write ⟨p.status.map RunStatus.toJson, p.error, p.cost⟩ e.row = .ok (p.apply e).row := by
  rw [Execution.isPlain, Bool.and_eq_true] at hplain
  have hnull := Json.any_isNull_of_isText (RunStatus.isText_of_isKnown hp.isKnown)
  rw [ExecutionPatch.write, if_neg (ne_true_of_eq_false hnull), if_neg (ne_true_of_eq_false (any_isNull_of_real hp.cost))]
  simp only [Execution.row, snapshot_of_kept hplain.1, RunStatus.map_ofJson hp.isKnown]
  rfl

theorem StepPatch.Regular.write {p : StepPatch} {r : StepRecord} (hp : p.Regular)
    (hplain : (p.apply r).isPlain = true) :
    p.write ⟨p.status.map StepStatus.toJson, p.error, p.cost⟩ r.row = .ok (p.apply r).row := by
  rw [StepRecord.isPlain, Bool.and_eq_true] at hplain
  have hnull := Json.any_isNull_of_isText (StepStatus.isText_of_isKnown hp.isKnown)
  rw [StepPatch.write, if_neg (ne_true_of_eq_false hnull), if_neg (ne_true_of_eq_false (any_isNull_of_real hp.cost))]
  simp only [StepRecord.row, snapshot_of_kept hplain.1, StepStatus.map_ofJson hp.isKnown]
  rfl

theorem all_of_getD {cost : Option Json} {doc : Json} (h : (cost.getD doc).isAmount = true) :
    cost.all Json.isAmount = true := by
  cases cost with
  | none => rfl
  | some cost => exact h

theorem Execution.Regular.apply {p : ExecutionPatch} {e : Execution} (h : e.Regular) (hp : p.Regular) :
    (p.apply e).Regular where
  known := by
    show (p.status.getD e.status).isKnown = true
    cases hstatus : p.status with
    | none => exact h.known
    | some status => exact hp.status _ hstatus
  bare := h.bare
  input := h.input
  output := by
    show ∃ members, (p.output.map Snapshot.value).getD e.output = .obj members
    cases houtput : p.output with
    | none => exact h.output
    | some snapshot => exact hp.output _ houtput

theorem StepPatch.Regular.known {p : StepPatch} {r : StepRecord} (hp : p.Regular) (h : r.status.isKnown = true) :
    (p.apply r).status.isKnown = true := by
  show (p.status.getD r.status).isKnown = true
  cases hstatus : p.status with
  | none => exact h
  | some status => exact hp.status _ hstatus

end Conductor
