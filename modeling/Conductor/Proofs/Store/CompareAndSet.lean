import Conductor.Proofs.Store.Look
import Conductor.Proofs.Store.Rejection

/-! An update of a run compares and sets: it writes as long as the status that is stored is an expected one, and
then what it was asked to write and nothing else. A row without fields to write is not asked its status. -/

namespace Conductor

/-- A double as a column keeps it, which knows one zero only. -/
def Json.unsigned : Json → Json
  | .num (.real x) => .real (x + 0.0)
  | doc => doc

namespace ExecutionPatch

/-- A patch whose values are of the kinds that the fields of a run have. -/
structure Valid (p : ExecutionPatch) : Prop where
  status : ∀ status, p.status = some status → status.isKnown = true
  output : ∀ snapshot, p.output = some snapshot → snapshot.closed = none ∧ ∃ members, snapshot.value = .obj members
  error : ∀ doc, p.error = some doc → doc = .null ∨ ∃ text, doc = .str text
  cost : ∀ doc, p.cost = some doc → doc.isAmount = true

/-- What a valid patch makes of a row. -/
def written (p : ExecutionPatch) (row : ExecutionRow) : ExecutionRow :=
  { row with
    status := p.status.getD row.status
    output := (p.output.map Snapshot.stored).getD row.output
    startedAt := p.startedAt.getD row.startedAt
    completedAt := p.completedAt.getD row.completedAt
    error := p.error.getD row.error
    cost := (p.cost.map Json.unsigned).getD row.cost }

variable {p : ExecutionPatch}

theorem Valid.copyable (h : p.Valid) : p.keepsCopyable = true := by
  unfold keepsCopyable
  cases ho : p.output with
  | none => rfl
  | some snapshot => simp [(h.output snapshot ho).1]

theorem Valid.isKnown (h : p.Valid) : p.status.all RunStatus.isKnown = true :=
  (Option.all_eq_true _ _).2 h.status

theorem Valid.columns (h : p.Valid) :
    p.columns = .ok ⟨p.status.map RunStatus.toJson, p.error, p.cost.map Json.unsigned⟩ := by
  have herror : Columns.column textColumn p.error = .ok p.error := by
    cases he : p.error with
    | none => rfl
    | some doc => rcases h.error doc he with rfl | ⟨text, rfl⟩ <;> rfl
  have hcost : Columns.column costColumn p.cost = .ok (p.cost.map Json.unsigned) := by
    cases hc : p.cost with
    | none => rfl
    | some doc =>
      obtain ⟨x, rfl, hx⟩ := Json.real_of_isAmount (h.cost doc hc)
      have hcolumn : costColumn (.real x) = .ok (.real (x + 0.0)) := by
        show Except.ok (if x.isNaN then Json.null else .real (x + 0.0)) = _
        rw [hx]
        rfl
      rw [Columns.column, hcolumn]
      rfl
  unfold ExecutionPatch.columns Columns.ofFields
  rw [Columns.column_of_isText (RunStatus.isText_of_isKnown h.isKnown), herror, hcost]
  rfl

theorem Valid.write (h : p.Valid) (row : ExecutionRow) :
    p.write ⟨p.status.map RunStatus.toJson, p.error, p.cost.map Json.unsigned⟩ row = .ok (p.written row) := by
  have hnull := Json.any_isNull_of_isText (RunStatus.isText_of_isKnown h.isKnown)
  have hcost : (p.cost.map Json.unsigned).any Json.isNull = false := by
    cases hc : p.cost with
    | none => rfl
    | some doc =>
      obtain ⟨x, rfl, -⟩ := Json.real_of_isAmount (h.cost doc hc)
      rfl
  rw [ExecutionPatch.write, if_neg (ne_true_of_eq_false hnull), if_neg (ne_true_of_eq_false hcost)]
  simp only [RunStatus.map_ofJson h.isKnown, written]

end ExecutionPatch

namespace Store

/-- A run as it is read, but for its records. -/
def shown? : Store → String → Option (Except Failure Execution)
  | .memory m, id => (m.executions.get? id).map fun e => if e.copyable then .ok e else .error .notCopyable
  | .table t, id => (t.execution? id).map (·.read [])

def isTable : Store → Bool
  | .memory _ => false
  | .table _ => true

variable {p : ExecutionPatch}

theorem Legible.shown {s : Store} (h : s.Legible) {id : String} {e : Execution} (he : s.execution? id = some e) :
    ∃ x, s.shown? id = some (.ok x) := by
  cases s with
  | memory m =>
    have hfound : m.executions.get? id = some e := he
    exact ⟨e, by simp [shown?, hfound, h.execution_memory hfound]⟩
  | table t =>
    obtain ⟨row, hfound, -⟩ := Option.map_eq_some_iff.1 he
    obtain ⟨x, hx⟩ := h.execution_table hfound
    exact ⟨x, by simp [shown?, hfound, hx]⟩

theorem updateExecution_memory (hp : p.Valid) (m : Memory) (id : String) (expected : Option (List RunStatus)) :
    updateExecution id p expected (.memory m) = match m.executions.get? id with
      | none => (.error (.noExecution id), .memory m)
      | some e =>
        if expected.all (e.status ∈ ·) then
          if e.copyable then (.ok (some (p.apply e)), placeExecution m id (p.apply e))
          else (.error .notCopyable, .memory m)
        else (.ok none, .memory m) := by
  rw [updateExecution, run_memory, Memory.updateExecution_eq]
  cases hfound : m.executions.get? id with
  | none => rfl
  | some e =>
    dsimp only
    rw [if_pos (show (p.apply e).copyable = true from hp.copyable)]
    split_ifs <;> rfl

theorem updateExecution_table (hp : p.Valid) (t : Table) (id : String) (expected : Option (List RunStatus)) :
    updateExecution id p expected (.table t) = match t.execution? id with
      | none => (.error (.noExecution id), .table t)
      | some row =>
        if p.isEmpty then ((row.read []).map some, .table t)
        else if expected.all (row.status ∈ ·) then
          (((p.written row).read []).map some, .table (t.putExecution (p.written row)))
        else (.ok none, .table t) := by
  rw [updateExecution, run_table, Table.updateExecution_eq, hp.columns]
  cases t.execution? id with
  | none => rfl
  | some row =>
    dsimp only
    rw [hp.write row]
    split_ifs <;> rfl

/-- What is written to one run: its place, all other runs, all records and all workflows stay as they are. -/
structure Sets (s : Store) (id : String) (x : Execution) (t : Store) : Prop where
  shown : t.shown? id = some (.ok x)
  names : t.runs.names = s.runs.names
  others : ∀ other, other ≠ id → t.execution? other = s.execution? other
  records : t.records = s.records
  shelf : t.shelf = s.shelf

theorem Sets.refl {s : Store} {id : String} {x : Execution} (h : s.shown? id = some (.ok x)) : s.Sets id x s :=
  ⟨h, rfl, fun _ _ => rfl, rfl, rfl⟩

theorem sets_placeExecution {m : Memory} {id : String} {old e : Execution} (hold : m.executions.get? id = some old)
    (he : e.copyable = true) : (Store.memory m).Sets id e (placeExecution m id e) where
  shown := by
    show (Assoc.get? (m.executions.put id e) id).map _ = _
    rw [Assoc.get?_put, if_pos rfl, Option.map_some, if_pos he]
  names := Assoc.names_put_of_mem (Assoc.mem_names_of_get? hold) e
  others other hne := (Assoc.get?_put ..).trans (if_neg hne.symm)
  records := rfl
  shelf := rfl

theorem sets_putExecution {t : Table} {old row : ExecutionRow} (hold : t.execution? row.id = some old) {x : Execution}
    (hx : row.read [] = .ok x) : (Store.table t).Sets row.id x (.table (t.putExecution row)) where
  shown := by
    show ((t.putExecution row).execution? row.id).map _ = _
    rw [Table.execution?_putExecution hold, if_pos rfl, Option.map_some, hx]
  names := by
    simp only [runs, Assoc.names, Table.putExecution, List.map_map]
    refine List.map_congr_left fun other _ => ?_
    by_cases hid : other.id = row.id <;> simp [hid]
  others other hne := by
    rw [execution?, execution?, Table.execution?_putExecution hold, if_neg hne]
  records := rfl
  shelf := rfl

/-- What is shown of a run once a patch is written: the fields of the patch and nothing else are replaced. A
column has no negative zero. -/
structure Patched (p : ExecutionPatch) (x x' : Execution) : Prop where
  fields : x' = { p.apply x with cost := x'.cost }
  cost : p.cost = none → x'.cost = x.cost
  amount : ∀ c, p.cost = some (.real c) → x'.cost = .real c ∨ c = -0.0 ∧ x'.cost = .real 0.0

theorem patched_apply (p : ExecutionPatch) (x : Execution) : Patched p x (p.apply x) where
  fields := rfl
  cost hc := by simp [ExecutionPatch.apply, hc]
  amount c hc := .inl (by simp [ExecutionPatch.apply, hc])

theorem Patched.of_isEmpty (hp : p.isEmpty = true) {x : Execution} (hx : x.copyable = true) : Patched p x x := by
  have hsame : p.apply x = x := by
    obtain ⟨status, output, startedAt, completedAt, error, cost⟩ := p
    simp only [ExecutionPatch.isEmpty, Bool.and_eq_true, Option.isNone_iff_eq_none] at hp
    obtain ⟨⟨⟨⟨⟨rfl, rfl⟩, rfl⟩, rfl⟩, rfl⟩, rfl⟩ := hp
    obtain ⟨id, workflow, status, input, output, steps, createdAt, startedAt, completedAt, error, cost, copyable⟩ := x
    cases hx
    rfl
  have h := patched_apply p x
  rwa [hsame] at h

theorem read_written (hp : p.Valid) {row : ExecutionRow} {x : Execution} (hx : row.read [] = .ok x) :
    ∃ x', (p.written row).read [] = .ok x' ∧ Patched p x x' := by
  obtain ⟨hknown, hinput, houtput, cost, hcost, rfl⟩ := ExecutionRow.read_eq_ok.1 hx
  have hstatus : (p.written row).status.isKnown = true := by
    show (p.status.getD row.status).isKnown = true
    cases hs : p.status with
    | none => exact hknown
    | some status => exact hp.status status hs
  have hstored : (p.written row).output = (p.output.map Snapshot.value).getD row.output :=
    snapshot_of_kept hp.copyable _
  have hobject : ∃ members, (p.written row).output = .obj members := by
    rw [hstored]
    cases ho : p.output with
    | none => exact houtput
    | some snapshot => exact (hp.output snapshot ho).2
  have hread {cost' : Float} (h : Reading.real (p.written row).cost = .done cost') :
      (p.written row).read [] = .ok { (p.written row).record with cost := .real cost' } :=
    ExecutionRow.read_eq_ok.2 ⟨hstatus, hinput, hobject, cost', h, rfl⟩
  have hfields (cost' : Float) : ({ (p.written row).record with cost := .real cost' } : Execution) =
      { p.apply { row.record with cost := .real cost } with cost := .real cost' } := by
    have hkeeps := hp.copyable
    simp only [ExecutionRow.record, ExecutionPatch.apply, hstored, hkeeps]
    rfl
  cases hc : p.cost with
  | none =>
    have hkept : Reading.real (p.written row).cost = .done cost := by
      rw [ExecutionPatch.written, hc]
      exact hcost
    exact ⟨_, hread hkept, hfields cost, fun _ => rfl, fun c h => by rw [hc] at h; cases h⟩
  | some doc =>
    obtain ⟨amount, rfl, -⟩ := Json.real_of_isAmount (hp.cost doc hc)
    have hset : Reading.real (p.written row).cost = .done (amount + 0.0) := by
      rw [ExecutionPatch.written, hc]
      rfl
    refine ⟨_, hread hset, hfields _, (fun h => by rw [hc] at h; cases h), fun c h => ?_⟩
    rw [hc] at h
    cases h
    by_cases hzero : amount = -0.0
    · exact .inr ⟨hzero, by rw [hzero]; rfl⟩
    · exact .inl (by rw [Number.add_zero hzero])

variable {s : Store} {id : String} {e x : Execution} {statuses : List RunStatus}

/-! The ways in which an update can end -/

theorem updateExecution_unknown (hp : p.Valid) (expected : Option (List RunStatus)) (h : s.execution? id = none) :
    updateExecution id p expected s = (.error (.noExecution id), s) := by
  cases s with
  | memory m => rw [updateExecution_memory hp, show m.executions.get? id = none from h]
  | table t => rw [updateExecution_table hp, show t.execution? id = none from Option.map_eq_none_iff.1 h]

theorem updateExecution_unguarded (hp : p.Valid) (he : s.execution? id = some e) (hin : e.status ∈ statuses) :
    updateExecution id p none s = updateExecution id p (some statuses) s := by
  cases s with
  | memory m =>
    have hfound : m.executions.get? id = some e := he
    rw [updateExecution_memory hp, updateExecution_memory hp, hfound]
    simp [hin]
  | table t =>
    obtain ⟨row, hfound, rfl⟩ := Option.map_eq_some_iff.1 he
    have hin' : row.status ∈ statuses := hin
    rw [updateExecution_table hp, updateExecution_table hp, hfound]
    simp [hin']

theorem updateExecution_passed (hp : p.Valid) (he : s.execution? id = some e) (hout : e.status ∉ statuses)
    (hasks : s.isTable = false ∨ p.isEmpty = false) : updateExecution id p (some statuses) s = (.ok none, s) := by
  cases s with
  | memory m =>
    have hfound : m.executions.get? id = some e := he
    rw [updateExecution_memory hp, hfound]
    simp [hout]
  | table t =>
    obtain ⟨row, hfound, rfl⟩ := Option.map_eq_some_iff.1 he
    have hout' : row.status ∉ statuses := hout
    have hfull : p.isEmpty = false := hasks.resolve_left (by simp [isTable])
    rw [updateExecution_table hp, hfound]
    simp [hout', hfull]

theorem updateExecution_unasked {shown : Except Failure Execution} (hx : s.shown? id = some shown)
    (htable : s.isTable = true) (hempty : p.isEmpty = true) (expected : Option (List RunStatus)) :
    updateExecution id p expected s = (shown.map some, s) := by
  cases s with
  | memory m => cases htable
  | table t =>
    obtain ⟨row, hfound, rfl⟩ := Option.map_eq_some_iff.1 hx
    rw [updateExecution_of_isEmpty t id hempty, hfound]

theorem updateExecution_sets (hp : p.Valid) {expected : Option (List RunStatus)} (he : s.execution? id = some e)
    (hx : s.shown? id = some (.ok x)) (hasked : expected.all (e.status ∈ ·) = true) :
    ∃ x' t, updateExecution id p expected s = (.ok (some x'), t) ∧ Patched p x x' ∧ s.Sets id x' t := by
  cases s with
  | memory m =>
    have hfound : m.executions.get? id = some e := he
    obtain ⟨hcopy, rfl⟩ : e.copyable = true ∧ e = x := by
      rw [shown?, hfound, Option.map_some] at hx
      cases hcopy : e.copyable with
      | false => simp [hcopy] at hx
      | true => exact ⟨rfl, by simpa [hcopy] using hx⟩
    refine ⟨p.apply e, placeExecution m id (p.apply e), ?_, patched_apply p e,
      sets_placeExecution hfound hp.copyable⟩
    rw [updateExecution_memory hp, hfound]
    simp only [hasked, hcopy, if_true]
  | table t =>
    obtain ⟨row, hfound, rfl⟩ := Option.map_eq_some_iff.1 he
    have hid : row.id = id := by simpa using List.find?_some hfound
    have hread : row.read [] = .ok x := by simpa [shown?, hfound] using hx
    by_cases hempty : p.isEmpty = true
    · have hcopy : x.copyable = true := by
        obtain ⟨-, -, -, cost, -, rfl⟩ := ExecutionRow.read_eq_ok.1 hread
        rfl
      exact ⟨x, .table t, updateExecution_unasked hx rfl hempty expected, .of_isEmpty hempty hcopy, .refl hx⟩
    · obtain ⟨x', hwritten, hpatched⟩ := read_written hp hread
      have hasked' : expected.all (row.status ∈ ·) = true := hasked
      refine ⟨x', .table (t.putExecution (p.written row)), ?_, hpatched, ?_⟩
      · rw [updateExecution_table hp, hfound]
        simp only [hempty, hasked', hwritten]
        rfl
      · have hfound' : t.execution? (p.written row).id = some row := (congrArg t.execution? hid).trans hfound
        exact (show (p.written row).id = id from hid) ▸ sets_putExecution hfound' hwritten

/-- An update of a run with values of the right kinds. Where no run goes by the id it fails, and where the status
of the run is not expected it gives nothing; either way the store stays as it was. Where the status is expected, a
run that can be read, as any can unless an update has failed to read back what it wrote, is given back and is
stored with the fields of the patch replaced and nothing else. No expectation is the same as one that holds of the
run. The one update that asks for no status is that of a row without any fields: it gives the run as it is. -/
theorem updates_compare_and_set {s : Store} (hs : Reached (fun _ => True) s) (hp : p.Valid) (id : String)
    (expected : Option (List RunStatus)) :
    s.runs.names.Nodup ∧
    (s.execution? id = none → updateExecution id p expected s = (.error (.noExecution id), s)) ∧
    ∀ e, s.execution? id = some e →
      (Reached (·.isMisread = false) s → ∃ x, s.shown? id = some (.ok x)) ∧
      (∀ statuses, e.status ∈ statuses →
        updateExecution id p none s = updateExecution id p (some statuses) s) ∧
      (∀ statuses, e.status ∉ statuses → s.isTable = false ∨ p.isEmpty = false →
        updateExecution id p (some statuses) s = (.ok none, s)) ∧
      (∀ shown, s.shown? id = some shown → s.isTable = true → p.isEmpty = true →
        updateExecution id p expected s = (shown.map some, s)) ∧
      ∀ x, s.shown? id = some (.ok x) → (∀ statuses, expected = some statuses → e.status ∈ statuses) →
        ∃ x' t, updateExecution id p expected s = (.ok (some x'), t) ∧ Patched p x x' ∧ s.Sets id x' t := by
  refine ⟨hs.orderly.runs, updateExecution_unknown hp expected, fun e he => ⟨fun h => h.legible.shown he,
    fun statuses => updateExecution_unguarded hp he, fun statuses => updateExecution_passed hp he,
    fun shown hshown htable hempty => updateExecution_unasked hshown htable hempty expected, fun x hx hin => ?_⟩⟩
  refine updateExecution_sets hp he hx ?_
  cases expected with
  | none => rfl
  | some statuses => simpa using hin statuses rfl

/-- A run that is pending: it is set to running where that is expected, and a row that is handed no fields is given
back although another status is expected. -/
theorem updates_compare_and_set_of_pending :
    let made : Edit := .createExecution "id-1" "w" [("q", .str "why")] 0
    let s := (made.perform (.table {})).2
    let start : ExecutionPatch := { status := some .running, cost := some (.real 0.5) }
    Reached (fun _ => True) s ∧ start.Valid ∧ ({} : ExecutionPatch).Valid ∧
      updateExecution "id-2" start none s = (.error (.noExecution "id-2"), s) ∧
      updateExecution "id-1" start (some [.running]) s = (.ok none, s) ∧
      (∃ x x' t, updateExecution "id-1" start (some [.pending]) s = (.ok (some x'), t) ∧ x.status = .pending ∧
        Patched start x x' ∧ s.Sets "id-1" x' t) ∧
      ∃ x, updateExecution "id-1" {} (some [.running]) s = (.ok (some x), s) := by
  intro made s start
  have hs : Reached (fun _ => True) s := .edit .table made rfl fun _ _ => trivial
  have hstart : start.Valid := by
    refine ⟨?_, nofun, nofun, ?_⟩
    · rintro _ ⟨⟩
      rfl
    · rintro _ ⟨⟩
      decide +kernel
  have hempty : ({} : ExecutionPatch).Valid := ⟨nofun, nofun, nofun, nofun⟩
  obtain ⟨-, hunknown, -⟩ := updates_compare_and_set hs hstart "id-2" none
  obtain ⟨-, -, hknown⟩ := updates_compare_and_set hs hstart "id-1" (some [.pending])
  obtain ⟨-, -, hpassed, -, hset⟩ := hknown _ rfl
  obtain ⟨-, -, hlook⟩ := updates_compare_and_set hs hempty "id-1" (some [.running])
  refine ⟨hs, hstart, hempty, hunknown rfl, hpassed [.running] (by decide) (.inr rfl), ?_, ?_⟩
  · obtain ⟨x', t, hout, hpatched, hsets⟩ := hset _ rfl (by rintro _ ⟨⟩; decide)
    exact ⟨_, x', t, hout, rfl, hpatched, hsets⟩
  · exact ⟨_, (hlook _ rfl).2.2.2.1 _ rfl rfl rfl⟩

end Store

end Conductor
