import Conductor.Proofs.Except
import Conductor.Proofs.Store.Operations

/-! What is read of a run: what the store holds of it, with the records of its steps. Costs are read as
doubles, and a cost that is one is read as it is. -/

namespace Conductor

theorem Reading.toExcept_eq_ok {α : Type} {x : Reading α} {a : α} : x.toExcept = .ok a ↔ x = .done a := by
  cases x with
  | done v => exact ⟨fun h => congrArg Reading.done (Except.ok.inj h), fun h => by cases h; rfl⟩
  | refused problems => exact ⟨nofun, nofun⟩

theorem Reading.checked_eq_done {α : Type} {c : Bool} {v read : α} {problems : List Problem} :
    (if c then done v else refused problems) = .done read ↔ read = v ∧ c = true := by
  cases c with
  | true => exact ⟨fun h => ⟨(Reading.done.inj h).symm, rfl⟩, fun h => by rw [h.1]; rfl⟩
  | false => exact ⟨nofun, fun h => by cases h.2⟩

theorem objectColumn_eq_done {name : String} {doc read : Json} :
    objectColumn name doc = .done read ↔ read = doc ∧ ∃ members, doc = .obj members := by
  rw [objectColumn, Reading.below_eq_done, Reading.map_eq_done]
  constructor
  · rintro ⟨members, hm, rfl⟩
    cases doc <;> cases hm
    exact ⟨rfl, _, rfl⟩
  · rintro ⟨rfl, members, rfl⟩
    exact ⟨members, rfl, rfl⟩

theorem Reading.real_eq {x y : Float} (h : Reading.real (.real x) = .done y) : y = x := (Reading.done.inj h).symm

/-- A record as it is read. -/
def StepRecord.ShownAs (r shown : StepRecord) : Prop :=
  shown = { r with cost := shown.cost } ∧ ∀ x, r.cost = .real x → shown.cost = .real x

/-- A run as it is read, but for its records. -/
def Execution.ShownAs (e shown : Execution) : Prop :=
  shown = { e with steps := shown.steps, cost := shown.cost } ∧ ∀ x, e.cost = .real x → shown.cost = .real x

theorem StepRow.shownAs_of_read {row : StepRow} {r : StepRecord} (h : row.read = .ok r) :
    row.record.ShownAs r := by
  have hread := Reading.toExcept_eq_ok.1 (mapError_eq_ok h)
  simp only [reading, Reading.seq_eq_done, Reading.map_eq_done, Reading.below_eq_done, Reading.checked_eq_done] at hread
  obtain ⟨_, cost, ⟨_, ⟨rfl, -⟩, rfl⟩, hcost, rfl⟩ := hread
  refine ⟨rfl, fun x hx => ?_⟩
  rw [show row.cost = .real x from hx] at hcost
  rw [Reading.real_eq hcost]

/-- A row that can be read is in order in every column that is checked. -/
theorem ExecutionRow.read_eq_ok {row : ExecutionRow} {steps : List StepRecord} {e : Execution} :
    row.read steps = .ok e ↔ row.status.isKnown = true ∧ (∃ members, row.input = .obj members) ∧
      (∃ members, row.output = .obj members) ∧
      ∃ cost, Reading.real row.cost = .done cost ∧ e = { row.record with steps, cost := .real cost } := by
  constructor
  · intro h
    have hread := Reading.toExcept_eq_ok.1 (mapError_eq_ok h)
    simp only [reading, Reading.seq_eq_done, Reading.map_eq_done, Reading.below_eq_done, Reading.checked_eq_done,
      objectColumn_eq_done] at hread
    obtain ⟨_, cost, ⟨_, _, ⟨_, _, ⟨_, ⟨rfl, hknown⟩, rfl⟩, ⟨rfl, hinput⟩, rfl⟩, ⟨rfl, houtput⟩, rfl⟩, hcost, rfl⟩ := hread
    exact ⟨hknown, hinput, houtput, cost, hcost, rfl⟩
  · rintro ⟨hknown, hinput, houtput, cost, hcost, rfl⟩
    have hread : row.reading steps = .done { row.record with steps, cost := .real cost } := by
      simp only [reading, Reading.seq_eq_done, Reading.map_eq_done, Reading.below_eq_done, Reading.checked_eq_done,
        objectColumn_eq_done]
      exact ⟨_, cost, ⟨_, _, ⟨_, _, ⟨_, ⟨rfl, hknown⟩, rfl⟩, ⟨rfl, hinput⟩, rfl⟩, ⟨rfl, houtput⟩, rfl⟩, hcost, rfl⟩
    rw [read, hread]
    rfl

theorem ExecutionRow.shownAs_of_read {row : ExecutionRow} {steps : List StepRecord} {e : Execution}
    (h : row.read steps = .ok e) : row.record.ShownAs e ∧ e.steps = steps := by
  obtain ⟨-, -, -, cost, hcost, rfl⟩ := read_eq_ok.1 h
  refine ⟨⟨rfl, fun x hx => ?_⟩, rfl⟩
  rw [show row.cost = .real x from hx] at hcost
  rw [Reading.real_eq hcost]

namespace Store

/-- What is read of a run under some id. It can be copied, as everything that is read. -/
structure Shows (s : Store) (id : String) (e : Execution) : Prop where
  execution : ∃ x, s.execution? id = some x ∧ x.ShownAs e
  copyable : e.copyable = true
  steps : List.Forall₂ StepRecord.ShownAs (s.recordsOf id) e.steps

theorem shows_of_findExecution {s : Store} {id : String} {e : Execution}
    (h : (findExecution id s).1 = .ok (some e)) : s.Shows id e := by
  cases s with
  | memory m =>
    rw [findExecution, run_memory, Memory.findExecution_eq] at h
    obtain ⟨x, hx, hcopy, rfl⟩ := Memory.lookup_eq_some h
    exact ⟨⟨x, hx, rfl, fun _ h => h⟩, hcopy, List.forall₂_same.2 fun r _ => ⟨rfl, fun _ h => h⟩⟩
  | table t =>
    rw [findExecution, run_table, Table.findExecution_eq] at h
    obtain ⟨row, steps, hrow, hsteps, hread⟩ := Table.lookup_eq_some h
    obtain ⟨hshown, rfl⟩ := ExecutionRow.shownAs_of_read hread
    have hrecords : recordsOf (.table t) id = (t.steps.filter (·.execution = id)).map StepRow.record := by
      rw [recordsOf, records, List.filter_map]
      rfl
    refine ⟨⟨row.record, by rw [execution?, hrow]; rfl, hshown⟩, by rw [hshown.1]; rfl, ?_⟩
    rw [hrecords, List.forall₂_map_left_iff]
    exact (forall₂_of_mapM hsteps).imp fun row r hr => StepRow.shownAs_of_read hr

theorem execution?_of_findExecution {s : Store} {id : String} (h : (findExecution id s).1 = .ok none) :
    s.execution? id = none := by
  cases s with
  | memory m =>
    rw [findExecution, run_memory, Memory.findExecution_eq] at h
    exact Memory.lookup_eq_none.1 h
  | table t =>
    rw [findExecution, run_table, Table.findExecution_eq] at h
    rw [execution?, Table.lookup_eq_none.1 h]
    rfl

end Store

end Conductor
