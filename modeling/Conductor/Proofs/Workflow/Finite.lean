import Conductor.Proofs.Store.Rows

/-! What becomes of a definition in a row: it loses the doubles that are not finite, and nothing else. A definition
that is read out of a finite document has none to lose. -/

namespace Conductor

namespace Json

theorem areFinite_map {α : Type} {write : α → Json} (h : ∀ a, (write a).isFinite = true) (items : List α) :
    areFinite (items.map write) = true := by
  induction items with
  | nil => rfl
  | cons first rest ih => rw [List.map_cons, areFinite, h, ih, Bool.true_and]

theorem isFinite_optStr (s : Option String) : (optStr s).isFinite = true := by
  cases s <;> rfl

theorem isFinite_of_get? {members : Members} {name : String} {doc : Json} (h : haveFinite members = true)
    (hget : Assoc.get? members name = some doc) : doc.isFinite = true := by
  induction members with
  | nil => cases hget
  | cons entry rest ih =>
    obtain ⟨k, first⟩ := entry
    rw [haveFinite, Bool.and_eq_true] at h
    by_cases hk : k = name
    · rw [Assoc.get?, if_pos hk] at hget
      cases hget
      exact h.1
    · rw [Assoc.get?, if_neg hk] at hget
      exact ih h.2 hget

end Json

namespace Step

mutual

/-- A step without the doubles that are not finite. -/
def finite : Step → Step
  | agent id name operation input key => agent id name operation (Json.finiteMembers input) key
  | condition id test whenTrue whenFalse => condition id test (finiteAll whenTrue) (finiteAll whenFalse)
  | parallel id branches => parallel id (finiteAll branches)
  | aggregate id sources combine key => aggregate id sources combine key
  | transform id fields key => transform id (Json.finiteMembers fields) key
  | validate id rules => validate id rules

def finiteAll : List Step → List Step
  | [] => []
  | step :: rest => step.finite :: finiteAll rest

end

mutual

theorem finite_toJson (step : Step) : step.toJson.finite = step.finite.toJson := by
  cases step with
  | agent id name operation input key =>
    have hkey := Json.finite_of_isFinite (Json.isFinite_optStr key)
    simp [toJson, finite, Json.finite, Json.finiteMembers, hkey]
  | condition id test whenTrue whenFalse =>
    simp [toJson, finite, Json.finite, Json.finiteMembers, finiteItems_allToJson whenTrue,
      finiteItems_allToJson whenFalse]
  | parallel id branches =>
    simp [toJson, finite, Json.finite, Json.finiteMembers, finiteItems_allToJson branches]
  | aggregate id sources combine key =>
    have hkey := Json.finite_of_isFinite (Json.isFinite_optStr key)
    have hsources := Json.finiteItems_of_areFinite (@Json.areFinite_map _ Json.str (fun _ => rfl) sources)
    simp [toJson, finite, Json.finite, Json.finiteMembers, hkey, hsources]
  | transform id fields key =>
    have hkey := Json.finite_of_isFinite (Json.isFinite_optStr key)
    simp [toJson, finite, Json.finite, Json.finiteMembers, hkey]
  | validate id rules =>
    have hrules := Json.finiteItems_of_areFinite (@Json.areFinite_map _ Rule.toJson (fun _ => rfl) rules)
    simp [toJson, finite, Json.finite, Json.finiteMembers, hrules]

theorem finiteItems_allToJson (steps : List Step) :
    Json.finiteItems (allToJson steps) = allToJson (finiteAll steps) := by
  cases steps with
  | nil => rfl
  | cons step rest => rw [allToJson, Json.finiteItems, finite_toJson step, finiteItems_allToJson rest, finiteAll, allToJson]

end

end Step

def Definition.finite (d : Definition) : Definition := { d with steps := Step.finiteAll d.steps }

/-- Every row that is made of a definition can be read, whatever the definition. -/
theorem WorkflowRow.read_ofDefinition (d : Definition) (now : Time) : (ofDefinition d now).read = .ok ⟨d.finite, now⟩ := by
  unfold read
  rw [ofDefinition, Json.finite, Step.finiteItems_allToJson, Step.readAll_allToJson]
  rfl

theorem Definition.areFinite_steps {d : Definition} (h : d.toJson.isFinite = true) :
    Json.areFinite (Step.allToJson d.steps) = true := by
  simp only [toJson, Json.isFinite, Json.haveFinite, Bool.true_and, Bool.and_true, Bool.and_eq_true] at h
  exact h.2

theorem Definition.finite_of_isFinite {d : Definition} (h : d.toJson.isFinite = true) : d.finite = d := by
  have hplain : (⟨d, 0⟩ : StoredWorkflow).row.read = .ok ⟨d, 0⟩ := StoredWorkflow.read_row (areFinite_steps h)
  have hread : (⟨d, 0⟩ : StoredWorkflow).row.read = .ok ⟨d.finite, 0⟩ := WorkflowRow.read_ofDefinition d 0
  rw [hread] at hplain
  exact congrArg StoredWorkflow.definition (Except.ok.inj hplain)

/-! What is read out of a finite document -/

namespace Reading

variable {α β : Type}

theorem get?_of_find {table : Assoc β} {names : List String} {name : String} {value : β}
    (h : find table names = some (name, value)) : Assoc.get? table name = some value := by
  obtain ⟨other, -, hother⟩ := List.exists_of_findSome?_eq_some h
  obtain ⟨found, hfound, he⟩ := Option.map_eq_some_iff.1 hother
  cases he
  exact hfound

/-- An optional field has its default, or was read out of a value of the table. -/
theorem of_optional {table : Assoc β} {names : List String} {read : β → Reading α} {default a : α} {P : α → Prop}
    (h : optional table names read default = done a) (hdefault : P default)
    (hread : ∀ name value, Assoc.get? table name = some value → read value = done a → P a) : P a := by
  rw [optional, field] at h
  split at h
  · next name value hfind => exact hread name value (get?_of_find hfind) (below_eq_done.1 h)
  · cases h
    exact hdefault

end Reading

open Reading

namespace Step

theorem haveFinite_of_object {members input : Members} {name : String} (h : Json.haveFinite members = true)
    (hread : Reading.optional members [name] object [] = done input) : Json.haveFinite input = true := by
  refine of_optional (P := fun input => Json.haveFinite input = true) hread rfl fun name doc hget hdoc => ?_
  have hfinite := Json.isFinite_of_get? h hget
  cases doc <;> cases hdoc
  exact hfinite

/-- Lists of steps that are finite if they can be read at all. -/
def FiniteNested (nested : Assoc (Reading (List Step))) : Prop :=
  ∀ name reading, nested.get? name = some reading → ∀ steps, reading = done steps →
    Json.areFinite (allToJson steps) = true

theorem FiniteNested.field {nested : Assoc (Reading (List Step))} {names : List String} {steps : List Step}
    (h : FiniteNested nested) (hread : Reading.optional nested names (fun steps => steps) [] = done steps) :
    Json.areFinite (allToJson steps) = true :=
  of_optional (P := fun steps => Json.areFinite (allToJson steps) = true) hread rfl
    fun name reading hget => h name reading hget steps

theorem isFinite_of_ofMembers {members : Members} {nested : Assoc (Reading (List Step))} {kind : StepKind} {step : Step}
    (hmembers : Json.haveFinite members = true) (hnested : FiniteNested nested)
    (hread : ofMembers members nested kind = done step) : step.toJson.isFinite = true := by
  cases kind with
  | agent =>
    simp only [ofMembers, seq_eq_done, map_eq_done] at hread
    obtain ⟨_, key, ⟨_, input, ⟨_, _, ⟨_, _, ⟨_, _, rfl⟩, _, rfl⟩, _, rfl⟩, hinput, rfl⟩, _, rfl⟩ := hread
    simp [toJson, Json.isFinite, Json.haveFinite, haveFinite_of_object hmembers hinput, Json.isFinite_optStr]
  | condition =>
    simp only [ofMembers, seq_eq_done, map_eq_done] at hread
    obtain ⟨_, whenFalse, ⟨_, whenTrue, ⟨_, _, ⟨_, _, rfl⟩, _, rfl⟩, htrue, rfl⟩, hfalse, rfl⟩ := hread
    simp [toJson, Json.isFinite, Json.haveFinite, hnested.field htrue, hnested.field hfalse]
  | parallel =>
    simp only [ofMembers, seq_eq_done, map_eq_done] at hread
    obtain ⟨_, branches, ⟨_, _, rfl⟩, hbranches, rfl⟩ := hread
    simp [toJson, Json.isFinite, Json.haveFinite, hnested.field hbranches]
  | aggregate =>
    simp only [ofMembers, seq_eq_done, map_eq_done] at hread
    obtain ⟨_, key, ⟨_, combine, ⟨_, sources, ⟨_, _, rfl⟩, _, rfl⟩, _, rfl⟩, _, rfl⟩ := hread
    have hsources := @Json.areFinite_map _ Json.str (fun _ => rfl) sources
    simp [toJson, Json.isFinite, Json.haveFinite, hsources, Json.isFinite_optStr]
  | transform =>
    simp only [ofMembers, seq_eq_done, map_eq_done] at hread
    obtain ⟨_, key, ⟨_, fields, ⟨_, _, rfl⟩, hfields, rfl⟩, _, rfl⟩ := hread
    simp [toJson, Json.isFinite, Json.haveFinite, haveFinite_of_object hmembers hfields, Json.isFinite_optStr]
  | validate =>
    simp only [ofMembers, seq_eq_done, map_eq_done] at hread
    obtain ⟨_, rules, ⟨_, _, rfl⟩, _, rfl⟩ := hread
    have hrules := @Json.areFinite_map _ Rule.toJson (fun _ => rfl) rules
    simp [toJson, Json.isFinite, Json.haveFinite, hrules]

theorem isFinite_of_ofVariant {members : Members} {nested : Assoc (Reading (List Step))} {step : Step}
    (hmembers : Json.haveFinite members = true) (hnested : FiniteNested nested)
    (hread : ofVariant members nested = done step) : step.toJson.isFinite = true := by
  unfold ofVariant at hread
  split at hread
  · cases hread
  · split at hread
    · exact isFinite_of_ofMembers hmembers hnested (below_eq_done.1 hread)
    · cases hread
  · cases hread

mutual

theorem isFinite_of_read {doc : Json} {step : Step} (h : doc.isFinite = true) (hread : read doc = done step) :
    step.toJson.isFinite = true := by
  cases doc with
  | obj members => exact isFinite_of_ofVariant h (finiteNested_readNested h) hread
  | null | bool | num | str | arr => cases hread

theorem areFinite_of_readAll {doc : Json} {steps : List Step} (h : doc.isFinite = true)
    (hread : readAll doc = done steps) : Json.areFinite (allToJson steps) = true := by
  cases doc with
  | arr items => exact areFinite_of_readItems h hread
  | null | bool | num | str | obj => cases hread

theorem areFinite_of_readItems {items : List Json} {n : Nat} {steps : List Step} (h : Json.areFinite items = true)
    (hread : readItems n items = done steps) : Json.areFinite (allToJson steps) = true := by
  cases items with
  | nil =>
    cases hread
    rfl
  | cons doc rest =>
    rw [Json.areFinite, Bool.and_eq_true] at h
    simp only [readItems, seq_eq_done, map_eq_done, below_eq_done] at hread
    obtain ⟨_, others, ⟨step, hstep, rfl⟩, hothers, rfl⟩ := hread
    rw [allToJson, Json.areFinite, isFinite_of_read h.1 hstep, areFinite_of_readItems h.2 hothers, Bool.true_and]

theorem finiteNested_readNested {members : List (String × Json)} (h : Json.haveFinite members = true) :
    FiniteNested (readNested members) := by
  cases members with
  | nil => exact nofun
  | cons entry rest =>
    obtain ⟨k, doc⟩ := entry
    rw [Json.haveFinite, Bool.and_eq_true] at h
    intro name reading hget steps hread
    rw [readNested, Assoc.get?] at hget
    by_cases hk : k = name
    · rw [if_pos hk] at hget
      cases hget
      exact areFinite_of_readAll h.1 hread
    · rw [if_neg hk] at hget
      exact finiteNested_readNested h.2 name reading hget steps hread

end

end Step

theorem Definition.isFinite_of_read {fresh : String} {doc : Json} {d : Definition} (h : doc.isFinite = true)
    (hread : read fresh doc = done d) : d.toJson.isFinite = true := by
  cases doc with
  | obj members =>
    simp only [read, record, seq_eq_done, map_eq_done] at hread
    obtain ⟨_, steps, ⟨_, description, ⟨_, _, ⟨_, _, rfl⟩, _, rfl⟩, _, rfl⟩, hsteps, rfl⟩ := hread
    have hfinite : Json.areFinite (Step.allToJson steps) = true :=
      of_optional (P := fun steps => Json.areFinite (Step.allToJson steps) = true) hsteps rfl
        fun name value hget => Step.areFinite_of_readAll (Json.isFinite_of_get? h hget)
    simp [toJson, Json.isFinite, Json.haveFinite, hfinite, Json.isFinite_optStr]
  | null | bool | num | str | arr => cases hread

end Conductor
