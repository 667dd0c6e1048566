import Conductor.Workflow.Reader
import Conductor.Workflow.Writer

/-! Steps that are written as documents are read back as they were. Of the doubles in a document those that are
not finite get lost where it is stored, and so nothing is lost where all of them are. -/

namespace Conductor

namespace Json

mutual

/-- Whether every double in a document is finite. -/
def isFinite : Json → Bool
  | .num (.real x) => !(x.isNaN || x.isInf)
  | .arr items => areFinite items
  | .obj members => haveFinite members
  | _ => true

def areFinite : List Json → Bool
  | [] => true
  | doc :: rest => isFinite doc && areFinite rest

def haveFinite : List (String × Json) → Bool
  | [] => true
  | (_, doc) :: rest => isFinite doc && haveFinite rest

end

mutual

theorem finite_of_isFinite {doc : Json} (h : doc.isFinite = true) : doc.finite = doc := by
  cases doc with
  | num n =>
    cases n with
    | whole n => rfl
    | real x =>
      rw [isFinite, Bool.not_eq_true'] at h
      rw [finite, h]
      rfl
  | arr items => rw [finite, finiteItems_of_areFinite h]
  | obj members => rw [finite, finiteMembers_of_haveFinite h]
  | null => rfl
  | bool b => rfl
  | str s => rfl

theorem finiteItems_of_areFinite {items : List Json} (h : areFinite items = true) : finiteItems items = items := by
  cases items with
  | nil => rfl
  | cons doc rest =>
    rw [areFinite, Bool.and_eq_true] at h
    rw [finiteItems, finite_of_isFinite h.1, finiteItems_of_areFinite h.2]

theorem finiteMembers_of_haveFinite {members : List (String × Json)} (h : haveFinite members = true) :
    finiteMembers members = members := by
  cases members with
  | nil => rfl
  | cons entry rest =>
    obtain ⟨name, doc⟩ := entry
    rw [haveFinite, Bool.and_eq_true] at h
    rw [finiteMembers, finite_of_isFinite h.1, finiteMembers_of_haveFinite h.2]

end

end Json

namespace Reading

variable {α β : Type}

theorem itemsFrom_map {read : Json → Reading α} {write : α → Json} (h : ∀ a, read (write a) = done a) (n : Nat)
    (items : List α) : itemsFrom read n (items.map write) = done items := by
  induction items generalizing n with
  | nil => rfl
  | cons first rest ih => simp [itemsFrom, h, ih]

theorem list_map {read : Json → Reading α} {write : α → Json} (h : ∀ a, read (write a) = done a) (items : List α) :
    list read (.arr (items.map write)) = done items := itemsFrom_map h 0 items

theorem optional_found {table : Assoc β} {names : List String} {name : String} {value : β} {read : β → Reading α}
    {a default : α} (h : find table names = some (name, value)) (hread : read value = done a) :
    Reading.optional table names read default = done a := by
  rw [Reading.optional, field, h]
  simp only [hread, below_done]

theorem textOrNull_optStr (s : Option String) : textOrNull (Json.optStr s) = done s := by
  cases s <;> rfl

end Reading

open Reading

theorem Rule.read_toJson (rule : Rule) : Rule.read rule.toJson = done rule := rfl

theorem Combine.read_name (c : Combine) : Combine.read (.str c.name) = done c := by
  cases c <;> rfl

namespace Step

theorem readRules_toJson (rules : List Rule) :
    readRules (.obj [("rules", .arr (rules.map Rule.toJson))]) = done rules := by
  show Reading.optional [("rules", _)] ["rules"] (list Rule.read) [] = _
  exact optional_found rfl (list_map Rule.read_toJson rules)

theorem read_of_kind {members : Members} {step : Step} (kind : StepKind)
    (hkind : Assoc.get? members "type" = some (.str kind.name))
    (h : ofMembers members (readNested members) kind = done step) : read (.obj members) = done step := by
  rw [read, ofVariant, hkind]
  simp only [StepKind.ofName?_name, h, below_done]

theorem find_readNested {members : Members} {names : List String} {name : String} {doc : Json}
    (h : find members names = some (name, doc)) : find (readNested members) names = some (name, readAll doc) := by
  induction names with
  | nil => cases h
  | cons first rest ih =>
    rw [find, List.findSome?_cons] at h ⊢
    rw [get?_readNested]
    cases hfirst : Assoc.get? members first with
    | none =>
      rw [hfirst] at h
      exact ih h
    | some found =>
      rw [hfirst] at h
      cases h
      rfl

mutual

theorem read_toJson (step : Step) : read step.toJson = done step := by
  cases step with
  | agent id name operation input key =>
    refine read_of_kind .agent rfl ?_
    rw [ofMembers, readOutputKey, optional_found rfl (textOrNull_optStr key)]
    rfl
  | condition id test whenTrue whenFalse =>
    refine read_of_kind .condition rfl ?_
    rw [ofMembers, optional_found (find_readNested rfl) (readAll_allToJson whenTrue),
      optional_found (find_readNested rfl) (readAll_allToJson whenFalse)]
    rfl
  | parallel id branches =>
    refine read_of_kind .parallel rfl ?_
    rw [ofMembers, optional_found (find_readNested rfl) (readAll_allToJson branches)]
    rfl
  | aggregate id sources combine key =>
    have hsources := @list_map _ text Json.str (fun _ => rfl) sources
    refine read_of_kind .aggregate rfl ?_
    rw [ofMembers, optional_found rfl hsources, optional_found rfl (Combine.read_name combine), readOutputKey,
      optional_found rfl (textOrNull_optStr key)]
    rfl
  | transform id fields key =>
    refine read_of_kind .transform rfl ?_
    rw [ofMembers, readOutputKey, optional_found rfl (textOrNull_optStr key)]
    rfl
  | validate id rules =>
    refine read_of_kind .validate rfl ?_
    rw [ofMembers, optional_found rfl (readRules_toJson rules)]
    rfl

theorem readItems_allToJson (steps : List Step) (n : Nat) : readItems n (allToJson steps) = done steps := by
  cases steps with
  | nil => rfl
  | cons first rest => simp [allToJson, readItems, read_toJson first, readItems_allToJson rest]

theorem readAll_allToJson (steps : List Step) : readAll (.arr (allToJson steps)) = done steps :=
  readItems_allToJson steps 0

end

end Step

end Conductor
