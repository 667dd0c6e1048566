import Conductor.Assoc

/-! Registries: agents by name and the operations of each by name, both in the order in which they were
added. An extended registry is a new one. -/

namespace Conductor

structure Registry (α : Type) where
  entries : Assoc (Assoc α)

inductive LookupError where
  | agent (name : String)
  | operation (name asked : String)
  | notCallable (name asked : String)
  | notOffered (name asked : String)
  deriving DecidableEq, Repr

def LookupError.message : LookupError → String
  | .agent name => s!"Unknown agent: {name}"
  | .operation name asked => s!"Agent {name} does not have operation {asked}"
  | .notCallable name asked => s!"Agent {name} has no callable operation '{asked}'"
  | .notOffered name asked => s!"Agent {name} has no operation '{asked}'"

/-- A collaborator that may be registered: what can be called on it, and the operations asked of it. -/
structure Instance (α : Type) where
  name : String
  methods : Assoc α
  operations : List String

namespace Registry

variable {α : Type}

def get (r : Registry α) (agent operation : String) : Except LookupError α :=
  match r.entries.get? agent with
  | none => .error (.agent agent)
  | some operations =>
    match operations.get? operation with
    | none => .error (.operation agent operation)
    | some found => .ok found

def hasAgent (r : Registry α) (agent : String) : Bool := r.entries.has agent

def operationsOf (r : Registry α) (agent : String) : Assoc α := (r.entries.get? agent).getD []

def hasOperation (r : Registry α) (agent operation : String) : Bool :=
  (r.operationsOf agent).has operation

def agents (r : Registry α) : List String := r.entries.names

def operations (r : Registry α) (agent : String) : List String := (r.operationsOf agent).names

def size (r : Registry α) : Nat := r.entries.length

/-- Takes the place of the agent of that name, or adds one at the end. -/
def withAgent (r : Registry α) (agent : String) (operations : List (String × α)) : Registry α :=
  ⟨r.entries.put agent (Assoc.ofEntries operations)⟩

def bind (i : Instance α) : Except LookupError (Assoc α) :=
  i.operations.foldlM (fun acc operation =>
    match i.methods.get? operation with
    | some method => .ok (acc.put operation method)
    | none => .error (.notCallable i.name operation)) []

def ofInstances (instances : List (Instance α)) : Except LookupError (Registry α) :=
  instances.foldlM (fun r i => (bind i).map fun found => ⟨r.entries.put i.name found⟩) ⟨[]⟩

theorem get_eq_ok_iff (r : Registry α) (agent operation : String) (found : α) :
    r.get agent operation = .ok found ↔ (r.operationsOf agent).get? operation = some found := by
  unfold get operationsOf
  cases r.entries.get? agent with
  | none => simp
  | some operations =>
    simp only [Option.getD_some]
    cases operations.get? operation <;> simp

/-- What is found is one of the entries. -/
theorem mem_of_get_eq_ok {r : Registry α} {agent operation : String} {found : α} (h : r.get agent operation = .ok found) :
    ∃ operations, (agent, operations) ∈ r.entries ∧ (operation, found) ∈ operations := by
  unfold get at h
  split at h
  · cases h
  · next operations hagent =>
    split at h
    · cases h
    · next found' hfound =>
      obtain rfl : found' = found := Except.ok.inj h
      exact ⟨operations, Assoc.mem_of_get?_eq_some hagent, Assoc.mem_of_get?_eq_some hfound⟩

theorem exists_get_iff (r : Registry α) (agent operation : String) :
    (∃ found, r.get agent operation = .ok found) ↔ r.hasOperation agent operation = true := by
  simp only [get_eq_ok_iff, hasOperation, Assoc.has, Option.isSome_iff_exists]

end Registry

end Conductor
