import Conductor.Json
import Conductor.Text.Numeral

/-! Reading a record out of a document. A reading gives the record, or everything that is wrong with the
document: each problem with the path to its place, in the order of the record's fields. -/

namespace Conductor

/-- What is wrong at one place. `notTable` stands where entries were to be laid over defaults and there
are no entries at all. -/
inductive Flaw where
  | missing
  | notText
  | notList
  | notObject
  | notTable
  | notRecord
  | notVariant
  | noVariant
  | unknownVariant
  | notListed
  | notWhole
  | unreadableWhole
  | oversizeWhole
  | fractional
  | notFinite
  | notReal
  | unreadableReal
  deriving DecidableEq, Repr

structure Problem where
  path : List String
  flaw : Flaw
  deriving DecidableEq, Repr

def Problem.below (name : String) (p : Problem) : Problem := { p with path := name :: p.path }

/-- The first line of a report on a document that should have been a record of that name. -/
def headline (model : String) (problems : List Problem) : String :=
  let errors := if problems.length = 1 then "error" else "errors"
  s!"{problems.length} validation {errors} for {model}"

inductive Reading (α : Type) where
  | done (value : α)
  | refused (problems : List Problem)

namespace Reading

variable {α β : Type}

def map (f : α → β) : Reading α → Reading β
  | done value => done (f value)
  | refused problems => refused problems

/-- Where both parts are refused, the problems of the first come first. -/
def apply (f : Reading (α → β)) (x : Reading α) : Reading β :=
  match f, x with
  | done f, done value => done (f value)
  | done _, refused problems => refused problems
  | refused problems, done _ => refused problems
  | refused problems, refused others => refused (problems ++ others)

instance : Applicative Reading where
  pure := done
  map := map
  seq f x := apply f (x ())

@[simp] theorem map_done (f : α → β) (value : α) : f <$> done value = done (f value) := rfl

@[simp] theorem seq_done (f : α → β) (value : α) : (done f <*> done value) = done (f value) := rfl

theorem map_eq_done {f : α → β} {x : Reading α} {b : β} :
    f <$> x = done b ↔ ∃ a, x = done a ∧ f a = b := by
  cases x <;> simp [Functor.map, map]

theorem seq_eq_done {f : Reading (α → β)} {x : Reading α} {b : β} :
    (f <*> x) = done b ↔ ∃ g a, f = done g ∧ x = done a ∧ g a = b := by
  cases f <;> cases x <;> simp [Seq.seq, apply]

/-- Moves the problems of a part below the name of its place. -/
def below (name : String) : Reading α → Reading α
  | done value => done value
  | refused problems => refused (problems.map (Problem.below name))

@[simp] theorem below_done (name : String) (value : α) : (done value).below name = done value := rfl

@[simp] theorem below_eq_done {name : String} {x : Reading α} {a : α} :
    x.below name = done a ↔ x = done a := by
  cases x <;> simp [below]

def fail (flaw : Flaw) : Reading α := refused [⟨[], flaw⟩]

def toExcept : Reading α → Except (List Problem) α
  | done value => .ok value
  | refused problems => .error problems

/-- The first of several names that is present, with its value. -/
def find (table : Assoc β) (names : List String) : Option (String × β) :=
  names.findSome? fun name => (table.get? name).map (name, ·)

/-- Reads a field that may go by several names, the first of them preferred. -/
def field (table : Assoc β) (names : List String) (read : β → Reading α) (absent : Reading α) :
    Reading α :=
  match find table names with
  | some (name, value) => (read value).below name
  | none => absent

def required (table : Assoc β) (name : String) (read : β → Reading α) : Reading α :=
  field table [name] read (refused [⟨[name], .missing⟩])

def optional (table : Assoc β) (names : List String) (read : β → Reading α) (default : α) :
    Reading α :=
  field table names read (done default)

def text : Json → Reading String
  | .str s => done s
  | _ => fail .notText

/-- A text or nothing. -/
def textOrNull : Json → Reading (Option String)
  | .null => done none
  | doc => some <$> text doc

def object : Json → Reading Members
  | .obj members => done members
  | _ => fail .notObject

def record (read : Members → Reading α) : Json → Reading α
  | .obj members => read members
  | _ => fail .notRecord

def itemsFrom (read : Json → Reading α) (n : Nat) : List Json → Reading (List α)
  | [] => done []
  | doc :: rest => List.cons <$> (read doc).below (toString n) <*> itemsFrom read (n + 1) rest

def list (read : Json → Reading α) : Json → Reading (List α)
  | .arr items => itemsFrom read 0 items
  | _ => fail .notList

def membersOf (read : Json → Reading α) : Members → Reading (Assoc α)
  | [] => done []
  | (name, doc) :: rest =>
    (fun value values => (name, value) :: values) <$> (read doc).below name <*> membersOf read rest

/-- A double without places stands for a whole number as long as that is smaller than `2 ^ 63` either
way. -/
def wholeOfReal (x : Float) : Reading Int :=
  if x.isNaN || x.isInf then fail .notFinite
  else match Number.wholeOf? x with
    | none => fail .fractional
    | some n => if n.natAbs < Nat.pow 2 63 then done n else fail .oversizeWhole

/-- A whole number, also as text, as a double without places, or as a truth value. -/
def whole : Json → Reading Int
  | .bool b => done (if b then 1 else 0)
  | .num (.whole n) => done n
  | .num (.real x) => wholeOfReal x
  | .str s =>
    match readWhole s with
    | .ok n => done n
    | .error .tooLong => fail .oversizeWhole
    | .error .unreadable => fail .unreadableWhole
  | _ => fail .notWhole

/-- A double, also as text, as a whole number, or as a truth value. -/
def real : Json → Reading Float
  | .bool b => done (if b then 1.0 else 0.0)
  | .num n =>
    match n.toReal? with
    | some x => done x
    | none => fail .notReal
  | .str s =>
    match readReal s with
    | some x => done x
    | none => fail .unreadableReal
  | _ => fail .notReal

end Reading

end Conductor
