import Conductor.Assoc
import Conductor.Number

/-! Documents: what workflows are given, what their steps hand on, and what is stored. -/

namespace Conductor

/-- A document. The members of an object keep their order of first insertion. -/
inductive Json where
  | null
  | bool (b : Bool)
  | num (n : Number)
  | str (s : String)
  | arr (items : List Json)
  | obj (members : List (String × Json))
  deriving Inhabited

abbrev Members := Assoc Json

namespace Json

def int (n : Int) : Json := .num (.whole n)

def real (x : Float) : Json := .num (.real x)

def optStr (s : Option String) : Json := (s.map Json.str).getD .null

def optInt (n : Option Int) : Json := (n.map Json.int).getD .null

/-- Builds an object from entries that may repeat a name. -/
def object (entries : List (String × Json)) : Json := .obj (Assoc.ofEntries entries)

def isText : Json → Bool
  | .str _ => true
  | _ => false

def isNull : Json → Bool
  | .null => true
  | _ => false

/-- A document holds when it is neither absent, false, zero nor empty. -/
def truthy : Json → Bool
  | .null => false
  | .bool b => b
  | .num n => !n.isZero
  | .str s => s ≠ ""
  | .arr items => !items.isEmpty
  | .obj members => !members.isEmpty

def field? (doc : Json) (name : String) : Option Json :=
  match doc with
  | .obj members => Assoc.get? members name
  | _ => none

/-- Truth values count as the numbers 0 and 1 wherever numbers are compared. -/
def number? : Json → Option Number
  | .bool b => some (.whole (if b then 1 else 0))
  | .num n => some n
  | _ => none

def size? : Json → Option Nat
  | .str s => some s.length
  | .arr items => some items.length
  | .obj members => some members.length
  | _ => none

mutual

/-- Puts nothing in the place of each double that is not finite. -/
def finite : Json → Json
  | .num (.real x) => if x.isNaN || x.isInf then .null else .real x
  | .arr items => .arr (finiteItems items)
  | .obj members => .obj (finiteMembers members)
  | doc => doc

def finiteItems : List Json → List Json
  | [] => []
  | doc :: rest => finite doc :: finiteItems rest

def finiteMembers : List (String × Json) → List (String × Json)
  | [] => []
  | (name, doc) :: rest => (name, finite doc) :: finiteMembers rest

end

mutual

/-- Whether two documents are one and the same, down to the order of their members. -/
def agree : Json → Json → Bool
  | .null, .null => true
  | .bool a, .bool b => a == b
  | .num a, .num b => a = b
  | .str a, .str b => a == b
  | .arr a, .arr b => agreeItems a b
  | .obj a, .obj b => agreeMembers a b
  | _, _ => false

def agreeItems : List Json → List Json → Bool
  | [], [] => true
  | a :: as, b :: bs => agree a b && agreeItems as bs
  | _, _ => false

def agreeMembers : List (String × Json) → List (String × Json) → Bool
  | [], [] => true
  | (name, a) :: as, (other, b) :: bs => name == other && agree a b && agreeMembers as bs
  | _, _ => false

end

mutual

theorem agree_iff {a b : Json} : agree a b = true ↔ a = b := by
  cases a with
  | arr items => cases b <;> simp [agree, agreeItems_iff]
  | obj members => cases b <;> simp [agree, agreeMembers_iff]
  | _ => cases b <;> simp [agree]

theorem agreeItems_iff {as bs : List Json} : agreeItems as bs = true ↔ as = bs := by
  cases as with
  | nil => cases bs <;> simp [agreeItems]
  | cons a as => cases bs <;> simp [agreeItems, agree_iff, agreeItems_iff]

theorem agreeMembers_iff {as bs : List (String × Json)} : agreeMembers as bs = true ↔ as = bs := by
  cases as with
  | nil => cases bs <;> simp [agreeMembers]
  | cons a as =>
    cases bs <;> simp [agreeMembers, agree_iff, agreeMembers_iff, Prod.ext_iff]

end

instance : DecidableEq Json := fun _ _ => decidable_of_iff _ agree_iff

end Json

end Conductor
