import Conductor.Json

/-! Equality and order of documents, across whole numbers, doubles and truth values. Order is partial:
documents of different kinds, and objects, are in no order. -/

namespace Conductor

inductive Comparison where
  | same
  | differs
  | above
  | atLeast
  | below
  | atMost
  deriving DecidableEq, Repr, Inhabited

namespace Comparison

def sign : Comparison → String
  | .same => "==="
  | .differs => "!=="
  | .above => ">"
  | .atLeast => ">="
  | .below => "<"
  | .atMost => "<="

def all : List Comparison := [.same, .differs, .above, .atLeast, .below, .atMost]

def ofSign? (s : String) : Option Comparison := all.find? (·.sign = s)

theorem ofSign?_sign (c : Comparison) : ofSign? c.sign = some c := by
  cases c <;> decide

/-- Whether an outcome of comparing satisfies the comparison. -/
def admits : Comparison → Ordering → Bool
  | .same, o => o = .eq
  | .differs, o => o ≠ .eq
  | .above, o => o = .gt
  | .atLeast, o => o ≠ .lt
  | .below, o => o = .lt
  | .atMost, o => o ≠ .gt

end Comparison

namespace Json

/-- What is not a number is the same as itself inside a list or an object. -/
def sameNumber (m n : Number) : Bool :=
  (m.isNaN && n.isNaN) || Number.compare? m n = some .eq

mutual

/-- Equality by value: objects regardless of the order of their members, numbers regardless of kind. -/
def same : Json → Json → Bool
  | .null, .null => true
  | .str s, .str t => s = t
  | .arr xs, .arr ys => sameItems xs ys
  | .obj xs, .obj ys => xs.length = ys.length && sameMembers xs ys
  | .bool a, .bool b => a = b
  | .bool a, .num n => Number.compare? (.whole (if a then 1 else 0)) n = some .eq
  | .num n, .bool b => Number.compare? n (.whole (if b then 1 else 0)) = some .eq
  | .num m, .num n => sameNumber m n
  | _, _ => false

def sameItems : List Json → List Json → Bool
  | [], [] => true
  | x :: xs, y :: ys => same x y && sameItems xs ys
  | _, _ => false

def sameMembers : List (String × Json) → List (String × Json) → Bool
  | [], _ => true
  | (name, x) :: xs, ys =>
    (match Assoc.get? ys name with
      | some y => same x y
      | none => false) && sameMembers xs ys

end

mutual

/-- Order under one of the four ordering comparisons. -/
def ordered (c : Comparison) : Json → Json → Bool
  | .str s, .str t => c.admits (if s < t then .lt else if t < s then .gt else .eq)
  | .arr xs, .arr ys => orderedItems c xs ys
  | .bool a, .bool b => c.admits (compare (if a then 1 else 0) (if b then 1 else 0))
  | .bool a, .num n => ((Number.compare? (.whole (if a then 1 else 0)) n).map c.admits).getD false
  | .num n, .bool b => ((Number.compare? n (.whole (if b then 1 else 0))).map c.admits).getD false
  | .num m, .num n => ((Number.compare? m n).map c.admits).getD false
  | _, _ => false

/-- The first place where two lists differ decides; where none does, the longer list is above. -/
def orderedItems (c : Comparison) : List Json → List Json → Bool
  | [], [] => c.admits .eq
  | [], _ :: _ => c.admits .lt
  | _ :: _, [] => c.admits .gt
  | x :: xs, y :: ys => if same x y then orderedItems c xs ys else ordered c x y

end

def isTruth : Json → Bool
  | .bool _ => true
  | _ => false

def isNaN : Json → Bool
  | .num n => n.isNaN
  | _ => false

/-- Equality that, at the top, keeps truth values apart from numbers and what is not a number apart from
everything. -/
def identical (x y : Json) : Bool :=
  x.isTruth = y.isTruth && !x.isNaN && same x y

/-- Applies a comparison. What cannot be compared is unequal and in no order; nothing is above or below an
absent value. -/
def compareBy (c : Comparison) (x y : Json) : Bool :=
  match c with
  | .same => identical x y
  | .differs => !identical x y
  | c => !x.isNull && !y.isNull && ordered c x y

end Json

end Conductor
