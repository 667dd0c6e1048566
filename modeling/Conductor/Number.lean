import Conductor.Number.Dyad

/-! Numbers in documents: unbounded whole numbers and doubles, which compare exactly with each other and
add up as doubles as soon as one of them is a double. -/

namespace Conductor

inductive Number where
  | whole (n : Int)
  | real (x : Float)
  deriving DecidableEq, Inhabited

namespace Number

def isZero : Number → Bool
  | .whole n => n = 0
  | .real x => x == 0.0

def isNaN : Number → Bool
  | .whole _ => false
  | .real x => x.isNaN

/-- The double nearest to a whole number, or none when that lies beyond the largest double. -/
def nearest? (n : Int) : Option Float :=
  let x := Float.ofScientific n.natAbs false 0
  if x.isInf then none else some (if n < 0 then -x else x)

/-- The whole number that a double is, if it is one. -/
def wholeOf? (x : Float) : Option Int :=
  (Dyad.ofFloat? x).bind fun d =>
    if d.numerator % d.denominator = 0 then some (d.numerator / d.denominator) else none

/-- Drops the places of a finite double. -/
def truncate (x : Float) : Int :=
  match Dyad.ofFloat? x with
  | some d => d.numerator.tdiv d.denominator
  | none => 0

def toReal? : Number → Option Float
  | .whole n => nearest? n
  | .real x => some x

def compareWhole (n : Int) (x : Float) : Option Ordering :=
  match Dyad.ofFloat? x with
  | some d => some (compare (n * (d.denominator : Int)) d.numerator)
  | none => if x.isNaN then none else some (if 0.0 < x then .lt else .gt)

/-- Compares exactly; there is no order where a number is not a number. -/
def compare? : Number → Number → Option Ordering
  | .whole a, .whole b => some (compare a b)
  | .whole a, .real y => compareWhole a y
  | .real x, .whole b => (compareWhole b x).map Ordering.swap
  | .real x, .real y =>
    if x < y then some .lt else if y < x then some .gt else if x == y then some .eq else none

/-- A sum is whole as long as both parts are; none when a whole part has no double. -/
def add? : Number → Number → Option Number
  | .whole a, .whole b => some (.whole (a + b))
  | a, b => do
    let x ← a.toReal?
    let y ← b.toReal?
    return .real (x + y)

end Number

end Conductor
