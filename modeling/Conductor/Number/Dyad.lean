/-! A finite double is a whole number times a power of two. Everything here that must be exact is done on
that pair in whole numbers: rounding a quotient, rounding a double to decimal places. -/

namespace Conductor

/-- The value `± significand * 2 ^ exponent`. -/
structure Dyad where
  negative : Bool
  significand : Nat
  exponent : Int
  deriving DecidableEq, Repr

namespace Dyad

/-- Decodes a double; none for the infinities and for what is not a number. -/
def ofFloat? (x : Float) : Option Dyad :=
  let bits : Nat := x.toBits.toNat
  let fraction : Nat := bits % Nat.pow 2 52
  let biased : Nat := bits / Nat.pow 2 52 % Nat.pow 2 11
  let negative := bits / Nat.pow 2 63 == 1
  if biased = 2047 then none
  else if biased = 0 then some ⟨negative, fraction, -1074⟩
  else some ⟨negative, Nat.pow 2 52 + fraction, (biased : Int) - 1075⟩

def magnitude (d : Dyad) : Nat :=
  d.significand * Nat.pow 2 d.exponent.toNat

def numerator (d : Dyad) : Int :=
  if d.negative then -(d.magnitude : Int) else d.magnitude

def denominator (d : Dyad) : Nat :=
  Nat.pow 2 (-d.exponent).toNat

end Dyad

/-- Rounds a quotient to the nearest whole number, and a half to the even neighbour. -/
def roundDiv (num den : Nat) : Nat :=
  let q := num / den
  let r := num % den
  if 2 * r < den then q
  else if den < 2 * r then q + 1
  else if q % 2 = 0 then q
  else q + 1

/-- The double nearest to the decimal that is nearest to `x` with that many places. -/
def roundPlaces (places : Nat) (x : Float) : Float :=
  match Dyad.ofFloat? x with
  | none => x
  | some d =>
    let y := Float.ofScientific (roundDiv (d.magnitude * Nat.pow 10 places) d.denominator) true places
    if d.negative then -y else y

end Conductor
