import Conductor.Number

/-! Powers. Whole numbers have whole powers; every other power is one of doubles. Powers of a power of two are
worked out exactly, the rest of the positive ones as the double arithmetic of the machine has them. -/

namespace Conductor

/-- Takes factors of two out of the significand. -/
def Dyad.reduce : Nat → Dyad → Dyad
  | 0, d => d
  | n + 1, d =>
    if d.significand % 2 = 0 then reduce n ⟨d.negative, d.significand / 2, d.exponent + 1⟩ else d

/-- The exponent of a double that is a power of two. -/
def twoExponent? (x : Float) : Option Int :=
  (Dyad.ofFloat? x).bind fun d =>
    let r := Dyad.reduce 1100 d
    if r.significand = 1 then some r.exponent else none

/-- The double nearest to `2 ^ e`: one far too large is infinite, one far too small is zero. -/
def twoPower (e : Int) : Float :=
  if 1024 ≤ e then 1.0 / 0.0
  else if e < -1074 then 0.0
  else if e < 0 then Float.ofScientific (Nat.pow 5 e.natAbs) true e.natAbs
  else Float.ofScientific (Nat.pow 2 e.toNat) false 0

/-- A power of a positive double that is finite, for a finite exponent. -/
def positivePower (x y : Float) : Float :=
  match twoExponent? x, Number.wholeOf? y with
  | some e, some n => twoPower (e * n)
  | _, _ => Float.pow x y

inductive PowerError where
  | tooLarge
  | zeroDivisor
  | notReal
  deriving DecidableEq, Repr

def isOdd (x : Float) : Bool :=
  match Number.wholeOf? x with
  | some n => n % 2 ≠ 0
  | none => false

/-- The power that a size goes to under an exponent without bound. -/
def limitPower (x y : Float) : Float :=
  if x.abs == 1.0 then 1.0
  else if (0.0 < y) = (1.0 < x.abs) then y.abs
  else 0.0

/-- The sign of the base stays under odd exponents. What is too large is refused, and so is a fractional
power of a negative number; what is too small is zero. -/
def realPower (x y : Float) : Except PowerError Float :=
  let signed (size : Float) : Float := if x < 0.0 && isOdd y then -size else size
  if y == 0.0 then .ok 1.0
  else if x.isNaN then .ok x
  else if y.isNaN then .ok (if x == 1.0 then 1.0 else y)
  else if y.isInf then .ok (limitPower x y)
  else if x.isInf then .ok (signed (if 0.0 < y then x.abs else 0.0))
  else if x == 0.0 then
    if y < 0.0 then .error .zeroDivisor else .ok (if isOdd y then x else 0.0)
  else if x < 0.0 && (Number.wholeOf? y).isNone then .error .notReal
  else
    let size := positivePower x.abs y
    if size.isInf then .error .tooLarge else .ok (signed size)

/-- Powers of one, zero and minus one need no multiplication. -/
def wholePower (m : Int) (n : Nat) : Int :=
  if n = 0 || m = 1 then 1
  else if m = 0 then 0
  else if m = -1 then (if n % 2 = 0 then 1 else -1)
  else Int.pow m n

/-- A whole number has a whole power unless the exponent is negative. -/
def Number.power (base exponent : Number) : Except PowerError Number :=
  match base, exponent with
  | .whole m, .whole n => if 0 ≤ n then .ok (.whole (wholePower m n.toNat)) else reals
  | _, _ => reals
where
  reals : Except PowerError Number :=
    match base.toReal?, exponent.toReal? with
    | some x, some y => (realPower x y).map .real
    | _, _ => .error .tooLarge

end Conductor
