import Conductor.Number

/-! Decimal text of doubles. `Decimal.shortest` picks the fewest digits that still read back as the same
double and, among those, the nearest value; `Float.text` lays them out. -/

namespace Conductor

/-- The value `coefficient * 10 ^ exponent`. -/
structure Decimal where
  coefficient : Nat
  exponent : Int
  deriving DecidableEq, Repr

def digitCount (n : Nat) : Nat := (Nat.toDigits 10 n).length

/-- The largest `e` with `10 ^ e ≤ num / den`. -/
def decimalExponent (num den : Nat) : Int :=
  let l : Int := (digitCount num : Int) - digitCount den
  let reaches := if 0 ≤ l then den * Nat.pow 10 l.toNat ≤ num else den ≤ num * Nat.pow 10 (-l).toNat
  if reaches then l else l - 1

namespace Decimal

def dropZeros (fuel : Nat) (d : Decimal) : Decimal :=
  match fuel with
  | 0 => d
  | fuel + 1 =>
    if d.coefficient % 10 = 0 ∧ d.coefficient ≠ 0 then
      dropZeros fuel ⟨d.coefficient / 10, d.exponent + 1⟩
    else d

/-- The points of the grid `10 ^ e` next to the double that read back as it, the nearer one first. -/
def onGrid (d : Dyad) (e : Int) : Option Decimal :=
  let quarter : Int := d.exponent - 2
  let unit := Nat.pow 2 quarter.toNat * Nat.pow 10 (-e).toNat
  let grid := Nat.pow 10 e.toNat * Nat.pow 2 (-quarter).toNat
  let value := 4 * d.significand * unit
  let narrow := d.significand = Nat.pow 2 52 ∧ -1074 < d.exponent
  let low := value - (if narrow then 1 else 2) * unit
  let high := value + 2 * unit
  let closed := d.significand % 2 = 0
  let readsBack (c : Nat) : Bool :=
    if closed then low ≤ c * grid ∧ c * grid ≤ high else low < c * grid ∧ c * grid < high
  let below := value / grid
  let above := below + 1
  match readsBack below, readsBack above with
  | true, true => some ⟨roundDiv value grid, e⟩
  | true, false => some ⟨below, e⟩
  | false, true => some ⟨above, e⟩
  | false, false => none

/-- Seventeen digits always suffice for a double. -/
def shortest (d : Dyad) : Decimal :=
  if d.significand = 0 then ⟨0, 0⟩
  else
    let top := decimalExponent d.magnitude d.denominator
    let found := (List.range 17).findSome? fun (n : Nat) => onGrid d (top - n)
    dropZeros 400 (found.getD ⟨0, 0⟩)

/-- Digits with the point after the first `point` of them; the exponent form is used when the value is
below `10 ^ -4` or not below `10 ^ 16`, and a whole value keeps one zero after its point. -/
def layout (d : Decimal) : String :=
  let digits := Nat.toDigits 10 d.coefficient
  let count := digits.length
  let point : Int := count + d.exponent
  if d.coefficient = 0 then "0.0"
  else if -4 < point ∧ point ≤ 16 then
    if point ≤ 0 then "0." ++ String.ofList (List.replicate (-point).toNat '0' ++ digits)
    else if (count : Int) ≤ point then
      String.ofList (digits ++ List.replicate (point - count).toNat '0') ++ ".0"
    else
      String.ofList (digits.take point.toNat) ++ "." ++ String.ofList (digits.drop point.toNat)
  else
    let power := point - 1
    let sign := if power < 0 then "-" else "+"
    let size := Nat.toDigits 10 power.natAbs
    let padded := if size.length < 2 then '0' :: size else size
    let head := String.ofList (digits.take 1)
    let tail := if count = 1 then "" else "." ++ String.ofList (digits.drop 1)
    head ++ tail ++ "e" ++ sign ++ String.ofList padded

end Decimal

/-- The shortest decimal text that reads back as the double. -/
def realText (x : Float) : String :=
  match Dyad.ofFloat? x with
  | none => if x.isNaN then "nan" else if 0.0 < x then "inf" else "-inf"
  | some d => (if d.negative then "-" else "") ++ (Decimal.shortest d).layout

def Number.text : Number → String
  | .whole n => toString n
  | .real x => realText x

/-- Text with a fixed number of places, rounded from the exact value, a half to even. -/
def fixedText (places : Nat) (x : Float) : String :=
  match Dyad.ofFloat? x with
  | none => realText x
  | some d =>
    let n := roundDiv (d.magnitude * Nat.pow 10 places) d.denominator
    let digits := Nat.toDigits 10 n
    let padded := List.replicate (places + 1 - digits.length) '0' ++ digits
    let split := padded.length - places
    (if d.negative then "-" else "") ++
      String.ofList (padded.take split) ++ "." ++ String.ofList (padded.drop split)

end Conductor
