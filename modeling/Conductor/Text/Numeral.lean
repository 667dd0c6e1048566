import Conductor.Number.Decimal
import Conductor.Text.Blank
import Conductor.Text.Digit

/-! Numbers written as text. `readReal` takes a decimal with point and exponent, `readWhole` a whole number
that may have leading zeros and end in a point and zeros; both may have blank ends or single underscores
inside. -/

namespace Conductor

/-- The double nearest to a decimal: far too large is infinite and far too small is zero. -/
def Decimal.toReal (d : Decimal) : Float :=
  let size : Int := digitCount d.coefficient + d.exponent
  if d.coefficient = 0 || size < -340 then 0.0
  else if 340 < size then 1.0 / 0.0
  else if d.exponent < 0 then Float.ofScientific d.coefficient true d.exponent.natAbs
  else Float.ofScientific d.coefficient false d.exponent.toNat

def signed (negative : Bool) (x : Float) : Float := if negative then -x else x

/-- Decimal digits of the basic set. -/
def basicDigits? (cs : List Char) : Option Nat :=
  if cs.isEmpty || !cs.all Char.isDigit then none
  else some (cs.foldl (fun n c => 10 * n + (c.toNat - 48)) 0)

/-- Splits off a sign; true is minus. -/
def splitSign : List Char → Bool × List Char
  | '-' :: rest => (true, rest)
  | '+' :: rest => (false, rest)
  | cs => (false, cs)

/-- Splits at the first character that satisfies `p`, which goes with neither part. -/
def splitAtFirst (p : Char → Bool) (cs : List Char) : List Char × Option (List Char) :=
  match cs.dropWhile (!p ·) with
  | [] => (cs, none)
  | _ :: rest => (cs.takeWhile (!p ·), some rest)

/-- Underscores may stand singly inside a number; none when one leads, ends or is doubled. -/
def dropUnderscores (cs : List Char) : Option (List Char) :=
  if cs.head? = some '_' || cs.getLast? = some '_' || (cs.zip (cs.drop 1)).contains ('_', '_') then none
  else some (cs.filter (· ≠ '_'))

/-- Control separators are not blank around a number. -/
def trimNumeral (s : String) : List Char :=
  let outer (c : Char) : Bool := isBlank c && !(28 ≤ c.toNat && c.toNat < 32)
  ((s.toList.dropWhile outer).reverse.dropWhile outer).reverse

def readExponent (cs : Option (List Char)) : Option Int :=
  match cs with
  | none => some 0
  | some e =>
    let (negative, digits) := splitSign e
    (basicDigits? digits).map fun n => if negative then -(n : Int) else n

/-- Digits, a point with digits on at least one side, an exponent. -/
def readUnsigned (cs : List Char) : Option Float := do
  let (mantissa, exponent) := splitAtFirst (fun c => c = 'e' || c = 'E') cs
  let power ← readExponent exponent
  let (before, after) := splitAtFirst (· = '.') mantissa
  let places := after.getD []
  let coefficient ← basicDigits? (before ++ places)
  return Decimal.toReal ⟨coefficient, power - places.length⟩

def readPlainReal (cs : List Char) : Option Float :=
  let (negative, body) := splitSign cs
  let word := (String.ofList body).toLower
  if word = "inf" || word = "infinity" then some (signed negative (1.0 / 0.0))
  else if word = "nan" then some (0.0 / 0.0)
  else (readUnsigned body).map (signed negative)

/-- Underscores are passed over only where no blank stands around the number. -/
def readReal (s : String) : Option Float :=
  (readPlainReal (trimNumeral s)).or ((dropUnderscores s.toList).bind readPlainReal)

inductive NumeralError where
  | unreadable
  | tooLong
  deriving DecidableEq, Repr

/-- A whole number as documents write it: a minus if it is below zero, digits, no zero before others. The
minus counts as a digit where there are too many. -/
def readPlainWhole (cs : List Char) : Except NumeralError Int :=
  let (negative, body) := match cs with
    | '-' :: rest => (true, rest)
    | _ => (false, cs)
  let digits := body.takeWhile Char.isDigit
  match basicDigits? digits with
  | none => .error .unreadable
  | some n =>
    if digits.head? = some '0' then if body.length = 1 then .ok 0 else .error .unreadable
    else if maxDigits < (cs.length - body.length) + digits.length then .error .tooLong
    else if digits.length < body.length then .error .unreadable
    else .ok (if negative then -(n : Int) else n)

/-- Drops zeros, and underscores among them, before the first digit that counts; `last` is the character
that was dropped last, which stays before a point and at the end. -/
def dropZeros (last : Char) : List Char → Option (List Char)
  | [] => some [last]
  | c :: rest =>
    if c = '0' || c = '_' then dropZeros c rest
    else if c = '.' then some (last :: c :: rest)
    else if c.isDigit || c = '-' then some (c :: rest)
    else none

def dropLeadingZeros : List Char → Option (List Char)
  | [] => none
  | c :: rest =>
    if c = '0' then dropZeros c rest
    else if c.isDigit || c = '-' then some (c :: rest)
    else none

/-- Drops a point with nothing but zeros after it. -/
def dropZeroPlaces (cs : List Char) : List Char :=
  match splitAtFirst (· = '.') cs with
  | (before, some (c :: rest)) => if (c :: rest).all (· = '0') then before else cs
  | _ => cs

/-- Takes off a whole number what its plain form does not have: blanks around it, a plus, leading zeros,
places that are zero, underscores. -/
def plainWhole? (cs : List Char) : Option (List Char) :=
  match trimNumeral (String.ofList cs) with
  | '+' :: '-' :: _ => none
  | '+' :: rest => tidy rest
  | trimmed => tidy trimmed
where
  tidy (cs : List Char) : Option (List Char) :=
    (dropLeadingZeros cs).map fun digits =>
      let places := dropZeroPlaces digits
      (dropUnderscores places).getD places

def readWhole (s : String) : Except NumeralError Int :=
  match readPlainWhole s.toList with
  | .ok n => .ok n
  | .error e =>
    match plainWhole? s.toList with
    | some plain => if plain.length = s.length then .error e else readPlainWhole plain
    | none => .error e

end Conductor
