import Conductor.Text.Printable

/-! Text between quotes, as messages show it, and characters written in hexadecimal digits. -/

namespace Conductor

def hexText (width n : Nat) : List Char :=
  let digits := Nat.toDigits 16 n
  List.replicate (width - digits.length) '0' ++ digits

/-- How a character is shown between quotes `q`. -/
def showChar (q c : Char) : List Char :=
  if c = q || c = '\\' then ['\\', c]
  else if c = '\n' then ['\\', 'n']
  else if c = '\r' then ['\\', 'r']
  else if c = '\t' then ['\\', 't']
  else if isPrintable c then [c]
  else if c.toNat < 0x100 then '\\' :: 'x' :: hexText 2 c.toNat
  else if c.toNat < 0x10000 then '\\' :: 'u' :: hexText 4 c.toNat
  else '\\' :: 'U' :: hexText 8 c.toNat

/-- Single quotes, unless the text has one and no double quote. -/
def quoteMark (s : String) : Char :=
  if s.toList.contains '\'' && !s.toList.contains '"' then '"' else '\''

def quote (s : String) : String :=
  let q := quoteMark s
  String.ofList (q :: s.toList.flatMap (showChar q) ++ [q])

def hexValue? (c : Char) : Option Nat :=
  if '0' ≤ c && c ≤ '9' then some (c.toNat - 48)
  else if 'a' ≤ c && c ≤ 'f' then some (c.toNat - 87)
  else if 'A' ≤ c && c ≤ 'F' then some (c.toNat - 55)
  else none

def hexValue (cs : List Char) : Option Nat :=
  cs.foldlM (fun n c => (hexValue? c).map (16 * n + ·)) 0

/-- A code that names no character reads as the replacement character. -/
def charOf (n : Nat) : Char :=
  if n.isValidChar then Char.ofNat n else '\ufffd'

/-- Reads exactly `width` hexadecimal digits. -/
def readHex (width : Nat) (rest : List Char) : Option (List Char × { r : List Char // r.length ≤ rest.length }) :=
  if rest.length < width then none
  else match hexValue (rest.take width) with
    | some n =>
      if n ≤ 0x10ffff then some ([charOf n], ⟨rest.drop width, by simp⟩) else none
    | none => none

end Conductor
