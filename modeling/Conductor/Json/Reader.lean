import Conductor.Json
import Conductor.Text.Numeral
import Conductor.Text.Quoted

/-! Reading documents from text. Each reader takes a part off the front of the text and returns it with
what is left. Of two members with one name the last counts. -/

namespace Conductor

namespace Reader

def isGap (c : Char) : Bool := c = ' ' || c = '\t' || c = '\n' || c = '\r'

def skipGaps (cs : List Char) : List Char := cs.dropWhile isGap

/-- The rest of a text after `word`, when the text begins with it. -/
def afterWord? (word cs : List Char) : Option (List Char) :=
  if word.isPrefixOf cs then some (cs.drop word.length) else none

/-- Four hexadecimal digits. -/
def unit? (cs : List Char) : Option Nat :=
  if cs.length = 4 then hexValue cs else none

/-- The character that two surrogate units stand for. -/
def joinUnits (high low : Nat) : Char :=
  charOf (0x10000 + (high - 0xd800) * 0x400 + (low - 0xdc00))

def isHigh (n : Nat) : Bool := 0xd800 ≤ n && n < 0xdc00

def isLow (n : Nat) : Bool := 0xdc00 ≤ n && n < 0xe000

/-- The body of a string after its first quote, with what follows its last. -/
def stringBody : List Char → Option (List Char × List Char)
  | [] => none
  | '"' :: rest => some ([], rest)
  | '\\' :: 'u' :: a :: b :: c :: d :: '\\' :: 'u' :: e :: f :: g :: h :: rest =>
    match unit? [a, b, c, d], unit? [e, f, g, h] with
    | some m, some n =>
      if isHigh m && isLow n then
        (stringBody rest).map fun out => (joinUnits m n :: out.1, out.2)
      else
        (stringBody ('\\' :: 'u' :: e :: f :: g :: h :: rest)).map fun out => (charOf m :: out.1, out.2)
    | _, _ => none
  | '\\' :: 'u' :: a :: b :: c :: d :: rest =>
    match unit? [a, b, c, d] with
    | some n => (stringBody rest).map fun out => (charOf n :: out.1, out.2)
    | none => none
  | '\\' :: c :: rest =>
    let decoded := match c with
      | '"' => some '"'
      | '\\' => some '\\'
      | '/' => some '/'
      | 'b' => some '\x08'
      | 'f' => some '\x0c'
      | 'n' => some '\n'
      | 'r' => some '\r'
      | 't' => some '\t'
      | _ => none
    match decoded with
    | some d => (stringBody rest).map fun out => (d :: out.1, out.2)
    | none => none
  | c :: rest =>
    if c.toNat < 32 || c = '\\' then none else (stringBody rest).map fun out => (c :: out.1, out.2)
termination_by cs => cs.length

/-- Splits off leading digits. -/
def spanDigits (cs : List Char) : List Char × List Char :=
  (cs.takeWhile Char.isDigit, cs.dropWhile Char.isDigit)

/-- A point with at least one digit after it. -/
def fraction? (cs : List Char) : Option (List Char × List Char) :=
  match cs with
  | '.' :: rest => if (spanDigits rest).1.isEmpty then none else some (spanDigits rest)
  | _ => none

def exponent? (cs : List Char) : Option (Int × List Char) :=
  match cs with
  | c :: rest =>
    if c = 'e' || c = 'E' then
      let (negative, body) := splitSign rest
      match basicDigits? (spanDigits body).1 with
      | some n => some (if negative then -(n : Int) else n, (spanDigits body).2)
      | none => none
    else none
  | [] => none

/-- A number without its sign: no leading zeros, then a fraction and an exponent, each if it is there. -/
def unsigned? (cs : List Char) : Option (Number × List Char) := do
  let (digits, rest) := spanDigits cs
  let (digits, rest) :=
    if digits.head? = some '0' then (['0'], digits.drop 1 ++ rest) else (digits, rest)
  let whole ← basicDigits? digits
  match fraction? rest, exponent? ((fraction? rest).map Prod.snd |>.getD rest) with
  | none, none => return (.whole whole, rest)
  | some (places, rest), none =>
    let n ← basicDigits? (digits ++ places)
    return (.real (Decimal.toReal ⟨n, -(places.length : Int)⟩), rest)
  | none, some (power, rest) => return (.real (Decimal.toReal ⟨whole, power⟩), rest)
  | some (places, _), some (power, rest) =>
    let n ← basicDigits? (digits ++ places)
    return (.real (Decimal.toReal ⟨n, power - places.length⟩), rest)

def negate : Number → Number
  | .whole n => .whole (-n)
  | .real x => .real (-x)

def number? (cs : List Char) : Option (Number × List Char) :=
  match cs with
  | '-' :: rest => (unsigned? rest).map fun out => (negate out.1, out.2)
  | _ => unsigned? cs

/-- Words that are whole documents. -/
def words : List (String × Json) :=
  [("null", .null), ("true", .bool true), ("false", .bool false), ("NaN", .real (0.0 / 0.0)),
    ("-Infinity", .real (-1.0 / 0.0)), ("Infinity", .real (1.0 / 0.0))]

def word? (cs : List Char) : Option (Json × List Char) :=
  words.findSome? fun entry => (afterWord? entry.1.toList cs).map (entry.2, ·)

def scalar? (cs : List Char) : Option (Json × List Char) :=
  match cs with
  | '"' :: rest => (stringBody rest).map fun out => (.str (String.ofList out.1), out.2)
  | _ => (word? cs).or ((number? cs).map fun out => (.num out.1, out.2))

mutual

/-- Reads one document; the fuel bounds the nesting and the number of items together. -/
def value (fuel : Nat) (cs : List Char) : Option (Json × List Char) :=
  match fuel with
  | 0 => none
  | fuel + 1 =>
    match cs with
    | '[' :: rest =>
      match skipGaps rest with
      | ']' :: rest => some (.arr [], rest)
      | rest => (items fuel rest).map fun out => (.arr out.1, out.2)
    | '{' :: rest =>
      match skipGaps rest with
      | '}' :: rest => some (.obj [], rest)
      | rest => (members fuel rest).map fun out => (Json.object out.1, out.2)
    | _ => scalar? cs

def items (fuel : Nat) (cs : List Char) : Option (List Json × List Char) :=
  match fuel with
  | 0 => none
  | fuel + 1 =>
    match value fuel (skipGaps cs) with
    | none => none
    | some (doc, rest) =>
      match skipGaps rest with
      | ']' :: rest => some ([doc], rest)
      | ',' :: rest => (items fuel rest).map fun out => (doc :: out.1, out.2)
      | _ => none

def members (fuel : Nat) (cs : List Char) : Option (List (String × Json) × List Char) :=
  match fuel with
  | 0 => none
  | fuel + 1 =>
    match skipGaps cs with
    | '"' :: rest =>
      match stringBody rest with
      | none => none
      | some (name, rest) =>
        match skipGaps rest with
        | ':' :: rest =>
          match value fuel (skipGaps rest) with
          | none => none
          | some (doc, rest) =>
            match skipGaps rest with
            | '}' :: rest => some ([(String.ofList name, doc)], rest)
            | ',' :: rest =>
              (members fuel rest).map fun out => ((String.ofList name, doc) :: out.1, out.2)
            | _ => none
        | _ => none
    | _ => none

end

end Reader

/-- Reads a text that holds one document and nothing else but gaps. -/
def Json.read? (text : String) : Option Json :=
  let cs := text.toList
  match Reader.value (2 * cs.length + 2) (Reader.skipGaps cs) with
  | some (doc, rest) => if (Reader.skipGaps rest).isEmpty then some doc else none
  | none => none

end Conductor
