import Conductor.Json
import Conductor.Number.Decimal
import Conductor.Text.Quoted

/-! Text of documents. `Json.text` is the one-line form that goes into strings, `Json.indented` the form
for people, and `Json.shown` the form that messages use. The first two write basic characters only. -/

namespace Conductor

/-- One code unit of sixteen bits as an escape. -/
def unitEscape (n : Nat) : List Char :=
  '\\' :: 'u' :: hexText 4 n

/-- A character beyond sixteen bits is written as its two surrogate units. -/
def escapeChar (c : Char) : List Char :=
  let n := c.toNat
  if c = '"' then ['\\', '"']
  else if c = '\\' then ['\\', '\\']
  else if c = '\n' then ['\\', 'n']
  else if c = '\r' then ['\\', 'r']
  else if c = '\t' then ['\\', 't']
  else if c = '\x08' then ['\\', 'b']
  else if c = '\x0c' then ['\\', 'f']
  else if 32 ≤ n ∧ n < 127 then [c]
  else if n < 0x10000 then unitEscape n
  else unitEscape (0xd800 + (n - 0x10000) / 0x400) ++ unitEscape (0xdc00 + (n - 0x10000) % 0x400)

def stringText (s : String) : String :=
  String.ofList ('"' :: s.toList.flatMap escapeChar ++ ['"'])

/-- Doubles that are not finite have words of their own. -/
def Number.literal : Number → String
  | .whole n => toString n
  | .real x =>
    if x.isNaN then "NaN"
    else if x.isInf then (if 0.0 < x then "Infinity" else "-Infinity")
    else realText x

namespace Json

mutual

def text : Json → String
  | .null => "null"
  | .bool b => if b then "true" else "false"
  | .num n => n.literal
  | .str s => stringText s
  | .arr items => "[" ++ ", ".intercalate (itemTexts items) ++ "]"
  | .obj members => "\x7b" ++ ", ".intercalate (memberTexts members) ++ "\x7d"

def itemTexts : List Json → List String
  | [] => []
  | doc :: rest => doc.text :: itemTexts rest

def memberTexts : List (String × Json) → List String
  | [] => []
  | (name, doc) :: rest => (stringText name ++ ": " ++ doc.text) :: memberTexts rest

end

def margin (depth : Nat) : String :=
  "\n" ++ String.ofList (List.replicate (2 * depth) ' ')

/-- Brackets around parts that stand on lines of their own, one level deeper. -/
def block (depth : Nat) (left right : String) (parts : List String) : String :=
  if parts.isEmpty then left ++ right
  else left ++ margin (depth + 1) ++ ("," ++ margin (depth + 1)).intercalate parts ++ margin depth ++ right

mutual

def indentedAt (depth : Nat) : Json → String
  | .null => "null"
  | .bool b => if b then "true" else "false"
  | .num n => n.literal
  | .str s => stringText s
  | .arr items => block depth "[" "]" (itemLines (depth + 1) items)
  | .obj members => block depth "\x7b" "\x7d" (memberLines (depth + 1) members)

def itemLines (depth : Nat) : List Json → List String
  | [] => []
  | doc :: rest => indentedAt depth doc :: itemLines depth rest

def memberLines (depth : Nat) : List (String × Json) → List String
  | [] => []
  | (name, doc) :: rest => (stringText name ++ ": " ++ indentedAt depth doc) :: memberLines depth rest

end

/-- Two blanks of margin per level. -/
def indented (doc : Json) : String := indentedAt 0 doc

mutual

def shown : Json → String
  | .null => "None"
  | .bool b => if b then "True" else "False"
  | .num n => n.text
  | .str s => quote s
  | .arr items => "[" ++ ", ".intercalate (itemsShown items) ++ "]"
  | .obj members => "\x7b" ++ ", ".intercalate (membersShown members) ++ "\x7d"

def itemsShown : List Json → List String
  | [] => []
  | doc :: rest => doc.shown :: itemsShown rest

def membersShown : List (String × Json) → List String
  | [] => []
  | (name, doc) :: rest => (quote name ++ ": " ++ doc.shown) :: membersShown rest

end

/-- A text stands for itself where a message speaks of it; all else is shown. -/
def plain : Json → String
  | .str s => s
  | doc => doc.shown

/-- The length of the one-line text counts its characters, all of them basic ones. -/
def textLength (doc : Json) : Nat := doc.text.length

end Json

end Conductor
