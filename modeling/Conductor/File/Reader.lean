import Conductor.File.Quoted
import Conductor.Json.Writer
import Conductor.Text.Numeral

/-! Reading a document from a file. Lists and objects stand in brackets, as in a document on one line, but words
need no quotes, a comma may come last, and a value may be left out. A sharp begins a comment. A file without
brackets is a single word. -/

namespace Conductor

namespace File

def isAllowed (c : Char) : Bool :=
  c = '\t' || c = '\n' || c = '\r' || (' ' ≤ c && c ≤ '~') || c = '\u0085' ||
    ('\u00a0' ≤ c && c ≤ '\ufffd') || '\uffff' < c

/-- Drops blanks, line breaks and comments. -/
def skip (inComment : Bool) : List Char → List Char
  | [] => []
  | c :: rest =>
    if isBreak c then skip false rest
    else if inComment then skip true rest
    else if c = ' ' then skip false rest
    else if c = '#' then skip true rest
    else c :: rest

/-! Words -/

def isBracket (c : Char) : Bool := c = '[' || c = ']' || c = '{' || c = '}'

def endsOrBlank (rest : List Char) : Bool := rest.head?.all fun c => isPad c || isBreak c

/-- A colon ends a word when nothing of the word can follow it. -/
def endsKey (rest : List Char) : Bool := endsOrBlank rest || rest.head?.any fun c => c = ',' || isBracket c

/-- A word that has no quotes, with what follows it. It may hold blanks. -/
def word : List Char → List Char × List Char
  | [] => ([], [])
  | c :: rest =>
    if c = '\t' || isBreak c || c = ',' || c = '?' || isBracket c || (c = ':' && endsKey rest) ||
        (c = ' ' && (rest.dropWhile (· = ' ')).head? = some '#') then ([], c :: rest)
    else (c :: (word rest).1, (word rest).2)

/-- Whether a word can begin here. -/
def startsWord : List Char → Bool
  | [] => false
  | '-' :: rest => !endsOrBlank rest
  | c :: _ => !(isPad c || isBreak c || isBracket c || "?:,#&*!|>'\"%@\x60".toList.contains c)

def isDigitOrGap (c : Char) : Bool := c.isDigit || c = '_'

/-- A whole number, in which underscores do not count. -/
def whole? (cs : List Char) : Option (Except FileFlaw Int) :=
  let (negative, body) := splitSign cs
  match body with
  | '0' :: [] => some (.ok 0)
  | c :: rest =>
    if '1' ≤ c && c ≤ '9' && rest.all isDigitOrGap then
      let digits := body.filter (· ≠ '_')
      if maxDigits < digits.length then some (.error .longNumber)
      else (basicDigits? digits).map fun n => .ok (if negative then -(n : Int) else n)
    else none
  | [] => none

/-- An exponent, which must have a sign. -/
def isExponent : List Char → Bool
  | [] => true
  | e :: s :: digits =>
    (e = 'e' || e = 'E') && (s = '-' || s = '+') && !digits.isEmpty && digits.all Char.isDigit
  | _ => false

/-- A number with a point. -/
def pointed? (cs : List Char) : Option Float :=
  let (negative, body) := splitSign cs
  match splitAtFirst (· = '.') body with
  | (before, some after) =>
    let places := after.takeWhile isDigitOrGap
    let begins := match before with
      | c :: more => c.isDigit && more.all isDigitOrGap
      | [] => body.length = cs.length && places.head?.any Char.isDigit
    if begins && isExponent (after.drop places.length) then
      (readUnsigned (body.filter (· ≠ '_'))).map (signed negative)
    else none
  | _ => none

def nullWords : List String := ["", "~", "null", "Null", "NULL"]

def trueWords : List String := ["yes", "Yes", "YES", "true", "True", "TRUE", "on", "On", "ON"]

def falseWords : List String := ["no", "No", "NO", "false", "False", "FALSE", "off", "Off", "OFF"]

/-- What a word without quotes stands for. -/
def meaning (cs : List Char) : Except FileFlaw Json :=
  let w := String.ofList cs
  let (negative, size) := splitSign cs
  if w ∈ nullWords then .ok .null
  else if w ∈ trueWords then .ok (.bool true)
  else if w ∈ falseWords then .ok (.bool false)
  else if w ∈ [".nan", ".NaN", ".NAN"] then .ok (.real (0.0 / 0.0))
  else if String.ofList size ∈ [".inf", ".Inf", ".INF"] then .ok (.real (signed negative (1.0 / 0.0)))
  else match whole? cs with
    | some result => result.map Json.int
    | none => .ok ((pointed? cs).elim (.str w) Json.real)

/-! Values -/

def dropEndPads (cs : List Char) : List Char := (cs.reverse.dropWhile isPad).reverse

/-- A quoted text or a word. -/
def scalar (cs : List Char) : Except FileFlaw (Json × List Char) :=
  match cs with
  | [] => .error .badOrder
  | c :: rest =>
    if c = '"' || c = '\'' then
      (quoted c rest).map fun out => (.str (String.ofList out.1), out.2)
    else if startsWord cs then (meaning (dropEndPads (word cs).1)).map fun doc => (doc, (word cs).2)
    else if "[]\x7b\x7d,:?-".toList.contains c then .error .badOrder
    else .error .badToken

/-- The flaw of a file in which something else should stand here. -/
def flawAt (cs : List Char) : FileFlaw :=
  match scalar cs with
  | .error .badToken => .badToken
  | _ => .badOrder

/-- The colon of a key stands on the same line, and so many characters after its start at most. -/
def keyWidth : Nat := 1024

/-- What follows the colon of the key that was read from `start` up to `rest`. -/
def afterColon? (start rest : List Char) : Option (List Char) :=
  match rest.dropWhile (· = ' ') with
  | ':' :: left =>
    let width := start.length - (left.length + 1)
    if width ≤ keyWidth && !(start.take width).any isBreak then some left else none
  | _ => none

/-- A key is kept as a text. -/
def keyName : Json → String
  | .str s => s
  | doc => doc.plain

mutual

def value (fuel : Nat) (cs : List Char) : Except FileFlaw (Json × List Char) :=
  match fuel with
  | 0 => .error .badOrder
  | fuel + 1 =>
    match cs with
    | '[' :: rest => (items fuel (skip false rest)).map fun out => (.arr out.1, out.2)
    | '{' :: rest => (members fuel (skip false rest)).map fun out => (Json.object out.1, out.2)
    | _ => scalar cs

/-- The value of a key; null where a comma or a bracket stands in its place. -/
def valueOrNull (fuel : Nat) (cs : List Char) : Except FileFlaw (Json × List Char) :=
  match fuel with
  | 0 => .error .badOrder
  | fuel + 1 =>
    match cs with
    | ',' :: _ => .ok (.null, cs)
    | '}' :: _ => .ok (.null, cs)
    | ']' :: _ => .ok (.null, cs)
    | _ => value fuel cs

/-- An item of a list; a key with a value is an object of its own. -/
def item (fuel : Nat) (cs : List Char) : Except FileFlaw (Json × List Char) :=
  match fuel with
  | 0 => .error .badOrder
  | fuel + 1 =>
    match value fuel cs with
    | .error e => .error e
    | .ok (doc, rest) =>
      match afterColon? cs rest with
      | some left =>
        (valueOrNull fuel (skip false left)).map fun out => (.obj [(keyName doc, out.1)], out.2)
      | none => .ok (doc, rest)

def items (fuel : Nat) (cs : List Char) : Except FileFlaw (List Json × List Char) :=
  match fuel with
  | 0 => .error .badOrder
  | fuel + 1 =>
    match cs with
    | ']' :: rest => .ok ([], rest)
    | _ =>
      match item fuel cs with
      | .error e => .error e
      | .ok (doc, rest) =>
        match skip false rest with
        | ',' :: left => (items fuel (skip false left)).map fun out => (doc :: out.1, out.2)
        | ']' :: left => .ok ([doc], left)
        | left => .error (flawAt left)

/-- A key with its value; a key alone has none. -/
def member (fuel : Nat) (cs : List Char) : Except FileFlaw ((String × Json) × List Char) :=
  match fuel with
  | 0 => .error .badOrder
  | fuel + 1 =>
    match scalar cs with
    | .error e => .error e
    | .ok (key, rest) =>
      match afterColon? cs rest with
      | some left =>
        (valueOrNull fuel (skip false left)).map fun out => ((keyName key, out.1), out.2)
      | none => .ok ((keyName key, .null), rest)

def members (fuel : Nat) (cs : List Char) : Except FileFlaw (Members × List Char) :=
  match fuel with
  | 0 => .error .badOrder
  | fuel + 1 =>
    match cs with
    | '}' :: rest => .ok ([], rest)
    | _ =>
      match member fuel cs with
      | .error e => .error e
      | .ok (entry, rest) =>
        match skip false rest with
        | ',' :: left => (members fuel (skip false left)).map fun out => (entry :: out.1, out.2)
        | '}' :: left => .ok ([entry], left)
        | left => .error (flawAt left)

end

/-- Brackets that are open and not yet closed, the innermost first; none when one is closed that is not
open, or a quoted text does not end. -/
def openBrackets (mark : Option Char) (stack : List Char) : List Char → Option (List Char)
  | [] => if mark.isSome then none else some stack
  | c :: rest =>
    match mark with
    | some q => openBrackets (if c = q then none else some q) stack rest
    | none =>
      if c = '"' || c = '\'' then openBrackets (some c) stack rest
      else if c = '[' then openBrackets none (']' :: stack) rest
      else if c = '{' then openBrackets none ('}' :: stack) rest
      else if c = ']' || c = '}' then
        match stack with
        | top :: stack => if c = top then openBrackets none stack rest else none
        | [] => none
      else openBrackets none stack rest

/-- A file that begins with no bracket and no quote is one word; its brackets must be closed all the same. -/
def wordDocument (cs : List Char) : Except FileFlaw Json :=
  if !startsWord cs then .error (flawAt cs)
  else if openBrackets none [] cs = some [] then meaning (dropEndPads (word cs).1)
  else .error .badOrder

def read (content : String) : Except FileFlaw Json :=
  if !content.toList.all isAllowed then .error .unprintable
  else
    let cs := match content.toList with
      | '\ufeff' :: rest => skip false rest
      | cs => skip false cs
    match cs with
    | [] => .ok .null
    | c :: _ =>
      if c = '[' || c = '{' || c = '"' || c = '\'' then
        match value (5 * cs.length + 5) cs with
        | .error e => .error e
        | .ok (doc, rest) =>
          match skip false rest with
          | [] => .ok doc
          | left => .error (flawAt left)
      else wordDocument cs

end File

end Conductor
