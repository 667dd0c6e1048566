import Conductor.Text.Name

/-! Reading quoted literals. A backslash starts an escape, and a bare line break is an error. -/

namespace Conductor

def isOctalDigit (c : Char) : Bool := '0' ≤ c && c ≤ '7'

def simpleEscape? (c : Char) : Option Char :=
  match c with
  | '\\' => some '\\'
  | '\'' => some '\''
  | '"' => some '"'
  | 'a' => some '\x07'
  | 'b' => some '\x08'
  | 'f' => some '\x0c'
  | 'n' => some '\n'
  | 'r' => some '\r'
  | 't' => some '\t'
  | 'v' => some '\x0b'
  | _ => none

/-- Reads the name of a character in braces. -/
def readNamed (rest : List Char) : Option (List Char × { r : List Char // r.length ≤ rest.length }) :=
  match rest with
  | '{' :: body =>
    let name := body.takeWhile (· ≠ '}')
    if name.length < body.length then
      (charNamed? name).map fun c => ([c], ⟨body.drop (name.length + 1), by simp; omega⟩)
    else none
  | _ => none

/-- Reads the escape that `c` begins, after its backslash. An unknown escape stands for itself. -/
def readEscape (c : Char) (rest : List Char) :
    Option (List Char × { r : List Char // r.length ≤ rest.length }) :=
  if c = '\n' then some ([], ⟨rest, Nat.le_refl _⟩)
  else if c = 'x' then readHex 2 rest
  else if c = 'u' then readHex 4 rest
  else if c = 'U' then readHex 8 rest
  else if c = 'N' then readNamed rest
  else if isOctalDigit c then
    let more := (rest.take 2).takeWhile isOctalDigit
    let n := (c :: more).foldl (fun n d => 8 * n + (d.toNat - 48)) 0
    some ([charOf n], ⟨rest.drop more.length, by simp⟩)
  else match simpleEscape? c with
    | some d => some ([d], ⟨rest, Nat.le_refl _⟩)
    | none => some (['\\', c], ⟨rest, Nat.le_refl _⟩)

/-- Every line break is one line feed. -/
def plainBreaks : List Char → List Char
  | [] => []
  | '\r' :: '\n' :: rest => '\n' :: plainBreaks rest
  | c :: rest => (if c = '\r' then '\n' else c) :: plainBreaks rest

def unescape : List Char → Option (List Char)
  | [] => some []
  | ['\\'] => none
  | '\\' :: c :: rest =>
    match readEscape c rest with
    | none => none
    | some (cs, ⟨tail, _⟩) => (unescape tail).map (cs ++ ·)
  | c :: rest => if c = '\n' then none else (unescape rest).map (c :: ·)
termination_by cs => cs.length

inductive LiteralError where
  | malformed
  | zeroCharacter
  deriving DecidableEq, Repr

/-- Reads a literal with its quotes on. It may not hold the character zero, and is malformed when an escape is
or when a line breaks inside. -/
def unquote (literal : String) : Except LiteralError String :=
  let body := (literal.toList.drop 1).dropLast
  if body.contains '\x00' then .error .zeroCharacter
  else match unescape (plainBreaks body) with
    | some cs => .ok (String.ofList cs)
    | none => .error .malformed

end Conductor
