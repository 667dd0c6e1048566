import Conductor.Text.Quoted

/-! Quoted texts in files. They may go on over several lines: a line break with the blanks around it reads as one
space, and every further break is kept. The two line breaks beyond the basic set are kept always. -/

namespace Conductor

/-- What can be wrong with a file: a character that no file may have, a part that begins or ends nowhere, parts
in a wrong order, a whole number of too many digits. -/
inductive FileFlaw where
  | unprintable
  | badToken
  | badOrder
  | longNumber
  deriving DecidableEq, Repr

def FileFlaw.message : FileFlaw → String
  | .unprintable => "special characters are not allowed"
  | .badToken => "found a character that cannot start any token"
  | .badOrder => "found a token in a wrong place"
  | .longNumber => "a whole number has too many digits"

namespace File

def isBreak (c : Char) : Bool :=
  c = '\n' || c = '\r' || c = '\u0085' || c = '\u2028' || c = '\u2029'

def isPad (c : Char) : Bool := c = ' ' || c = '\t'

/-- Takes a line break off, which reads as a line feed unless it lies beyond the basic set. -/
def takeBreak : List Char → Char × List Char
  | '\r' :: '\n' :: rest => ('\n', rest)
  | c :: rest => (if c = '\u2028' || c = '\u2029' then c else '\n', rest)
  | [] => ('\n', [])

/-- Three dashes or points at the start of a line end a document. -/
def separates (cs : List Char) : Bool :=
  (cs.take 3 = ['-', '-', '-'] || cs.take 3 = ['.', '.', '.']) &&
    (match cs[3]? with
      | some c => isPad c || isBreak c
      | none => true)

/-- Takes off the line breaks that follow one, with the blanks before and after them. -/
def takeBreaks (fuel : Nat) (cs : List Char) : Except FileFlaw (List Char × List Char) :=
  match fuel with
  | 0 => .error .badToken
  | fuel + 1 =>
    if separates cs then .error .badToken
    else match cs.dropWhile isPad with
      | [] => .ok ([], [])
      | c :: rest =>
        if isBreak c then
          (takeBreaks fuel (takeBreak (c :: rest)).2).map fun out =>
            ((takeBreak (c :: rest)).1 :: out.1, out.2)
        else .ok ([], c :: rest)

/-- What a line break inside a quoted text reads as, with the breaks that follow it. -/
def fold (first : Char) (others : List Char) : List Char :=
  if first ≠ '\n' then first :: others
  else if others.isEmpty then [' ']
  else others

def escape? (c : Char) : Option Char :=
  match c with
  | '0' => some '\x00'
  | 'a' => some '\x07'
  | 'b' => some '\x08'
  | 't' => some '\t'
  | '\t' => some '\t'
  | 'n' => some '\n'
  | 'v' => some '\x0b'
  | 'f' => some '\x0c'
  | 'r' => some '\r'
  | 'e' => some '\x1b'
  | ' ' => some ' '
  | '"' => some '"'
  | '\\' => some '\\'
  | '/' => some '/'
  | 'N' => some '\u0085'
  | '_' => some '\u00a0'
  | 'L' => some '\u2028'
  | 'P' => some '\u2029'
  | _ => none

/-- How many hexadecimal digits an escape takes. -/
def escapeWidth? (c : Char) : Option Nat :=
  match c with
  | 'x' => some 2
  | 'u' => some 4
  | 'U' => some 8
  | _ => none

/-- The text up to the quote `q`, and what follows it. Only double quotes know escapes; a single quote is
written twice between single ones. -/
def quotedBody (q : Char) (fuel : Nat) (cs : List Char) : Except FileFlaw (List Char × List Char) :=
  match fuel with
  | 0 => .error .badToken
  | fuel + 1 =>
    let andThen (front : List Char) (rest : List Char) : Except FileFlaw (List Char × List Char) :=
      (quotedBody q fuel rest).map fun out => (front ++ out.1, out.2)
    match cs with
    | [] => .error .badToken
    | c :: rest =>
      if c = q then
        if q = '\'' && rest.head? = some q then andThen [q] rest.tail else .ok ([], rest)
      else if isPad c || isBreak c then
        let pads := (c :: rest).takeWhile isPad
        match (c :: rest).dropWhile isPad with
        | [] => .error .badToken
        | d :: more =>
          if isBreak d then
            match takeBreaks (fuel + 1) (takeBreak (d :: more)).2 with
            | .ok (others, left) => andThen (fold (takeBreak (d :: more)).1 others) left
            | .error e => .error e
          else andThen pads (d :: more)
      else if c = '\\' && q = '"' then
        match rest with
        | [] => .error .badToken
        | d :: more =>
          match escape? d, escapeWidth? d with
          | some decoded, _ => andThen [decoded] more
          | none, some width =>
            match readHex width more with
            | some (decoded, ⟨left, _⟩) => andThen decoded left
            | none => .error .badToken
          | none, none =>
            if isBreak d then
              match takeBreaks (fuel + 1) (takeBreak (d :: more)).2 with
              | .ok (others, left) => andThen others left
              | .error e => .error e
            else .error .badToken
      else andThen [c] rest

/-- Reads a quoted text after its first quote. -/
def quoted (q : Char) (cs : List Char) : Except FileFlaw (List Char × List Char) :=
  quotedBody q (cs.length + 1) cs

end File

end Conductor
