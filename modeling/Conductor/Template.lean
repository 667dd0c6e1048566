import Conductor.Expression.Parse
import Conductor.Json.Writer

/-! Templates: text with placeholders, each an expression between `${` and `}`. A template that is one
placeholder and nothing else stands for the value itself; any other stands for text. -/

namespace Conductor

/-- A piece of a template before its expressions are read. -/
inductive Piece where
  | text (cs : List Char)
  | hole (cs : List Char)
  deriving DecidableEq, Repr

def Piece.source : Piece → List Char
  | .text cs => cs
  | .hole cs => '$' :: '{' :: cs ++ ['}']

inductive Part where
  | text (s : String)
  | hole (e : Expression)
  deriving Inhabited

abbrev Template := List Part

namespace Template

/-- Splits at the first `${`, which goes with neither part. -/
def breakHole : List Char → List Char × Option (List Char)
  | [] => ([], none)
  | '$' :: '{' :: rest => ([], some rest)
  | c :: rest => (c :: (breakHole rest).1, (breakHole rest).2)

/-- Splits at the `}` that ends a placeholder. One inside quotes does not count, and inside quotes a
backslash takes the next character along. -/
def breakClose (quoted : Option Char) : List Char → Option (List Char × List Char)
  | [] => none
  | c :: rest =>
    match quoted with
    | some q =>
      if c = '\\' then
        match rest with
        | [] => none
        | d :: more => (breakClose (some q) more).map fun out => (c :: d :: out.1, out.2)
      else
        (breakClose (if c = q then none else some q) rest).map fun out => (c :: out.1, out.2)
    | none =>
      if c = '}' then some ([], rest)
      else
        (breakClose (if c = '"' || c = '\'' then some c else none) rest).map fun out =>
          (c :: out.1, out.2)

theorem breakHole_length {cs rest : List Char} (h : (breakHole cs).2 = some rest) :
    rest.length < cs.length := by
  fun_induction breakHole cs with
  | case1 => simp at h
  | case2 tail =>
    simp only [Option.some.injEq] at h
    subst h
    simp only [List.length_cons]
    omega
  | case3 c tail _ ih =>
    have := ih h
    simp only [List.length_cons]
    omega

theorem breakClose_length {quoted : Option Char} {cs body rest : List Char}
    (h : breakClose quoted cs = some (body, rest)) : rest.length < cs.length := by
  fun_induction breakClose quoted cs generalizing body rest with
  | case1 => simp at h
  | case2 => simp at h
  | case3 q d more ih =>
    obtain ⟨⟨b, r⟩, hb, he⟩ := Option.map_eq_some_iff.1 h
    simp only [Prod.mk.injEq] at he
    have := ih hb
    simp only [List.length_cons, ← he.2]
    omega
  | case4 c tail q _ ih =>
    obtain ⟨⟨b, r⟩, hb, he⟩ := Option.map_eq_some_iff.1 h
    simp only [Prod.mk.injEq] at he
    have := ih hb
    simp only [List.length_cons, ← he.2]
    omega
  | case5 tail =>
    simp only [Option.some.injEq, Prod.mk.injEq] at h
    simp [h.2]
  | case6 c tail _ ih =>
    obtain ⟨⟨b, r⟩, hb, he⟩ := Option.map_eq_some_iff.1 h
    simp only [Prod.mk.injEq] at he
    have := ih hb
    simp only [List.length_cons, ← he.2]
    omega

def textPiece (cs : List Char) : List Piece :=
  if cs.isEmpty then [] else [.text cs]

/-- The pieces of a template; none when a placeholder does not end. -/
def split (cs : List Char) : Option (List Piece) :=
  match _h : (breakHole cs).2 with
  | none => some (textPiece (breakHole cs).1)
  | some rest =>
    match _hc : breakClose none rest with
    | none => none
    | some (body, after) =>
      (split after).map fun pieces => textPiece (breakHole cs).1 ++ .hole body :: pieces
termination_by cs.length
decreasing_by
  have := breakHole_length _h
  have := breakClose_length _hc
  omega

/-- Whether a text has any placeholder, ended or not. -/
def hasHole (s : String) : Bool := (breakHole s.toList).2.isSome

def compilePiece : Piece → Except ParseError Part
  | .text cs => .ok (.text (String.ofList cs))
  | .hole cs => (Expression.parse (trim (String.ofList cs))).map .hole

def compile (s : String) : Except ParseError Template :=
  match split s.toList with
  | none => .error (.unterminated s)
  | some pieces => pieces.mapM compilePiece

/-- The one expression of a template that is nothing else. -/
def single? : Template → Option Expression
  | [.hole e] => some e
  | _ => none

def expressions (t : Template) : List Expression :=
  t.filterMap fun
    | .text _ => none
    | .hole e => some e

/-- How a value stands inside text: an absent one leaves nothing. -/
def inText : Json → String
  | .null => ""
  | .bool b => if b then "true" else "false"
  | .num n => n.text
  | .str s => s
  | doc => doc.text

/-- A table that is still open stands in text as it is shown. -/
def Part.render (view : View) : Part → String
  | .text s => s
  | .hole e => inText ((e.output view).closed view.levels)

def evaluate (view : View) (t : Template) : Json :=
  match t.single? with
  | some e => e.evaluate view
  | none => .str (String.join (t.map (Part.render view)))

/-- The value of an expression, unless a filter in it asks for an item by too many digits. -/
def checked (view : View) (e : Expression) : Except ParseError Json :=
  match e.longMember? view with
  | some digits => .error (.longNumber digits)
  | none => .ok (e.evaluate view)

def evaluateChecked (view : View) (t : Template) : Except ParseError Json :=
  match t.expressions.findSome? (·.longMember? view) with
  | some digits => .error (.longNumber digits)
  | none => .ok (evaluate view t)

def resolveText (view : View) (s : String) : Except ParseError Json :=
  if hasHole s then (compile s).bind (evaluateChecked view) else .ok (.str s)

mutual

/-- Resolves every text inside a document; names of members stay as they are. -/
def resolve (view : View) : Json → Except ParseError Json
  | .str s => resolveText view s
  | .arr items => (resolveItems view items).map .arr
  | .obj members => (resolveMembers view members).map .obj
  | doc => .ok doc

def resolveItems (view : View) : List Json → Except ParseError (List Json)
  | [] => .ok []
  | doc :: rest => do
    let value ← resolve view doc
    let values ← resolveItems view rest
    return value :: values

def resolveMembers (view : View) : List (String × Json) → Except ParseError Members
  | [] => .ok []
  | (name, doc) :: rest => do
    let value ← resolve view doc
    let values ← resolveMembers view rest
    return (name, value) :: values

end

/-! Open tables -/

/-- The places where a text that is a template hands out the table of steps. -/
def textTables (view : View) (s : String) : List Place :=
  match compile s with
  | .ok t => (t.single?.map (Expression.tables view)).getD []
  | .error _ => []

mutual

/-- The places where a document, once it is resolved, holds the table of steps. -/
def tables (view : View) : Json → List Place
  | .str s => if hasHole s then textTables view s else []
  | .arr items => itemTables view 0 items
  | .obj members => memberTables view members
  | _ => []

def itemTables (view : View) (n : Nat) : List Json → List Place
  | [] => []
  | doc :: rest => Place.within (toString n) (tables view doc) ++ itemTables view (n + 1) rest

def memberTables (view : View) : List (String × Json) → List Place
  | [] => []
  | (name, doc) :: rest => Place.within name (tables view doc) ++ memberTables view rest

end

/-- Resolves the members of an object. -/
def resolveOutput (view : View) (fields : Members) : Except ParseError Output :=
  (resolve view (.obj fields)).map fun value => ⟨value, tables view (.obj fields)⟩

/-- Reads a condition or the field of a rule: a template, or an expression that stands bare. -/
def evaluateText (view : View) (s : String) : Except ParseError Json :=
  if hasHole s then resolveText view s
  else (Expression.parse (trim s)).bind (checked view)

def condition (view : View) (s : String) : Except ParseError Bool :=
  (evaluateText view s).map Json.truthy

/-- A predicate that asks for a length above nothing. -/
def asksNonEmpty : Expression → Bool
  | .comparison (.path .subject [.member name]) .above (.literal bound) =>
    name = "length" && Json.same bound (.int 0)
  | _ => false

/-- Checks the condition of a rule against a value. A text that is no comparison asks whether the value
holds, and so does a length above nothing of a value that has no length. -/
def satisfies (condition : String) (value : Json) : Except ParseError Bool :=
  let s := trim condition
  if s = "" then .ok value.truthy
  else match Expression.parsePredicate s with
    | .error e => if e.isGrammar then .ok value.truthy else .error e
    | .ok (.operand _) => .ok value.truthy
    | .ok e =>
      if asksNonEmpty e && value.size?.isNone then .ok value.truthy
      else (checked { subject := value } e).map Json.truthy

/-- The steps that the placeholders of a text read. -/
def textReferences (s : String) : Except ParseError (List String) :=
  if hasHole s then (compile s).map fun t => t.expressions.flatMap Expression.references
  else .ok []

mutual

/-- The steps that a document reads, in the order of its text. -/
def references : Json → Except ParseError (List String)
  | .str s => textReferences s
  | .arr items => itemReferences items
  | .obj members => memberReferences members
  | _ => .ok []

def itemReferences : List Json → Except ParseError (List String)
  | [] => .ok []
  | doc :: rest => do
    let first ← references doc
    let others ← itemReferences rest
    return first ++ others

def memberReferences : List (String × Json) → Except ParseError (List String)
  | [] => .ok []
  | (_, doc) :: rest => do
    let first ← references doc
    let others ← memberReferences rest
    return first ++ others

end

/-- The steps that a condition or the field of a rule reads; a blank one reads nothing. -/
def bareReferences (s : String) : Except ParseError (List String) :=
  if hasHole s then textReferences s
  else if trim s = "" then .ok []
  else (Expression.parse (trim s)).map Expression.references

/-- Each name once, in the order of their characters. -/
def sortNames (names : List String) : List String :=
  names.eraseDups.mergeSort (fun a b => decide (a ≤ b))

end Template

end Conductor
