import Conductor.Json.Order
import Conductor.Output
import Conductor.Text.Digit

/-! Expressions read a value out of the input of a run or out of the outputs of its earlier steps, and may
compare it with another. A predicate has the same form over a value that is given, its subject. -/

namespace Conductor

inductive Source where
  | input
  | steps
  | subject
  deriving DecidableEq, Repr

inductive Accessor where
  | member (name : String)
  | index (n : Int)
  | key (name : String)
  | filter (field : List String) (op : Comparison) (value : Json)
  deriving Inhabited

inductive Operand where
  | literal (value : Json)
  | path (source : Source) (accessors : List Accessor)
  deriving Inhabited

inductive Expression where
  | operand (o : Operand)
  | comparison (left : Operand) (op : Comparison) (right : Operand)
  deriving Inhabited

namespace Json

/-- An item counted from the front, or from the back when the number is negative. -/
def itemAt (items : List Json) (n : Int) : Json :=
  if 0 ≤ n then items.getD n.toNat .null
  else if -(items.length : Int) ≤ n then items.getD (items.length + n).toNat .null
  else .null

/-- A member by name. The length of a text, a list or an object is its member `length`, unless the object
has one of its own; digits name an item of a list. -/
def member (doc : Json) (name : String) : Json :=
  match doc with
  | .obj members =>
    match Assoc.get? members name with
    | some value => value
    | none => if name = "length" then .int members.length else .null
  | .arr items =>
    if name = "length" then .int items.length
    else if name ≠ "" && name.toList.all isDecimal then itemAt items (digitsValue name.toList)
    else .null
  | .str s => if name = "length" then .int s.length else .null
  | _ => .null

/-- A number picks an item of a list; of an object, the member that it spells. -/
def index (doc : Json) (n : Int) : Json :=
  match doc with
  | .obj members => (Assoc.get? members (toString n)).getD .null
  | .arr items => itemAt items n
  | _ => .null

def key (doc : Json) (name : String) : Json :=
  match doc with
  | .obj members => (Assoc.get? members name).getD .null
  | _ => .null

/-- Follows members one by one; nothing lies beyond an absent value. -/
def memberPath (doc : Json) : List String → Json
  | [] => doc
  | name :: rest => if doc.isNull then .null else memberPath (doc.member name) rest

end Json

/-- What an accessor makes of a value that is present. -/
def Accessor.apply (a : Accessor) (doc : Json) : Json :=
  match a with
  | .member name => doc.member name
  | .index n => doc.index n
  | .key name => doc.key name
  | .filter field op value =>
    match doc with
    | .arr items => .arr (items.filter fun item => Json.compareBy op (item.memberPath field) value)
    | _ => .null

def walk (doc : Json) : List Accessor → Json
  | [] => doc
  | a :: rest => if doc.isNull then .null else walk (a.apply doc) rest

theorem walk_null (path : List Accessor) : walk .null path = .null := by
  cases path <;> simp [walk, Json.isNull]

/-- The values that paths start from. While a run is under way the table of steps is still open: `levels`
are the writes that it is made up of, the nearest first. -/
structure View where
  input : Json := .null
  steps : Json := .null
  subject : Json := .null
  levels : List (Assoc Output) := []
  deriving Inhabited

def View.read (view : View) : Source → Json
  | .input => view.input
  | .steps => view.steps
  | .subject => view.subject

def Operand.evaluate (view : View) : Operand → Json
  | .literal value => value
  | .path source accessors => walk (view.read source) accessors

def Expression.evaluate (view : View) : Expression → Json
  | .operand o => o.evaluate view
  | .comparison left op right =>
    .bool (Json.compareBy op (left.evaluate view) (right.evaluate view))

/-! Open tables -/

/-- The places in the steps of a view that hold the table of steps, the table itself first. -/
def View.tables (view : View) : List Place :=
  if view.levels.isEmpty then []
  else [] :: (Output.table (view.levels.foldr (fun top acc => Assoc.overlay acc top) [])).tables

def Accessor.name? : Accessor → Option String
  | .member name => some name
  | .index n => some (toString n)
  | .key name => some name
  | .filter .. => none

/-- What is left of places where accessors lead. -/
def Place.along (places : List Place) : List Accessor → List Place
  | [] => places
  | a :: rest =>
    match a.name? with
    | some name => along (Place.below name places) rest
    | none => []

/-- The places in the value of an operand that hold the table of steps. -/
def Operand.tables (view : View) : Operand → List Place
  | .path .steps accessors => Place.along view.tables accessors
  | _ => []

def Expression.tables (view : View) : Expression → List Place
  | .operand o => o.tables view
  | .comparison .. => []

/-- The value of an expression as an output. -/
def Expression.output (view : View) (e : Expression) : Output := ⟨e.evaluate view, e.tables view⟩

/-! Names of members that are too long for a number -/

/-- The length of the first of the names that asks a list for an item by too many digits. -/
def Json.longMember? (doc : Json) : List String → Option Nat
  | [] => none
  | name :: rest =>
    let asksItem := match doc with
      | .arr _ => maxDigits < name.length && name.toList.all isDecimal
      | _ => false
    if asksItem then some name.length else longMember? (doc.member name) rest

/-- What a filter meets when it asks the items of a list. -/
def Accessor.longMember? (a : Accessor) (doc : Json) : Option Nat :=
  match a, doc with
  | .filter field _ _, .arr items => items.findSome? (·.longMember? field)
  | _, _ => none

def longMember? (doc : Json) : List Accessor → Option Nat
  | [] => none
  | a :: rest => (a.longMember? doc).or (longMember? (a.apply doc) rest)

def Operand.longMember? (view : View) : Operand → Option Nat
  | .literal _ => none
  | .path source accessors => Conductor.longMember? (view.read source) accessors

def Expression.longMember? (view : View) : Expression → Option Nat
  | .operand o => o.longMember? view
  | .comparison left _ right => (left.longMember? view).or (right.longMember? view)

/-! References -/

/-- The step whose entry a path reads: its first accessor names it. A number names no step. -/
def Operand.reference? : Operand → Option String
  | .path .steps (.member name :: _) => some name
  | .path .steps (.key name :: _) => some name
  | _ => none

def Expression.references : Expression → List String
  | .operand o => o.reference?.toList
  | .comparison left _ right => left.reference?.toList ++ right.reference?.toList

end Conductor
