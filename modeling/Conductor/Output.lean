import Conductor.Json.Writer

/-! What a step gives: a document. A template may also hand out the table of steps itself, which goes on growing;
an output knows the places where it holds the table. Where such an output becomes text, the table stands there
as it is shown at that time. -/

namespace Conductor

/-- The way to a part of a document: names of members, and the numbers of items as text. -/
abbrev Place := List String

namespace Place

/-- The rest of the places that lead through one part. -/
def below (name : String) (places : List Place) : List Place :=
  places.filterMap fun place => if place.head? = some name then some place.tail else none

def within (name : String) (places : List Place) : List Place := places.map (name :: ·)

end Place

structure Output where
  value : Json
  tables : List Place := []
  deriving Inhabited

instance : Coe Json Output := ⟨fun value => { value }⟩

namespace Json

mutual

/-- Puts a text at each of the places. -/
def fillAt (text : String) (places : List Place) : Json → Json
  | .arr items => if [] ∈ places then .str text else .arr (fillItems text places 0 items)
  | .obj members => if [] ∈ places then .str text else .obj (fillMembers text places members)
  | doc => if [] ∈ places then .str text else doc

def fillItems (text : String) (places : List Place) (n : Nat) : List Json → List Json
  | [] => []
  | doc :: rest => fillAt text (Place.below (toString n) places) doc :: fillItems text places (n + 1) rest

def fillMembers (text : String) (places : List Place) : List (String × Json) → List (String × Json)
  | [] => []
  | (name, doc) :: rest =>
    (name, fillAt text (Place.below name places) doc) :: fillMembers text places rest

end

mutual

/-- Shows a document with a mark at each of the places. -/
def shownAt (mark : String) (places : List Place) : Json → String
  | .arr items =>
    if [] ∈ places then mark else "[" ++ ", ".intercalate (itemsShownAt mark places 0 items) ++ "]"
  | .obj members =>
    if [] ∈ places then mark
    else "\x7b" ++ ", ".intercalate (membersShownAt mark places members) ++ "\x7d"
  | doc => if [] ∈ places then mark else doc.shown

def itemsShownAt (mark : String) (places : List Place) (n : Nat) : List Json → List String
  | [] => []
  | doc :: rest =>
    shownAt mark (Place.below (toString n) places) doc :: itemsShownAt mark places (n + 1) rest

def membersShownAt (mark : String) (places : List Place) : List (String × Json) → List String
  | [] => []
  | (name, doc) :: rest =>
    (quote name ++ ": " ++ shownAt mark (Place.below name places) doc) ::
      membersShownAt mark places rest

end

end Json

namespace Output

def ofEntries (entries : Assoc Output) : Output where
  value := .obj (entries.map fun entry => (entry.1, entry.2.value))
  tables := entries.flatMap fun entry => Place.within entry.1 entry.2.tables

def itemTables (n : Nat) : List Output → List Place
  | [] => []
  | output :: rest => Place.within (toString n) output.tables ++ itemTables (n + 1) rest

def ofItems (items : List Output) : Output where
  value := .arr (items.map Output.value)
  tables := itemTables 0 items

def itemsFrom (n : Nat) (tables : List Place) : List Json → List Output
  | [] => []
  | doc :: rest => ⟨doc, Place.below (toString n) tables⟩ :: itemsFrom (n + 1) tables rest

/-- The items of a list as outputs of their own. -/
def items (output : Output) : List Output :=
  match output.value with
  | .arr docs => itemsFrom 0 output.tables docs
  | _ => []

def values (entries : Assoc Output) : Members := entries.map fun entry => (entry.1, entry.2.value)

/-- The entry of a step in the table of steps. -/
def entry (output : Output) : Output := ofEntries [("output", output)]

/-- The table of steps that a list of entries makes up. -/
def table (entries : Assoc Output) : Output := ofEntries (entries.map fun e => (e.1, e.2.entry))

/-- The table of steps as a text, the nearest level first. The table is cut short where it holds itself. -/
def tableText : List (Assoc Output) → String
  | [] => "\x7b\x7d"
  | [top] => (table top).value.shownAt "mappingproxy(\x7b...\x7d)" (table top).tables
  | own :: outer =>
    "ChainMap(" ++ (table own).value.shownAt "mappingproxy(...)" (table own).tables ++
      ", mappingproxy(" ++ tableText outer ++ "))"

def isOpen (output : Output) : Bool := !output.tables.isEmpty

/-- The document that is left of an output once the tables in it are closed. -/
def closed (levels : List (Assoc Output)) (output : Output) : Json :=
  if output.isOpen then output.value.fillAt (tableText levels) output.tables else output.value

end Output

/-- An output as a store gets it: one that holds the table of steps comes with its closed form. -/
structure Snapshot where
  value : Json
  closed : Option Json := none
  deriving Inhabited

instance : Coe Json Snapshot := ⟨fun value => { value }⟩

/-- The document that is left where a table cannot be kept. -/
def Snapshot.stored (s : Snapshot) : Json := s.closed.getD s.value

def Output.snapshot (levels : List (Assoc Output)) (output : Output) : Snapshot :=
  ⟨output.value, if output.isOpen then some (output.closed levels) else none⟩

end Conductor
