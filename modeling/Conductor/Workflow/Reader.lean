import Conductor.Reading
import Conductor.Workflow.Step

/-! Reading definitions out of documents. The kind of a step decides which fields it has; other members are
passed over. -/

namespace Conductor

open Reading

def Rule.read : Json → Reading Rule :=
  record fun members =>
    Rule.mk <$> required members "field" text
      <*> optional members ["condition"] text ""
      <*> required members "message" text

def Combine.read : Json → Reading Combine
  | .str s =>
    match ofName? s with
    | some c => done c
    | none => fail .notListed
  | _ => fail .notListed

namespace Step

def readRules : Json → Reading (List Rule) :=
  record fun members => optional members ["rules"] (list Rule.read) []

def readOutputKey (members : Members) : Reading (Option String) :=
  optional members ["outputKey", "output_key"] textOrNull none

/-- Reads the fields of a step of a known kind; `nested` holds the steps in the lists among its members. -/
def ofMembers (members : Members) (nested : Assoc (Reading (List Step))) :
    StepKind → Reading Step
  | .agent =>
    agent <$> required members "id" text
      <*> required members "agent" text
      <*> required members "operation" text
      <*> optional members ["input"] object []
      <*> readOutputKey members
  | .condition =>
    condition <$> required members "id" text
      <*> required members "condition" text
      <*> optional nested ["then"] (fun steps => steps) []
      <*> optional nested ["else", "else_"] (fun steps => steps) []
  | .parallel =>
    parallel <$> required members "id" text
      <*> optional nested ["branches"] (fun steps => steps) []
  | .aggregate =>
    aggregate <$> required members "id" text
      <*> optional members ["sources"] (list text) []
      <*> optional members ["aggregateFunction", "aggregate_function"] Combine.read .merge
      <*> readOutputKey members
  | .transform =>
    transform <$> required members "id" text
      <*> optional members ["transform"] object []
      <*> readOutputKey members
  | .validate =>
    validate <$> required members "id" text
      <*> optional members ["validation"] readRules []

/-- Reads the fields of the kind that a step claims to be. -/
def ofVariant (members : Members) (nested : Assoc (Reading (List Step))) : Reading Step :=
  match Assoc.get? members "type" with
  | none => fail .noVariant
  | some (.str s) =>
    match StepKind.ofName? s with
    | some kind => (ofMembers members nested kind).below s
    | none => fail .unknownVariant
  | some _ => fail .unknownVariant

mutual

def read : Json → Reading Step
  | .obj members => ofVariant members (readNested members)
  | _ => fail .notVariant

def readAll : Json → Reading (List Step)
  | .arr items => readItems 0 items
  | _ => fail .notList

def readItems (n : Nat) : List Json → Reading (List Step)
  | [] => done []
  | doc :: rest => List.cons <$> (read doc).below (toString n) <*> readItems (n + 1) rest

/-- Every member read as a list of steps, whether or not steps belong there. -/
def readNested : List (String × Json) → Assoc (Reading (List Step))
  | [] => []
  | (name, doc) :: rest => (name, readAll doc) :: readNested rest

end

theorem get?_readNested (members : List (String × Json)) (name : String) :
    Assoc.get? (readNested members) name = (Assoc.get? members name).map readAll := by
  induction members with
  | nil => simp [readNested]
  | cons entry rest ih =>
    obtain ⟨k, doc⟩ := entry
    by_cases h : k = name <;> simp [readNested, Assoc.get?, h, ih]

end Step

namespace Definition

/-- Reads a definition; one that has no id gets `fresh`. -/
def read (fresh : String) : Json → Reading Definition :=
  record fun members =>
    Definition.mk <$> optional members ["id"] text fresh
      <*> required members "name" text
      <*> optional members ["description"] textOrNull none
      <*> optional members ["steps"] Step.readAll []

/-- Whether reading a document takes a fresh id. -/
def needsId : Json → Bool
  | .obj members => !Assoc.has members "id"
  | _ => false

end Definition

end Conductor
