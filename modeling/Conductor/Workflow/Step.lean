import Conductor.Json

/-! Workflows: named sequences of steps. A condition and a parallel step hold further steps, so a definition
is a tree; `Definition.flat` lists it depth first. -/

namespace Conductor

structure Rule where
  field : String
  condition : String
  message : String
  deriving DecidableEq, Repr, Inhabited

inductive Combine where
  | merge
  | concat
  | sum
  deriving DecidableEq, Repr, Inhabited

namespace Combine

def name : Combine → String
  | .merge => "merge"
  | .concat => "concat"
  | .sum => "sum"

def all : List Combine := [.merge, .concat, .sum]

def ofName? (s : String) : Option Combine := all.find? (·.name = s)

theorem ofName?_name (c : Combine) : ofName? c.name = some c := by
  cases c <;> decide

end Combine

inductive StepKind where
  | agent
  | condition
  | parallel
  | aggregate
  | transform
  | validate
  deriving DecidableEq, Repr, Inhabited

namespace StepKind

def name : StepKind → String
  | .agent => "agent"
  | .condition => "condition"
  | .parallel => "parallel"
  | .aggregate => "aggregate"
  | .transform => "transform"
  | .validate => "validate"

def all : List StepKind := [.agent, .condition, .parallel, .aggregate, .transform, .validate]

def ofName? (s : String) : Option StepKind := all.find? (·.name = s)

theorem ofName?_name (k : StepKind) : ofName? k.name = some k := by
  cases k <;> decide

end StepKind

/-- The output of a step is published under its id, and those of the agent, aggregate and transform steps
also under an output key. A validate step publishes nothing. -/
inductive Step where
  | agent (id agent operation : String) (input : List (String × Json)) (outputKey : Option String)
  | condition (id condition : String) (whenTrue whenFalse : List Step)
  | parallel (id : String) (branches : List Step)
  | aggregate (id : String) (sources : List String) (combine : Combine) (outputKey : Option String)
  | transform (id : String) (fields : List (String × Json)) (outputKey : Option String)
  | validate (id : String) (rules : List Rule)
  deriving Inhabited

namespace Step

def id : Step → String
  | agent id .. => id
  | condition id .. => id
  | parallel id .. => id
  | aggregate id .. => id
  | transform id .. => id
  | validate id .. => id

def kind : Step → StepKind
  | agent .. => .agent
  | condition .. => .condition
  | parallel .. => .parallel
  | aggregate .. => .aggregate
  | transform .. => .transform
  | validate .. => .validate

def outputKey : Step → Option String
  | agent _ _ _ _ key => key
  | aggregate _ _ _ key => key
  | transform _ _ key => key
  | _ => none

/-- An output key that is empty does not count. -/
def resultKey (step : Step) : String :=
  match step.outputKey with
  | some key => if key = "" then step.id else key
  | none => step.id

def isGate (step : Step) : Bool := step.kind = .validate

def children : Step → List Step
  | condition _ _ whenTrue whenFalse => whenTrue ++ whenFalse
  | parallel _ branches => branches
  | _ => []

mutual

def flat : Step → List Step
  | condition id test whenTrue whenFalse =>
    condition id test whenTrue whenFalse :: (flatAll whenTrue ++ flatAll whenFalse)
  | parallel id branches => parallel id branches :: flatAll branches
  | agent id name operation input key => [agent id name operation input key]
  | aggregate id sources combine key => [aggregate id sources combine key]
  | transform id fields key => [transform id fields key]
  | validate id rules => [validate id rules]

/-- The steps of a sequence, each before those that it holds. -/
def flatAll : List Step → List Step
  | [] => []
  | step :: rest => step.flat ++ flatAll rest

end

theorem flatAll_append (first second : List Step) :
    flatAll (first ++ second) = flatAll first ++ flatAll second := by
  induction first with
  | nil => simp [flatAll]
  | cons step rest ih => simp [flatAll, ih]

theorem flat_eq (step : Step) : step.flat = step :: flatAll step.children := by
  cases step <;> simp [flat, children, flatAll_append, flatAll]

def agent? : Step → Option String
  | agent _ name _ _ _ => some name
  | _ => none

end Step

structure Definition where
  id : String
  name : String
  description : Option String
  steps : List Step
  deriving Inhabited

namespace Definition

def flat (d : Definition) : List Step := Step.flatAll d.steps

/-- The agents that a workflow calls, each once, in the order of their first steps. -/
def agents (d : Definition) : List String := (d.flat.filterMap Step.agent?).eraseDups

end Definition

end Conductor
