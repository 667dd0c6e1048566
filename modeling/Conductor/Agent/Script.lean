import Conductor.Agent.Response
import Conductor.Failure

/-! Agents as the engine sees them: what a call does to the world and how it ends. -/

namespace Conductor

inductive Outcome where
  | fails (e : Raised)
  | replies (envelope : Json)

/-- A call takes time, may cancel a run, and then ends. One that echoes hands back its payload as data. -/
structure Behaviour where
  advance : Int := 0
  cancels : Option String := none
  echoes : Bool := false
  outcome : Outcome

/-- An operation of an agent: what its call with that number, counted from nought, does with a payload. -/
abbrev Script := Nat → Json → Behaviour

structure Call where
  agent : String
  operation : String
  payload : Json

namespace Behaviour

def envelope (data : Json) (cost : Json) : Json :=
  .obj [("data", data), ("usage", .obj [("costUsd", cost)])]

/-- Answers with its payload. -/
def echo (cost : Float) (payload : Json) : Behaviour :=
  { echoes := true, outcome := .replies (envelope payload (.real cost)) }

end Behaviour

namespace Script

/-- The behaviours in turn, the last one for ever. -/
def ofList (first : Json → Behaviour) (more : List (Json → Behaviour)) : Script := fun n payload =>
  ((first :: more)[n]?.getD ((first :: more).getLast (by simp))) payload

end Script

end Conductor
