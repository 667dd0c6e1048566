import Conductor.Catalog
import Conductor.Config
import Conductor.Template

/-! What a run of a workflow would cost at most: every agent step counts once, those of both sides of a
condition too. Nothing is called; what steps would read from earlier ones is taken to be absent. -/

namespace Conductor

structure StepEstimate where
  step : String
  agent : String
  cost : Float
  tokens : Nat

structure Estimate where
  workflow : String
  cost : Float
  tokens : Nat
  breakdown : List StepEstimate

namespace Estimate

def charsPerToken : Nat := 4

/-- Instructions that go along with every call. -/
def overheadTokens : Nat := 500

def places : Nat := 6

/-- Counts a token for every four characters of the text of a document, the last one rounded up. -/
def countTokens (doc : Json) : Nat := (doc.textLength + (charsPerToken - 1)) / charsPerToken

def price (p : Pricing) (inputTokens outputTokens : Nat) : Float :=
  (Float.ofNat inputTokens * p.input + Float.ofNat outputTokens * p.output) / 1000000.0

def ofCall (p : Pricing) (step agent : String) (payload : Json) : StepEstimate :=
  let inputTokens := countTokens payload + overheadTokens
  let outputTokens := Catalog.answerTokens agent
  { step, agent
    cost := roundPlaces places (price p inputTokens outputTokens)
    tokens := inputTokens + outputTokens }

def ofSteps (p : Pricing) (view : View) : List Step → Except ParseError (List StepEstimate)
  | [] => .ok []
  | .agent id agent _ input _ :: rest => do
    let payload ← Template.resolve view (.obj input)
    let others ← ofSteps p view rest
    return ofCall p id agent payload :: others
  | _ :: rest => ofSteps p view rest

def ofDefinition (c : Config) (d : Definition) (input : Json) : Except ParseError Estimate := do
  let breakdown ← ofSteps (c.pricingFor none) { input := input, steps := .obj [] } d.flat
  return {
    workflow := d.id
    cost := roundPlaces places ((breakdown.map StepEstimate.cost).foldl (· + ·) 0.0)
    tokens := (breakdown.map StepEstimate.tokens).foldl (· + ·) 0
    breakdown }

end Estimate

end Conductor
