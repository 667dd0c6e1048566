import Conductor.Agent.Response
import Conductor.Backoff
import Conductor.Catalog
import Conductor.Config
import Conductor.Failure
import Conductor.Json.Writer

/-! Agents that ask a language model. A request that fails is sent again after a wait, as often as the settings
allow; then the last error counts. -/

namespace Conductor

structure ModelUsage where
  inputTokens : Int := 0
  outputTokens : Int := 0
  cacheReadTokens : Int := 0
  cacheWriteTokens : Int := 0

inductive ModelOutcome where
  | fails (message : String)
  | answers (data : Json) (usage : ModelUsage)

structure ModelReply where
  advance : Int := 0
  outcome : ModelOutcome

structure ModelRequest where
  instructions : String
  maxTokens : Int
  temperature : Float
  prompt : String

/-- A step of a conversation: a request, or a wait before the next one. -/
inductive Exchange where
  | asked (r : ModelRequest)
  | waited (seconds : Float)

/-- A conversation with a model whose replies are known by their number. -/
structure Conversation where
  replies : Nat → ModelReply
  clock : Int := 0
  course : List Exchange := []

namespace Conversation

def requests (c : Conversation) : List ModelRequest :=
  c.course.filterMap fun
    | .asked r => some r
    | .waited _ => none

def waits (c : Conversation) : List Float :=
  c.course.filterMap fun
    | .asked _ => none
    | .waited seconds => some seconds

end Conversation

structure ModelAgent where
  name : String
  operations : List String
  model : String
  config : Config := {}
  description : String

namespace ModelAgent

def cacheReadFactor : Float := 0.1

def cacheWriteFactor : Float := 1.25

/-- An agent without a description of its own has that of the catalog. -/
def make (name : String) (operations : List String) (model : String) (config : Config)
    (description : Option String) : ModelAgent where
  name := name
  operations := operations
  model := model
  config := config
  description := (description.filter (· ≠ "")).getD (Catalog.description name)

def instructions (a : ModelAgent) (operation : String) : String :=
  s!"You are {a.name}, part of an automated software testing toolkit. {a.description}.\n" ++
    s!"Perform the '{operation}' operation on the JSON input you receive and " ++
    "reply with a single JSON object holding your result."

def request (a : ModelAgent) (operation : String) (input : Json) : ModelRequest :=
  ⟨a.instructions operation, a.config.agents.maxTokens, a.config.agents.temperature, input.indented⟩

/-- Sends a request and takes the next reply. -/
def send (r : ModelRequest) : Act Conversation ModelOutcome := do
  let c ← get
  let reply := c.replies c.requests.length
  set { c with course := c.course ++ [Exchange.asked r], clock := c.clock + reply.advance }
  return reply.outcome

/-- What a call costs: tokens read from the cache are cheaper than others, and those written dearer. -/
def cost (p : Pricing) (u : ModelUsage) : Float :=
  let uncached := max 0 (u.inputTokens - u.cacheReadTokens - u.cacheWriteTokens)
  (Float.ofInt uncached * p.input + Float.ofInt u.cacheReadTokens * p.input * cacheReadFactor
    + Float.ofInt u.cacheWriteTokens * p.input * cacheWriteFactor
    + Float.ofInt u.outputTokens * p.output) / 1000000.0

/-- The time between two readings of a clock that shows seconds. -/
def duration (start finish : Int) : Int :=
  Number.truncate ((Float.ofInt finish / 1000.0 - Float.ofInt start / 1000.0) * 1000.0)

def usage (a : ModelAgent) (u : ModelUsage) (elapsed : Int) : Usage where
  inputTokens := u.inputTokens
  outputTokens := u.outputTokens
  cacheReadTokens := u.cacheReadTokens
  cacheCreationTokens := u.cacheWriteTokens
  cost := cost (a.config.pricingFor (some a.model)) u
  model := some a.model
  duration := elapsed

/-- Sends a request until it is answered, `retries` more times at most. -/
def attempts (a : ModelAgent) (r : ModelRequest) : Nat → Nat → Act Conversation Response
  | retries, attempt => do
    let start := (← get).clock
    match ← send r with
    | .answers data used =>
      return { data, usage := a.usage used (duration start (← get).clock) }
    | .fails message =>
      match retries with
      | 0 => throw (.raised message)
      | retries + 1 =>
        let wait ← Failure.ofExcept (fun _ => .tooLarge) (Backoff.default attempt)
        modify fun c => { c with course := c.course ++ [Exchange.waited wait] }
        attempts a r retries (attempt + 1)

/-- Performs an operation, whether or not it is offered. -/
def run (a : ModelAgent) (operation : String) (input : Json) : Act Conversation Response :=
  attempts a (a.request operation input) a.config.agents.maxRetries.toNat 0

def call (a : ModelAgent) (operation : String) (input : Json) : Act Conversation Response :=
  if operation ∈ a.operations then a.run operation input
  else throw (.lookup (.notOffered a.name operation))

end ModelAgent

end Conductor
