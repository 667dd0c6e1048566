import Conductor.Reading

/-! The envelope that every agent answers with: its data, and what the call used. -/

namespace Conductor

/-- Members of the document that no field goes by are kept. -/
structure Usage where
  inputTokens : Int := 0
  outputTokens : Int := 0
  cacheReadTokens : Int := 0
  cacheCreationTokens : Int := 0
  cost : Float := 0.0
  model : Option String := none
  duration : Int := 0
  extra : Members := []

structure Response where
  data : Json := .null
  usage : Usage := {}

namespace Usage

open Reading

/-- The two names that each field goes by. -/
def fieldNames : List (List String) := [
  ["inputTokens", "input_tokens"], ["outputTokens", "output_tokens"],
  ["cacheReadTokens", "cache_read_tokens"], ["cacheCreationTokens", "cache_creation_tokens"],
  ["costUsd", "cost_usd"], ["model"], ["durationMs", "duration_ms"]]

/-- The names that the fields were read from. -/
def usedNames (members : Members) : List String :=
  fieldNames.filterMap fun names => (find members names).map Prod.fst

def extraOf (members : Members) : Members :=
  members.filter fun entry => entry.1 ∉ usedNames members

def ofMembers (members : Members) : Reading Usage :=
  Usage.mk <$> optional members ["inputTokens", "input_tokens"] whole 0
    <*> optional members ["outputTokens", "output_tokens"] whole 0
    <*> optional members ["cacheReadTokens", "cache_read_tokens"] whole 0
    <*> optional members ["cacheCreationTokens", "cache_creation_tokens"] whole 0
    <*> optional members ["costUsd", "cost_usd"] real 0.0
    <*> optional members ["model"] textOrNull none
    <*> optional members ["durationMs", "duration_ms"] whole 0
    <*> done (extraOf members)

def toJson (u : Usage) : Json :=
  .obj (Assoc.overlay [
    ("inputTokens", .int u.inputTokens), ("outputTokens", .int u.outputTokens),
    ("cacheReadTokens", .int u.cacheReadTokens),
    ("cacheCreationTokens", .int u.cacheCreationTokens), ("costUsd", .real u.cost),
    ("model", .optStr u.model), ("durationMs", .int u.duration)] u.extra)

end Usage

namespace Response

open Reading

def read : Json → Reading Response :=
  record fun members =>
    Response.mk <$> optional members ["data"] done .null
      <*> optional members ["usage"] (record Usage.ofMembers) {}

def toJson (r : Response) : Json := .obj [("data", r.data), ("usage", r.usage.toJson)]

end Response

end Conductor
