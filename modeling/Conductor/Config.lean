import Conductor.Reading

/-! Settings: where runs are stored, how agents call their model, and what a model costs. Settings come from a
document; a few variables of the environment go before it. -/

namespace Conductor

/-- Prices of a model per million tokens. -/
structure Pricing where
  input : Float
  output : Float

structure AgentSettings where
  model : String := "anthropic:claude-sonnet-4-20250514"
  maxTokens : Int := 4096
  temperature : Float := 0.3
  maxRetries : Int := 3

/-- The provider of a model stands before the first colon of its name and does not count for prices. -/
def bareModel (name : String) : String :=
  String.ofList ((splitAtFirst (· = ':') name.toList).2.getD name.toList)

namespace Pricing

def sonnet : Pricing := ⟨3.0, 15.0⟩

def builtin : Assoc Pricing := [
  ("claude-sonnet-4-20250514", sonnet),
  ("claude-3-5-sonnet-20241022", ⟨3.0, 15.0⟩),
  ("claude-3-5-haiku-20241022", ⟨0.80, 4.0⟩),
  ("claude-3-haiku-20240307", ⟨0.25, 1.25⟩)]

open Reading in
def read : Json → Reading Pricing :=
  record fun members => Pricing.mk <$> required members "input" real <*> required members "output" real

def toJson (p : Pricing) : Json := .obj [("input", .real p.input), ("output", .real p.output)]

end Pricing

structure Config where
  databaseUrl : Option String := none
  logLevel : String := "INFO"
  agents : AgentSettings := {}
  pricing : Assoc Pricing := Pricing.builtin

namespace Config

open Reading

def readAgents : Json → Reading AgentSettings :=
  record fun members =>
    AgentSettings.mk <$> optional members ["model"] text ({} : AgentSettings).model
      <*> optional members ["max_tokens"] whole ({} : AgentSettings).maxTokens
      <*> optional members ["temperature"] real ({} : AgentSettings).temperature
      <*> optional members ["max_retries"] whole ({} : AgentSettings).maxRetries

/-- Entries of a document add to the built-in prices or take the place of one. -/
def readPricing (doc : Json) : Reading (Assoc Pricing) :=
  if !doc.truthy then done Pricing.builtin
  else match doc with
    | .obj members =>
      membersOf Pricing.read
        (Assoc.overlay (Pricing.builtin.map fun entry => (entry.1, entry.2.toJson)) members)
    | _ => fail .notTable

def ofMembers (members : Members) : Reading Config :=
  Config.mk <$> optional members ["database_url"] textOrNull none
    <*> optional members ["log_level"] text ({} : Config).logLevel
    <*> optional members ["agents"] readAgents {}
    <*> optional members ["pricing"] readPricing Pricing.builtin

/-- An empty document stands for the defaults. -/
def read (doc : Json) : Reading Config :=
  if !doc.truthy then done {}
  else match doc with
    | .obj members => ofMembers members
    | _ => fail .notTable

def toJson (c : Config) : Json :=
  .obj [("database_url", .optStr c.databaseUrl), ("log_level", .str c.logLevel),
    ("agents", .obj [("model", .str c.agents.model), ("max_tokens", .int c.agents.maxTokens),
      ("temperature", .real c.agents.temperature), ("max_retries", .int c.agents.maxRetries)]),
    ("pricing", .obj (c.pricing.map fun entry => (entry.1, entry.2.toJson)))]

/-- The prices of a model, with or without its provider. A model without an entry costs what the configured
default model costs. -/
def pricingFor (c : Config) (model : Option String) : Pricing :=
  let name := match model with
    | some m => if m = "" then c.agents.model else m
    | none => c.agents.model
  match c.pricing.get? (bareModel name) with
  | some entry => entry
  | none => (c.pricing.get? (bareModel c.agents.model)).getD Pricing.sonnet

/-- Variables of the environment by name. -/
abbrev Environment := Assoc String

/-- The first of several variables that is set to a text. -/
def Environment.first? (env : Environment) (names : List String) : Option String :=
  names.findSome? fun name => (env.get? name).filter (· ≠ "")

def databaseVariables : List String := ["TESTPILOT_DATABASE_URL", "DATABASE_URL"]

def logLevelVariables : List String := ["TESTPILOT_LOG_LEVEL"]

def fileVariable : String := "TESTPILOT_CONFIG"

def defaultFile : String := "config.yaml"

/-- The file that holds the settings. -/
def fileName (path : Option String) (env : Environment) : String :=
  match path.filter (· ≠ "") with
  | some name => name
  | none => (env.get? fileVariable).getD defaultFile

def applyEnvironment (env : Environment) (c : Config) : Config :=
  let url := Environment.first? env databaseVariables
  let level := Environment.first? env logLevelVariables
  { c with databaseUrl := url.or c.databaseUrl, logLevel := level.getD c.logLevel }

/-- Settings out of the file that holds them, when there is one, and the environment. -/
def load (env : Environment) (file : Option Json) : Reading Config :=
  applyEnvironment env <$> match file with
    | some doc => read doc
    | none => done {}

end Config

end Conductor
