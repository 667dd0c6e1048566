import Conductor.Workflow.Step

/-! Definitions as documents, every field present. -/

namespace Conductor

def Rule.toJson (rule : Rule) : Json :=
  .obj [("field", .str rule.field), ("condition", .str rule.condition), ("message", .str rule.message)]

namespace Step

mutual

def toJson : Step → Json
  | agent id name operation input key =>
    .obj [("id", .str id), ("type", .str "agent"), ("agent", .str name),
      ("operation", .str operation), ("input", .obj input), ("outputKey", .optStr key)]
  | condition id test whenTrue whenFalse =>
    .obj [("id", .str id), ("type", .str "condition"), ("condition", .str test),
      ("then", .arr (allToJson whenTrue)), ("else", .arr (allToJson whenFalse))]
  | parallel id branches =>
    .obj [("id", .str id), ("type", .str "parallel"), ("branches", .arr (allToJson branches))]
  | aggregate id sources combine key =>
    .obj [("id", .str id), ("type", .str "aggregate"), ("sources", .arr (sources.map .str)),
      ("aggregateFunction", .str combine.name), ("outputKey", .optStr key)]
  | transform id fields key =>
    .obj [("id", .str id), ("type", .str "transform"), ("transform", .obj fields),
      ("outputKey", .optStr key)]
  | validate id rules =>
    .obj [("id", .str id), ("type", .str "validate"),
      ("validation", .obj [("rules", .arr (rules.map Rule.toJson))])]

def allToJson : List Step → List Json
  | [] => []
  | step :: rest => step.toJson :: allToJson rest

end

end Step

def Definition.toJson (d : Definition) : Json :=
  .obj [("id", .str d.id), ("name", .str d.name), ("description", .optStr d.description),
    ("steps", .arr (Step.allToJson d.steps))]

end Conductor
