import Conductor.Workflow.Step

/-! The agents that come with the library and the workflows built from them. -/

namespace Conductor

namespace Catalog

structure AgentEntry where
  name : String
  operations : List String
  description : String
  /-- Average size of an answer, in tokens. -/
  answerTokens : Nat

def agents : List AgentEntry := [
  ⟨"TestWeaver", ["generate", "evolve", "batchGenerate"],
    "Generates structured test cases from specifications", 2000⟩,
  ⟨"ScriptSmith", ["generate", "edit"],
    "Turns test cases into executable automation scripts", 1500⟩,
  ⟨"CodeGuardian", ["generate", "analyze"],
    "Generates unit tests and reviews code for defects", 1800⟩,
  ⟨"VisualAnalysis", ["analyze"],
    "Compares screenshots against baselines for visual regressions", 2500⟩,
  ⟨"BugPattern", ["analyze", "suggestFix"],
    "Clusters failures into known bug patterns and suggests fixes", 1600⟩,
  ⟨"FlowPilot", ["generate", "chain"],
    "Generates API test flows from OpenAPI specifications", 1400⟩,
  ⟨"CodeAnalysis", ["analyze"],
    "Analyzes source code for complexity and quality issues", 2000⟩,
  ⟨"TestEvolution", ["evolve", "analyze"],
    "Tracks test suite health and suggests improvements", 1700⟩]

def agent? (name : String) : Option AgentEntry := agents.find? (·.name = name)

def defaultAnswerTokens : Nat := 1500

def answerTokens (name : String) : Nat :=
  ((agent? name).map AgentEntry.answerTokens).getD defaultAnswerTokens

/-- An agent outside the catalog is described by its name. -/
def description (name : String) : String :=
  ((agent? name).map AgentEntry.description).getD name

def call (id agent operation : String) (input : List (String × String)) (key : String) : Step :=
  .agent id agent operation (input.map fun entry => (entry.1, .str entry.2)) (some key)

def fullTestSuite : Definition where
  id := "full-test-suite"
  name := "Full Test Suite Generation"
  description := some "Generate comprehensive test suite: TestWeaver -> ScriptSmith -> CodeGuardian"
  steps := [
    call "step-1" "TestWeaver" "generate"
      [("specification", "$\x7binput.specification\x7d"), ("inputMethod", "specification")] "testWeaver",
    call "step-2" "ScriptSmith" "generate"
      [("testCases", "$\x7bsteps.step-1.output.testCases\x7d"), ("inputMethod", "test_case")]
      "scriptSmith",
    call "step-3" "CodeGuardian" "generate"
      [("code", "$\x7bsteps.step-2.output.code\x7d"), ("language", "typescript")] "codeGuardian"]

def visualRegression : Definition where
  id := "visual-regression-flow"
  name := "Visual Regression Testing Flow"
  description := some "Visual analysis with conditional bug pattern detection"
  steps := [
    call "step-1" "VisualAnalysis" "analyze"
      [("screenshot", "$\x7binput.screenshot\x7d"),
        ("baselineScreenshot", "$\x7binput.baselineScreenshot\x7d")] "visualAnalysis",
    .condition "step-2" "$\x7bsteps.step-1.output.hasVisualRegression\x7d"
      [call "step-2a" "BugPattern" "analyze"
        [("differences", "$\x7bsteps.step-1.output\x7d")] "bugPattern"]
      []]

def apiTests : Definition where
  id := "api-test-flow"
  name := "API Test Generation Flow"
  description := some "Generate API tests: FlowPilot -> CodeGuardian"
  steps := [
    call "step-1" "FlowPilot" "generate" [("openApiSpec", "$\x7binput.openApiSpec\x7d")] "flowPilot",
    call "step-2" "CodeGuardian" "generate"
      [("code", "$\x7bsteps.step-1.output.setup\x7d"), ("tests", "$\x7bsteps.step-1.output.tests\x7d"),
        ("language", "typescript")] "codeGuardian"]

def qualityAudit : Definition where
  id := "code-quality-audit"
  name := "Code Quality Audit"
  description := some "Parallel code analysis and test evolution"
  steps := [
    .parallel "step-1" [
      call "branch-1" "CodeAnalysis" "analyze" [("code", "$\x7binput.code\x7d")] "codeAnalysis",
      call "branch-2" "TestEvolution" "analyze" [("testCases", "$\x7binput.testCases\x7d")]
        "testEvolution"]]

def workflows : List Definition := [fullTestSuite, visualRegression, apiTests, qualityAudit]

def workflow? (id : String) : Option Definition := workflows.find? (·.id = id)

end Catalog

end Conductor
