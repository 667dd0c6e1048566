import Conductor.Command

/-! The program itself. It gathers the variables and the files that a command may ask for, runs the command
and prints what it says. No model is connected, so every call of an agent fails. -/

namespace Conductor

def disconnected : Script := fun _ _ => { outcome := .fails "No model is connected" }

def disconnectedAgents : Registry Script :=
  ⟨Catalog.agents.map fun a => (a.name, a.operations.map fun operation => (operation, disconnected))⟩

def environment : IO Config.Environment := do
  let names := Config.fileVariable :: Config.databaseVariables ++ Config.logLevelVariables
  names.filterMapM fun name => do
    return (← IO.getEnv name).map fun value => (name, value)

/-- The contents of those files that can be read. -/
def readFiles (names : List String) : IO Files :=
  names.filterMapM fun (name : String) => do
    try
      let content ← IO.FS.readFile name
      return some (name, content)
    catch _ =>
      return none

end Conductor

open Conductor in
def main (args : List String) : IO UInt32 := do
  let env ← environment
  let files ← readFiles (Config.fileName none env :: args.map File.tidyPath)
  let (result, _) := Command.dispatch { files, env } disconnectedAgents (fun _ _ => none) args {}
  match result with
  | .usage =>
    IO.eprintln "Usage: conductor (workflow | execution) COMMAND [ARGUMENTS]"
    return 2
  | .exits code printed =>
    IO.print printed
    return code.toUInt32
  | .dies f =>
    let message := f.message
    IO.eprintln s!"Error: {message}"
    return 1
