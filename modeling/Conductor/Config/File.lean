import Conductor.Config
import Conductor.Failure
import Conductor.File.Path
import Conductor.File.Reader

/-! The file that holds the settings. -/

namespace Conductor

/-- The settings in the file at a path, or in the one that the environment names. Without a file they are the
defaults. -/
def Config.find (files : Files) (env : Environment) (path : Option String) : Except Failure Config := do
  let name := fileName path env
  let file ← match File.find files name with
    | .text content => (File.read content).map some |>.mapError .unreadable
    | .directory => .error (.isDirectory name)
    | .tooLong => .ok none
    | .nothing => .ok none
  (load env file).toExcept.mapError (.malformed "OrchestratorConfig")

end Conductor
