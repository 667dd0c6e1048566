import Conductor.Config.File

/-! Which store is used. An address selects the kind of store; one store at a time is shared, and a request
without an address gets the shared one. -/

namespace Conductor

inductive Backend where
  | memory
  | file (path : String)
  | server (url : String)
  deriving DecidableEq, Repr

/-- Splits an address at its first `://`, which goes with neither part. -/
def splitScheme : List Char → List Char × List Char
  | [] => ([], [])
  | ':' :: '/' :: '/' :: rest => ([], rest)
  | c :: rest => (c :: (splitScheme rest).1, (splitScheme rest).2)

namespace Backend

def ofUrl (url : Option String) : Except Failure Backend :=
  match url.filter (fun s => s ≠ "" && s ≠ "memory://") with
  | none => .ok .memory
  | some s =>
    let scheme := String.ofList (splitScheme s.toList).1
    let location := String.ofList (splitScheme s.toList).2
    if scheme = "sqlite" && location ≠ "" then .ok (.file location)
    else if scheme = "postgres" || scheme = "postgresql" then .ok (.server s)
    else .error (.unsupportedStore s)

end Backend

/-- A store, known by its number among all that there are. -/
structure Handle where
  number : Nat
  backend : Backend
  deriving DecidableEq, Repr

/-- The shared store, the number of the next store that is built, and what is looked into outside. -/
structure Selection where
  built : Nat := 0
  shared : Option Handle := none
  env : Config.Environment := []
  files : Files := []
  /-- Whether there is support for stores on a server. -/
  hasServers : Bool := true
  /-- Why the file of a store cannot be opened. -/
  refusal : String → Option String := fun _ => none

namespace Selection

def noServers : String := "Postgres support not available, install testpilot[postgres]"

/-- Opens a store. One on a server is not spoken to yet. -/
def opening (s : Selection) : Backend → Except Failure Unit
  | .memory => .ok ()
  | .file path => (s.refusal path).elim (.ok ()) fun message => .error (.raised message)
  | .server _ => if s.hasServers then .ok () else .error (.raised noServers)

/-- Where the store at an address is, if it can be opened. -/
def reach (s : Selection) (url : Option String) : Except Failure Backend := do
  let backend ← Backend.ofUrl url
  s.opening backend
  return backend

def build (url : Option String) : Act Selection Handle := do
  let s ← get
  let backend ← Failure.of (s.reach url)
  modify fun s => { s with built := s.built + 1 }
  return ⟨s.built, backend⟩

/-- The settings that are given, or else those that are found outside. -/
def settings (s : Selection) (config : Option Config) : Except Failure Config :=
  match config with
  | some c => .ok c
  | none => Config.find s.files s.env none

/-- The address that is given, or else the one that the environment names, or else that of the settings. -/
def address (s : Selection) (url : Option String) (config : Option Config) : Except Failure (Option String) :=
  match url.filter (· ≠ "") with
  | some given => .ok (some given)
  | none =>
    match Config.Environment.first? s.env Config.databaseVariables with
    | some named => .ok (some named)
    | none => (s.settings config).map Config.databaseUrl

/-- Installs a store, wherever it comes from. Those that are built later have greater numbers. -/
def share (handle : Handle) : Act Selection Unit :=
  modify fun s => { s with shared := some handle, built := max s.built (handle.number + 1) }

/-- The shared store, built anew when there is none or when an address or settings are given. -/
def acquire (url : Option String) (config : Option Config) : Act Selection Handle := do
  let s ← get
  match s.shared, url, config with
  | some handle, none, none => return handle
  | _, _, _ =>
    let address ← Failure.of (s.address url config)
    let handle ← build address
    share handle
    return handle

/-- Installs a new store in memory. -/
def install : Act Selection Handle := do
  let handle ← build none
  share handle
  return handle

def reset : Act Selection Unit := modify fun s => { s with shared := none }

end Selection

end Conductor
