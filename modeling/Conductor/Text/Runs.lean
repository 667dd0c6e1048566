/-! A set of numbers written as the lengths of its runs: absent, present, absent and so on. -/

namespace Conductor

def inRuns (runs : List Nat) (n : Nat) : Bool :=
  match runs with
  | absent :: present :: rest =>
    if n < absent then false
    else if n < absent + present then true
    else inRuns rest (n - absent - present)
  | _ => false

end Conductor
