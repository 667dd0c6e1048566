import Conductor.Number.Power

/-! How long to wait before the next attempt: a power of a base that grows with every attempt, up to a
longest wait, and a slack on top that is drawn anew for every wait. The least slack is drawn here. -/

namespace Conductor

namespace Backoff

def defaultBase : Number := .real 2.0

def defaultSlack : Number := .real 0.5

def longest : Number := .real 30.0

def shorter (x y : Number) : Number := if Number.compare? y x = some .lt then y else x

/-- The least of the slacks up to `slack`: nothing, unless `slack` is no finite number. -/
def leastSlack (slack : Number) : Except PowerError Float :=
  match slack.toReal? with
  | some x => .ok (x * 0.0 + 0.0)
  | none => .error .tooLarge

/-- The wait in seconds. An attempt whose power is too large to work out has none. -/
def delay (attempt base limit slack : Number) : Except PowerError Float := do
  let power ← base.power attempt
  let added ← leastSlack slack
  match (shorter power limit).toReal? with
  | some wait => return wait + added
  | none => throw .tooLarge

def default (attempt : Nat) : Except PowerError Float :=
  delay (.whole attempt) defaultBase longest defaultSlack

end Backoff

end Conductor
