import Conductor.Expression

/-! What a run knows: its input and what its steps have written. A fork reads through to the levels below and
keeps its own writes apart until they are merged. -/

namespace Conductor

/-- The writes of one level: outputs by step, outputs by key, and the key of each step that has one. -/
structure Layer where
  steps : Assoc Output := []
  outputs : Assoc Output := []
  keys : Assoc String := []
  deriving Inhabited

namespace Layer

def record (l : Layer) (step : String) (output : Output) (key : Option String) : Layer :=
  match key with
  | none => { l with steps := l.steps.put step output }
  | some key =>
    { steps := l.steps.put step output
      outputs := l.outputs.put key output
      keys := l.keys.put step key }

/-- Writes every entry of `top` on top of `l`. -/
def absorb (l top : Layer) : Layer where
  steps := l.steps.overlay top.steps
  outputs := l.outputs.overlay top.outputs
  keys := l.keys.overlay top.keys

end Layer

/-- The levels below come nearest first. -/
structure Context where
  input : Json
  own : Layer := {}
  outer : List Layer := []
  deriving Inhabited

namespace Context

def layers (c : Context) : List Layer := c.own :: c.outer

def stepOutput? (c : Context) (step : String) : Option Output :=
  c.layers.findSome? (·.steps.get? step)

/-- The key that a step published under, or its id. -/
def keyFor (c : Context) (step : String) : String :=
  (c.layers.findSome? (·.keys.get? step)).getD step

/-- All that is visible, the entries of the lowest level first. -/
def flatten (c : Context) : Layer := c.layers.foldr (fun top acc => acc.absorb top) {}

def steps (c : Context) : Members := Output.values c.flatten.steps

def outputs (c : Context) : Members := Output.values c.flatten.outputs

def record (c : Context) (step : String) (output : Output) (key : Option String) : Context :=
  { c with own := c.own.record step output key }

def fork (c : Context) : Context := ⟨c.input, {}, c.layers⟩

def merge (c child : Context) : Context := { c with own := c.own.absorb child.own }

/-- The entry of a step, as expressions see it. -/
def entry (output : Json) : Json := .obj [("output", output)]

def stepsView (c : Context) : Json := .obj (c.steps.map fun step => (step.1, entry step.2))

/-- The writes to the table of steps, those of the nearest level first. -/
def levels (c : Context) : List (Assoc Output) := c.layers.map (·.steps)

def view (c : Context) : View := { input := c.input, steps := c.stepsView, levels := c.levels }

/-- An output as it stands now. -/
def snapshot (c : Context) (output : Output) : Snapshot := output.snapshot c.levels

end Context

end Conductor
