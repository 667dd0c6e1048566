import Conductor.Context

/-! Contexts as they stand beside each other while a run is under way: each knows the one it was forked from
and sees what that one writes later. -/

namespace Conductor

structure Node where
  parent : Option Nat
  own : Layer
  deriving Inhabited

/-- Contexts are known by their number; a fork has a greater number than what it was forked from. -/
structure Forest where
  input : Json
  nodes : List Node

namespace Forest

def ofInput (input : Json) : Forest := ⟨input, [⟨none, {}⟩]⟩

/-- The writes of a context and of those that it reads through to; `bound` is above their numbers. -/
def layersBelow (f : Forest) : Nat → Nat → List Layer
  | 0, _ => []
  | bound + 1, i =>
    match f.nodes[i]? with
    | none => []
    | some node =>
      match node.parent with
      | none => [node.own]
      | some p => node.own :: layersBelow f bound p

def context (f : Forest) (i : Nat) : Context :=
  match layersBelow f f.nodes.length i with
  | [] => { input := f.input }
  | own :: outer => ⟨f.input, own, outer⟩

def write (f : Forest) (i : Nat) (change : Layer → Layer) : Forest :=
  { f with nodes := f.nodes.modify i fun node => { node with own := change node.own } }

def record (f : Forest) (i : Nat) (step : String) (output : Output) (key : Option String) : Forest :=
  f.write i fun own => own.record step output key

/-- Adds a fork at the end. -/
def fork (f : Forest) (i : Nat) : Forest := { f with nodes := f.nodes ++ [⟨some i, {}⟩] }

def merge (f : Forest) (i child : Nat) : Forest :=
  f.write i fun own => own.absorb (f.context child).own

end Forest

end Conductor
