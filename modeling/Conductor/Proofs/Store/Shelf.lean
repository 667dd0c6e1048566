import Conductor.Proofs.Store.Operations

/-! The workflows that a store holds. No request about runs or steps touches them. -/

namespace Conductor

namespace Store

/-- The workflows as either kind of store keeps them. -/
def shelf : Store → Assoc StoredWorkflow ⊕ List WorkflowRow
  | .memory m => .inl m.workflows
  | .table t => .inr t.workflows

end Store

open Act

namespace Memory

/-- The same workflows are kept. -/
def SameShelf (a b : Memory) : Prop := b.workflows = a.workflows

instance : IsPreorder Memory SameShelf where
  refl _ := rfl
  trans _ _ _ h h' := Eq.trans h' h

theorem sameShelf_updateExecution (id : String) (p : ExecutionPatch) (expected : Option (List RunStatus)) :
    Within SameShelf (updateExecution id p expected) := by
  refine within_get.bind fun m => ?_
  cases m.executions.get? id with
  | none => exact within_throw _
  | some e =>
    dsimp only
    split
    · split
      · exact within_throw_bind _
      · refine Within.bind (within_modify fun _ => rfl) fun _ => ?_
        split
        · exact within_throw_bind _
        · exact within_pure _
    · exact within_pure _

theorem sameShelf_createStep (id execution step : String) : Within SameShelf (createStep id execution step) := by
  refine within_get.bind fun m => ?_
  split
  · exact within_throw_bind _
  · exact Within.bind (within_modify fun _ => rfl) fun _ => within_pure _

theorem sameShelf_updateStep (id : String) (p : StepPatch) : Within SameShelf (updateStep id p) := by
  refine within_get.bind fun m => ?_
  cases m.steps.get? id with
  | none => exact within_throw _
  | some r =>
    dsimp only
    split
    · exact within_throw_bind _
    · refine Within.bind (within_modify fun _ => rfl) fun _ => ?_
      split
      · exact within_throw_bind _
      · exact within_pure _

end Memory

namespace Table

/-- The same workflows are kept. -/
def SameShelf (a b : Table) : Prop := b.workflows = a.workflows

instance : IsPreorder Table SameShelf where
  refl _ := rfl
  trans _ _ _ h h' := Eq.trans h' h

theorem sameShelf_updateExecution (id : String) (p : ExecutionPatch) (expected : Option (List RunStatus)) :
    Within SameShelf (updateExecution id p expected) := by
  refine (within_of _).bind fun columns => within_get.bind fun t => ?_
  cases t.execution? id with
  | none => exact within_throw _
  | some row =>
    dsimp only
    split
    · exact (within_of _).bind fun e => within_pure _
    · split
      · refine (within_of _).bind fun updated => Within.bind (within_modify fun _ => rfl) fun _ => ?_
        exact (within_of _).bind fun e => within_pure _
      · exact within_pure _

theorem sameShelf_updateStep (id : String) (p : StepPatch) : Within SameShelf (updateStep id p) := by
  refine (within_of _).bind fun columns => within_get.bind fun t => ?_
  cases t.step? id with
  | none => exact within_throw _
  | some row =>
    exact (within_of _).bind fun updated => Within.bind (within_modify fun _ => rfl) fun _ => within_of _

end Table

namespace Store

variable (s : Store)

theorem shelf_createExecution (id workflow : String) (input : Json) (now : Time) :
    (createExecution id workflow input now s).2.shelf = s.shelf := by
  cases s <;> rfl

theorem shelf_updateExecution (id : String) (p : ExecutionPatch) (expected : Option (List RunStatus)) :
    (updateExecution id p expected s).2.shelf = s.shelf := by
  cases s with
  | memory m => exact congrArg Sum.inl (Memory.sameShelf_updateExecution id p expected m)
  | table t => exact congrArg Sum.inr (Table.sameShelf_updateExecution id p expected t)

theorem shelf_createStep (id execution step : String) : (createStep id execution step s).2.shelf = s.shelf := by
  cases s with
  | memory m => exact congrArg Sum.inl (Memory.sameShelf_createStep id execution step m)
  | table t => rfl

theorem shelf_updateStep (id : String) (p : StepPatch) : (updateStep id p s).2.shelf = s.shelf := by
  cases s with
  | memory m => exact congrArg Sum.inl (Memory.sameShelf_updateStep id p m)
  | table t => exact congrArg Sum.inr (Table.sameShelf_updateStep id p t)

end Store

end Conductor
