import Conductor.Proofs.Engine.Course
import Conductor.Proofs.Run.Nesting

/-! In runs of definitions that were accepted, every step that is started finds the steps that it
reads over. -/

namespace Conductor

namespace Engine

open World Run

variable (env : Setting) {d : Definition} {execution : String}

/-- The steps of a definition in turn, up to the first that fails or to where the run was cancelled. -/
theorem safe_runSteps {kept : List String} {before steps : List Step} {c : Context} {s : Stage}
    (hp : Placed d kept before (Step.flatAll steps)) (hs : Validation.SeesAll (before.map Step.id) steps)
    (h : Poised execution before (Step.flatAll steps) c s.world) :
    Flow.Safe (around d execution kept ((Step.flatAll steps).map Step.id)) (Flow.Yields fun _ _ _ => True)
      (runSteps env execution steps) c s := by
  induction steps generalizing before c s with
  | nil => exact Flow.yields_pure trivial
  | cons first rest ih =>
    rw [Validation.SeesAll, ← List.map_append] at hs
    have hleft : first.flat ⊆ Step.flatAll (first :: rest) := List.subset_append_left _ _
    have hright : Step.flatAll rest ⊆ Step.flatAll (first :: rest) := List.subset_append_right _ _
    have hlook : Works (.recording execution (fun _ => False) (Informed d)) s.world
        (World.findExecution env execution s.world).2 :=
      within_findExecution others_le_recording execution s.world
    have hpoised : Poised execution before (Step.flatAll (first :: rest)) c
        (World.findExecution env execution s.world).2 := by
      have hkept : Kept execution kept [] s.world (World.findExecution env execution s.world).2 :=
        kept_of_works hlook h.under.1 fun _ _ _ => id
      exact h.keep (lasting_under _ execution _ _ hlook h.under) hkept (.refl _ _) hp.kept
        fun _ _ hm => by cases hm
    refine Flow.yields_bind (p := fun _ c' t => c' = c ∧
      Poised execution before (Step.flatAll (first :: rest)) c t.world)
      (Flow.safe_onWorld (hlook.mono (recording_le fun _ => False.elim)) fun _ _ => ⟨rfl, hpoised⟩) ?_
    rintro current c' t ⟨rfl, ht⟩
    split
    · exact Flow.yields_pure trivial
    -- the first step hands a point on at which the rest finds it over
    · have hbegun : Poised execution before first.flat c' t.world :=
        ht.sub hleft
      have hfirst := @yields_step env d execution [] _ _ _ _ _ (Placed.head hp) hs.1 hbegun
      refine Flow.yields_bind (yields_keeping (Flow.yields_discard hfirst) ht.under (ids_subset hleft)) ?_
      rintro _ c'' u ⟨hpass, hu, hkept⟩
      exact safe_wider (ih (Placed.rest hp) hs.2 (ht.pass hp hpass hu hkept)) (ids_subset hright)

/-- A scope for runs that start none but informed steps. -/
def informedScope (d : Definition) : Scope where
  deed _ := True
  event := Informed d

theorem takesRuns_informedScope (d : Definition) : (informedScope d).TakesRuns :=
  ⟨fun _ => trivial, fun _ _ _ => trivial⟩

theorem poised_of_begun {own : String} {w : World} (h : Begun own w) (steps : List Step) (input : Json) :
    Poised own [] steps { input } w := by
  refine ⟨h.under, fun layer hl => ?_, fun _ hm => absurd hm List.not_mem_nil, fun step _ => ⟨?_, rfl⟩⟩
  · rw [List.mem_singleton.1 hl]
    exact List.nodup_nil
  · refine List.filter_eq_nil_iff.2 fun r hr he => ?_
    rw [Bool.and_eq_true, decide_eq_true_eq] at he
    exact h.bare r hr he.1

theorem works_informed (h : Validation.Accepted env.agents d) (input : Json) :
    Act.Within (Works (informedScope d)) (run env d input) := by
  refine works_run env (takesRuns_informedScope d) d input fun own s hs => ?_
  have hp : Placed d (d.flat.map Step.id) [] (Step.flatAll d.steps) :=
    ⟨fun _ hm => hm, fun _ hm => List.mem_map_of_mem hm, h.distinct⟩
  have hsafe := safe_runSteps env hp h.order (poised_of_begun hs _ input)
  exact hsafe.exec.1.mono ⟨fun _ _ => trivial, fun _ he => he⟩

/-- In a run of a definition that was accepted, a step is started with a new record of its own when
every step that it reads has a single record, which says that this step completed or was skipped.
What the step is handed has the output of each of these that completed and is no gate, as the record
keeps it, and nothing for any other. -/
theorem accepted_steps_informed {env : Setting} {d : Definition} (h : Validation.check env.agents d = .ok ())
    (input : Json) {w : World} (hw : w.Sound) :
    ∃ events, (run env d input w).2.journal = events ++ w.journal ∧
      ∀ execution step context store, .started execution step context store ∈ events →
        (∃ id, store.recordsAt execution step = [{ id, execution, step }]) ∧
        ∃ inner ∈ d.flat, inner.id = step ∧ ∃ names, Validation.references inner = .ok names ∧
          ∀ name ∈ names, ∃ read ∈ d.flat, read.id = name ∧
            Over execution read store (context.flatten.steps.get? name) := by
  obtain ⟨events, hj, hev⟩ := (works_informed env (Validation.accepted_of_check h) input w hw).journal
  exact ⟨events, hj, fun execution step context store hm => hev _ hm⟩

/-- Of two branches one is a gate, and so of the two steps after them one finds an output. -/
theorem accepted_steps_informed_after_branches :
    let d : Definition := {
      id := "w", name := "look back", description := none
      steps := [.parallel "both" [.transform "draft" [("text", .str "done")] none, .validate "gate" []],
        .aggregate "first" ["draft"] .merge none, .aggregate "second" ["gate"] .merge none] }
    let env : Setting := { agents := ⟨[]⟩ }
    Validation.check env.agents d = .ok () ∧ ({} : World).Sound ∧
    (["both", "draft", "gate", "first", "second"].map fun step =>
      ((run env d .null {}).2.store.recordsAt "id-1" step).map (·.status)) = List.replicate 5 [.completed] ∧
    ∃ events, (run env d .null {}).2.journal = events ++ [] ∧
      ∀ execution step context store, .started execution step context store ∈ events →
        ∃ inner ∈ d.flat, inner.id = step ∧ ∃ names, Validation.references inner = .ok names ∧
          ∀ name ∈ names, ∃ read ∈ d.flat, read.id = name ∧
            Over execution read store (context.flatten.steps.get? name) := by
  intro d env
  have hcheck : Validation.check env.agents d = .ok () := ok_of_toOption (by decide +kernel)
  refine ⟨hcheck, sound_empty, by decide +kernel, ?_⟩
  obtain ⟨events, hj, hev⟩ := @accepted_steps_informed env d hcheck .null {} sound_empty
  exact ⟨events, hj, fun execution step context store hm => (hev execution step context store hm).2⟩

end Engine

end Conductor
