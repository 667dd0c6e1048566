import Conductor.Proofs.Engine.Course
import Conductor.Proofs.Validation.Accepted
import Conductor.Proofs.Template.Grammar

/-! Definitions that were accepted run as they are written, but for their blank texts. Whoever
checks a definition passes over these, and whoever runs it takes them for expressions. -/

namespace Conductor

/-- Whether a step asks a text that stands bare and holds no expression. -/
def Step.asksBlank : Step → Bool
  | condition _ test _ _ => Template.isBlankText test
  | validate _ rules => rules.any fun rule => Template.isBlankText rule.field
  | _ => false

/-- A cause that a step may have for its failure when its agent is there and its texts follow the
grammar, except for those that are blank. -/
structure Definition.Fine (d : Definition) (step : String) (cause : Failure) : Prop where
  found : ∀ e, cause ≠ .lookup e
  read : ∀ e, cause = .expression e → e.isGrammar = true →
    e = .malformed "" .operand none ∧ ∃ inner ∈ d.flat, inner.id = step ∧ inner.asksBlank = true

namespace Definition

open Template

variable {env : Setting} {d : Definition}

theorem fine_of_isPlain {step : String} {cause : Failure} (h : cause.isPlain = true) : d.Fine step cause := by
  refine ⟨fun e he => ?_, fun e he => ?_⟩ <;> · rw [he] at h; cases h

theorem fine_of_ungrammatical {step : String} {e : ParseError} (h : e.isGrammar = false) :
    d.Fine step (.expression e) := by
  refine ⟨fun _ => nofun, fun e' he hg => ?_⟩
  cases he
  rw [h] at hg
  cases hg

theorem fine_of_blank {inner : Step} (hi : inner ∈ d.flat) (hb : inner.asksBlank = true) :
    d.Fine inner.id (.expression (.malformed "" .operand none)) := by
  refine ⟨fun _ => nofun, fun e he _ => ?_⟩
  cases he
  exact ⟨rfl, inner, hi, rfl, hb⟩

theorem fine_of_evaluateText {inner : Step} (hi : inner ∈ d.flat) {s : String}
    (hb : isBlankText s = true → inner.asksBlank = true) {ids : List String} (hr : bareReferences s = .ok ids)
    {view : View} {e : ParseError} (h : evaluateText view s = .error e) :
    d.Fine inner.id (.expression e) := by
  by_cases hs : isBlankText s = true
  · rw [evaluateText_blank hs] at h
    cases h
    exact fine_of_blank hi (hb hs)
  · exact fine_of_ungrammatical (isGrammar_evaluateText hr (Bool.eq_false_iff.2 hs) h)

theorem fine_of_resolveOutput {step : String} {fields : Members} {ids : List String}
    (hr : references (.obj fields) = .ok ids) {view : View} {e : ParseError}
    (h : resolveOutput view fields = .error e) : d.Fine step (.expression e) :=
  fine_of_ungrammatical (isGrammar_resolve hr (map_eq_error h))

theorem fine_of_checkRules {inner : Step} (hi : inner ∈ d.flat) {rules : List Rule}
    (hb : (∃ rule ∈ rules, isBlankText rule.field = true) → inner.asksBlank = true) {ids : List String}
    (hr : Validation.ruleReferences rules = .ok ids) {view : View} {cause : Failure}
    (h : Run.checkRules view inner.id rules = .error cause) : d.Fine inner.id cause := by
  induction rules generalizing ids with
  | nil => cases h
  | cons rule rest ih =>
    rw [Validation.ruleReferences] at hr
    obtain ⟨first, others, hf, ho, _⟩ := append_eq_ok hr
    rw [Run.checkRules] at h
    cases hv : evaluateText view rule.field with
    | error e =>
      rw [hv] at h
      cases h
      exact fine_of_evaluateText hi (fun hs => hb ⟨rule, by simp, hs⟩) hf hv
    | ok value =>
      rw [hv] at h
      dsimp only at h
      -- a condition that breaks the grammar asks for no more than a value, and so the field alone matters
      cases hs : satisfies rule.condition value with
      | error e =>
        rw [hs] at h
        cases h
        exact fine_of_ungrammatical (isGrammar_satisfies hs)
      | ok holds =>
        rw [hs] at h
        cases holds with
        | true => exact ih (fun ⟨r, hm, hs⟩ => hb ⟨r, by simp [hm], hs⟩) ho h
        | false =>
          cases h
          exact fine_of_isPlain rfl

theorem failsFinely (h : Validation.Accepted env.agents d) {inner : Step} (hi : inner ∈ d.flat) :
    Run.FailsFinely env d.Fine inner := by
  obtain ⟨names, hr⟩ := h.told inner hi
  cases inner with
  | agent id agent operation input key =>
    refine ⟨fun e he => ?_, fun view e he => fine_of_resolveOutput hr he⟩
    have hcheck := h.agents _ hi
    unfold Validation.checkAgent at hcheck
    dsimp only at hcheck
    by_cases ha : env.agents.hasAgent agent = true
    · by_cases ho : env.agents.hasOperation agent operation = true
      · obtain ⟨found, hfound⟩ := (env.agents.exists_get_iff agent operation).2 ho
        rw [hfound] at he
        cases he
      · rw [if_neg (by simp [ha]), if_pos (by simpa using ho)] at hcheck
        cases hcheck
    · rw [if_pos (by simpa using ha)] at hcheck
      cases hcheck
  | condition id test whenTrue whenFalse =>
    intro view e he
    exact fine_of_evaluateText hi (fun hs => hs) hr (map_eq_error he)
  | parallel id branches => trivial
  | aggregate id sources how key => trivial
  | transform id fields key => exact fun view e he => fine_of_resolveOutput hr he
  | validate id rules =>
    intro view cause hc
    exact fine_of_checkRules hi (fun ⟨rule, hm, hs⟩ => List.any_eq_true.2 ⟨rule, hm, hs⟩) hr hc

end Definition

namespace Engine

open World

variable (env : Setting)

/-- A scope for runs whose steps fail for fine causes. -/
def fineScope (d : Definition) : Scope where
  deed _ := True
  event e := ∀ execution step cause, e = .failed execution step cause → d.Fine step cause

theorem takesRuns_fineScope (d : Definition) : (fineScope d).TakesRuns :=
  ⟨fun _ => trivial, fun _ _ _ => trivial⟩

theorem covers_fineScope (d : Definition) (own : String) : Run.Covers (fineScope d) own d.Fine where
  others := (takesRuns_fineScope d).others
  record _ := trivial
  started _ _ _ _ _ _ he := by cases he
  failed step f hf execution step' cause he := by
    cases he
    exact hf
  plain _ _ h := Definition.fine_of_isPlain h

theorem works_accepted {d : Definition} (h : Validation.Accepted env.agents d) (input : Json) :
    Act.Within (Works (fineScope d)) (run env d input) := by
  refine works_run env (takesRuns_fineScope d) d input fun own s hs => ?_
  have hkeeps := keeps_runSteps env (covers_fineScope d own) d.steps fun inner hi =>
    Definition.failsFinely h hi
  exact (hkeeps { input } s hs.under).exec.1.works

/-- In a run of a definition that was accepted, no step fails because its agent is unknown, and none
because a text does not follow the grammar, unless that text is blank. A blank text that stands bare
is accepted wherever it stands, and fails whenever it is asked. -/
theorem accepted_runs_as_written {env : Setting} {d : Definition}
    (h : Validation.check env.agents d = .ok ()) (input : Json) {w : World} (hw : w.Sound) :
    (∃ events, (run env d input w).2.journal = events ++ w.journal ∧
      ∀ execution step cause, .failed execution step cause ∈ events →
        (∀ e, cause ≠ .lookup e) ∧
        ∀ e, cause = .expression e → e.isGrammar = true →
          e = .malformed "" .operand none ∧ ∃ inner ∈ d.flat, inner.id = step ∧ inner.asksBlank = true) ∧
    ∀ s, Template.isBlankText s = true →
      Template.bareReferences s = .ok [] ∧
        ∀ view, Template.evaluateText view s = .error (.malformed "" .operand none) := by
  refine ⟨?_, fun s hs => ⟨Template.bareReferences_blank hs, Template.evaluateText_blank hs⟩⟩
  obtain ⟨events, hj, hev⟩ := (works_accepted env (Validation.accepted_of_check h) input w hw).journal
  refine ⟨events, hj, fun execution step cause hm => ?_⟩
  have hfine := hev _ hm execution step cause rfl
  exact ⟨hfine.found, hfine.read⟩

/-- A condition without a text is accepted, and its step fails for it. -/
theorem accepted_runs_as_written_but_blank :
    let d : Definition :=
      { id := "w", name := "blank", description := none, steps := [.condition "gate" "" [] []] }
    let env : Setting := { agents := ⟨[]⟩ }
    Validation.check env.agents d = .ok () ∧ ({} : World).Sound ∧
    ((run env d .null {}).2.store.recordsAt "id-1" "gate").map
      (fun r => (r.status, Template.inText r.error)) =
      [(.failed, "Invalid expression '': expected a path or literal, found 'end of expression'")] ∧
    ∃ events, (run env d .null {}).2.journal = events ++ [] ∧
      ∀ execution step cause, .failed execution step cause ∈ events → ∀ e, cause ≠ .lookup e := by
  intro d env
  have hcheck : Validation.check env.agents d = .ok () := ok_of_toOption (by decide +kernel)
  refine ⟨hcheck, sound_empty, by decide +kernel, ?_⟩
  obtain ⟨⟨events, hj, hev⟩, _⟩ := @accepted_runs_as_written env d hcheck .null {} sound_empty
  exact ⟨events, hj, fun execution step cause hm => (hev execution step cause hm).1⟩

end Engine

end Conductor
