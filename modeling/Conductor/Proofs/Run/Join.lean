import Conductor.Proofs.Context.View
import Conductor.Proofs.Run.Bodies

/-! What is left of a parallel step: its branches have all run to their end, each on a fork of its own, and
what those that succeeded have written stands on the context in the order of the branches. -/

namespace Conductor

namespace BranchEnd

/-- What a branch adds to the context that it was forked from. -/
def written? (b : BranchEnd) : Option Layer :=
  match b.outcome with
  | .ok _ => some b.own
  | .error _ => none

/-- What a branch adds to the output of its step. -/
def entry? (b : BranchEnd) : Option (String × Output) :=
  match b.outcome with
  | .ok result => if b.isGate then none else some (b.key, result.output)
  | .error _ => none

end BranchEnd

theorem Layer.Tidy.absorbs {l : Layer} (h : l.Tidy) (tops : List Layer) : (tops.foldl Layer.absorb l).Tidy := by
  induction tops generalizing l with
  | nil => exact h
  | cons top rest ih => exact ih (h.absorb top)

namespace Context

variable {c : Context}

theorem flatten_absorbs (h : c.Tidy) (tops : List Layer) :
    ({ c with own := tops.foldl Layer.absorb c.own } : Context).flatten = tops.foldl Layer.absorb c.flatten := by
  induction tops generalizing c with
  | nil => rfl
  | cons top rest ih =>
    have hfirst : ({ c with own := c.own.absorb top } : Context).Tidy := h.of_own (h.own.absorb top) rfl
    exact (ih hfirst).trans (congrArg (rest.foldl Layer.absorb) (flatten_absorb h top))

end Context

namespace Run

variable {c c' : Context} {env : Setting} {own id : String} {steps : List Step} {ends : List BranchEnd}

/-- What the branches that succeeded have written, on top of what was visible before. -/
def overlaid (c : Context) (ends : List BranchEnd) : Layer :=
  (ends.filterMap BranchEnd.written?).foldl Layer.absorb c.flatten

/-- The outputs of the branches that succeeded and have one; of two with one key the later counts. -/
def gathered (ends : List BranchEnd) : Output := .ofEntries (Assoc.ofEntries (ends.filterMap BranchEnd.entry?))

theorem foldl_mergeInto (l : Layer) (ends : List BranchEnd) :
    ends.foldl mergeInto l = (ends.filterMap BranchEnd.written?).foldl Layer.absorb l := by
  induction ends generalizing l with
  | nil => rfl
  | cons b rest ih =>
    rw [List.foldl_cons, ih, List.filterMap_cons]
    unfold mergeInto BranchEnd.written?
    cases b.outcome <;> rfl

theorem foldl_collectEnd (outputs : Assoc Output) (ends : List BranchEnd) :
    ends.foldl collectEnd outputs = outputs.overlay (ends.filterMap BranchEnd.entry?) := by
  induction ends generalizing outputs with
  | nil => rfl
  | cons b rest ih =>
    rw [List.foldl_cons, ih, List.filterMap_cons]
    unfold collectEnd BranchEnd.entry?
    cases b.outcome with
    | error f => rfl
    | ok result => by_cases hg : b.isGate = true <;> simp [hg, Assoc.overlay]

theorem joined_tidy (h : c.Tidy) (ends : List BranchEnd) : (joined c ends).Tidy := by
  refine h.of_own ?_ rfl
  rw [joined, foldl_mergeInto]
  exact h.own.absorbs _

theorem flatten_joined (h : c.Tidy) (ends : List BranchEnd) : (joined c ends).flatten = overlaid c ends := by
  rw [joined, foldl_mergeInto]
  exact Context.flatten_absorbs h _

theorem joinOutcome_of_all (h : ends.findSome? BranchEnd.failure? = none) :
    joinOutcome id ends = .ok (gathered ends) := by
  unfold joinOutcome
  rw [h, foldl_collectEnd]
  rfl

theorem joinOutcome_of_failed {first : Failure} (h : ends.findSome? BranchEnd.failure? = some first) :
    joinOutcome id ends = .error (.stepFailed id first.message) := by
  unfold joinOutcome
  rw [h]

theorem published_tidy (h : c.Tidy) (id : String) (key : Option String) (out : Except Failure Output) :
    (published c id key out).Tidy := by
  cases out with
  | error f => exact h
  | ok output => exact h.of_own (h.own.record id output key) rfl

theorem published_eq (c : Context) (ends : List BranchEnd) (id : String) (out : Except Failure Output) :
    published (joined c ends) id none out = { c with own := (published (joined c ends) id none out).own } := by
  cases out <;> rfl

theorem did_parallel {out : Except Failure Output} {m : Share} (h : Did env own (.parallel id steps) c out c' m) :
    ∃ ends, RanEach env own steps c.fork ends m ∧ out = joinOutcome id ends ∧
      c' = published (joined c ends) id none (joinOutcome id ends) := by
  cases h with
  | @parallel _ _ _ _ ends _ _ ran settled =>
    obtain ⟨hout, hc⟩ := settled.unique (settles_joinAll id ran.stays)
    exact ⟨ends, ran, hout, hc⟩

/-- While no request fails, a parallel step runs each of its branches once and to its end, each on a fork
of the context, whatever becomes of the others. What the branches that succeeded have written then stands on
what was visible before, in the order of the branches; the step has an entry of its own, and gives the
outputs of its branches, if none of them failed. Otherwise it fails with the message of the first that did. -/
theorem parallel_step_joins_its_branches (account : Account) (hc : c.Tidy) {s : Stage} (hs : Under own s.world)
    (hcalm : ((Run.step env own account (.parallel id steps)).exec c s).2.world.refusals = s.world.refusals) :
    ∃ out c' t ends m,
      (Run.step env own account (.parallel id steps)).exec c s = ((out, c'), t) ∧
      RanEach env own steps c.fork ends m ∧
      c' = { c with own := c'.own } ∧
      (∀ step, c'.keyFor step = (c'.flatten.keys.get? step).getD step) ∧
      (ends.findSome? BranchEnd.failure? = none → ∃ cost r store,
        out = .ok ⟨gathered ends, cost⟩ ∧
        c'.flatten = (overlaid c ends).record id (gathered ends) none ∧
        r.Reads own id .completed .null ((gathered ends).KeptIn c') ∧
        t.world.share = { records := {r}, events := {.started own id c store} } + m + s.world.share) ∧
      ∀ first, ends.findSome? BranchEnd.failure? = some first → ∃ r store,
        out = .error (.stepFailed id first.message) ∧
        c'.flatten = overlaid c ends ∧
        r.Reads own id .failed (.str first.message) (· = .null) ∧
        t.world.share =
          { records := {r}
            events := {.started own id c store, .failed own id (.stepFailed id first.message)} } +
            m + s.world.share := by
  have hmakes : Flow.Makes own s.world.refusals.length (Ran env own (.parallel id steps) c)
      (Run.step env own account (.parallel id steps)) c 0 := makes_step account (.parallel id steps) c
  obtain ⟨-, share, hshare, hran⟩ := hmakes.exec hs hcalm
  generalize (Run.step env own account (.parallel id steps)).exec c s = after at hshare hran ⊢
  obtain ⟨⟨out, c'⟩, t⟩ := after
  change Ran env own (.parallel id steps) c out c' share at hran
  have hkeys {ends : List BranchEnd} (step : String) :
      (published (joined c ends) id none (joinOutcome id ends)).keyFor step =
        ((published (joined c ends) id none (joinOutcome id ends)).flatten.keys.get? step).getD step :=
    Context.keyFor_eq (published_tidy (joined_tidy hc ends) id none _) step
  cases hran with
  | @completed _ _ _ output cost m r store did reads =>
    obtain ⟨ends, ran, hout, rfl⟩ := did_parallel did
    refine ⟨_, _, t, ends, m, rfl, ran, published_eq .., hkeys, fun hall => ?_, fun first hfirst => ?_⟩
    · rw [joinOutcome_of_all hall] at hout reads ⊢
      cases hout
      refine ⟨cost, r, store, rfl, ?_, reads, hshare⟩
      exact (Context.flatten_record (joined_tidy hc ends) _ _ _).trans (by rw [flatten_joined hc])
    · rw [joinOutcome_of_failed hfirst] at hout
      cases hout
  | @failed _ _ _ f m r store did reads =>
    obtain ⟨ends, ran, hout, rfl⟩ := did_parallel did
    refine ⟨_, _, t, ends, m, rfl, ran, published_eq .., hkeys, fun hall => ?_, fun first hfirst => ?_⟩
    · rw [joinOutcome_of_all hall] at hout
      cases hout
    · rw [joinOutcome_of_failed hfirst] at hout ⊢
      cases hout
      exact ⟨r, store, rfl, flatten_joined hc ends, reads, hshare⟩

/-- An agent that cannot be understood between two branches with one key, of which the second reads what was
there before. -/
theorem parallel_step_joins_its_branches_of_failure :
    let say : Script := fun _ payload => .echo 0.25 payload
    let mumble : Script := fun _ _ => { outcome := .replies .null }
    let env : Setting := { agents := ⟨[("Oracle", [("say", say), ("mumble", mumble)])]⟩ }
    let branches : List Step := [
      .agent "ask" "Oracle" "say" [("q", .str "${input.q}")] (some "answer"),
      .agent "spoil" "Oracle" "mumble" [] none,
      .transform "note" [("was", .str "${steps.plan.output}")] (some "answer")]
    let c : Context := ({ input := .obj [("q", .str "why")] } : Context).record "plan" (Json.int 1) none
    let store := (Store.createExecution "id-1" "w" .null 0 (.memory {})).2
    let s : Stage := ⟨{ store, issued := 1 }, .empty⟩
    let ran := (Run.step env "id-1" [] (.parallel "fan" branches)).exec c s
    c.Tidy ∧ Under "id-1" s.world ∧ ran.2.world.refusals = s.world.refusals ∧
      ran.2.world.store.records.map (·.step) = ["fan", "ask", "spoil", "note"] ∧
      ran.1.2.steps.map Prod.fst = ["plan", "ask", "note"] ∧
      ran.1.2.outputs.map (fun entry => (entry.1, entry.2.text)) = [("answer", "\x7b\"was\": 1\x7d")] ∧
      ∃ ends first m, RanEach env "id-1" branches c.fork ends m ∧
        ends.findSome? BranchEnd.failure? = some first ∧
        ran.1.1 = .error (.stepFailed "fan" first.message) ∧ ran.1.2.flatten = overlaid c ends := by
  intro say mumble env branches c store s ran
  have htidy : c.Tidy := by
    intro layer hl
    obtain rfl : layer = c.own := List.mem_singleton.1 hl
    exact Layer.tidy_empty.record "plan" (Json.int 1) none
  have hcalm : ran.2.world.refusals = [] := List.isEmpty_iff.1 (by decide +kernel)
  obtain ⟨t, hmade, hplaced⟩ := (Store.memory {}).created "id-1" "w" .null 0 rfl
  have hstore : store = t := congrArg Prod.snd hmade
  have hsound : s.world.Sound := World.sound_empty.created rfl (hstore ▸ hplaced)
  have hunder : Under "id-1" s.world := ⟨hsound, (rfl : (store.execution? "id-1").isSome = true)⟩
  have hfailed : ran.1.1.isOk = false := by decide +kernel
  obtain ⟨out, c', u, ends, m, hran, heach, -, -, hall, hfirst⟩ :=
    parallel_step_joins_its_branches [] htidy hunder hcalm
  refine ⟨htidy, hunder, hcalm, by decide +kernel, by decide +kernel, by decide +kernel, ?_⟩
  have hout : ran.1.1 = out := congrArg (·.1.1) hran
  have hcontext : ran.1.2 = c' := congrArg (·.1.2) hran
  rw [hout] at hfailed ⊢
  rw [hcontext]
  cases hf : ends.findSome? BranchEnd.failure? with
  | none =>
    obtain ⟨cost, r, t, rfl, -⟩ := hall hf
    cases hfailed
  | some first =>
    obtain ⟨r, t, herror, hflatten, -⟩ := hfirst first hf
    exact ⟨ends, first, m, heach, hf, herror, hflatten⟩

end Run

end Conductor
