import Conductor.Proofs.Context
import Conductor.Proofs.Run.Frame
import Conductor.Proofs.Validation.Accepted
import Conductor.Proofs.World.Records

/-! What a step finds when it is started. The steps that it may read are over by then, each with one
record that says so, and its context has the outputs of those that have one. That is carried through
the steps in the order in which they run: steps that are over stay over, because what comes next
writes for other steps. -/

namespace Conductor

/-- A record keeps an output, in its closed form where it hands out the table of steps. -/
def Output.KeptAs (o : Output) (doc : Json) : Prop := doc = o.value ∨ ∃ levels, doc = o.closed levels

namespace Run

open Conductor.Flow World Context

/-- A step is over: it was skipped, or it completed. A context has its output if it completed and is
no gate. -/
inductive Over (execution : String) (step : Step) (s : Store) : Option Output → Prop
  | skipped {r : StepRecord} (alone : s.recordsAt execution step.id = [r]) (status : r.status = .skipped) :
      Over execution step s none
  | passed {r : StepRecord} (alone : s.recordsAt execution step.id = [r]) (status : r.status = .completed)
      (gate : step.isGate = true) : Over execution step s none
  | completed {r : StepRecord} {o : Output} (alone : s.recordsAt execution step.id = [r])
      (status : r.status = .completed) (gate : step.isGate = false) (kept : o.KeptAs r.output) :
      Over execution step s (some o)

/-- A step is started with a record of its own, when all steps that it reads are over. -/
def Informed (d : Definition) : Event → Prop
  | .started execution step context store =>
    (∃ id, store.recordsAt execution step = [{ id, execution, step }]) ∧
      ∃ inner ∈ d.flat, inner.id = step ∧ ∃ names, Validation.references inner = .ok names ∧
        ∀ name ∈ names, ∃ read ∈ d.flat, read.id = name ∧
          Over execution read store (context.flatten.steps.get? name)
  | .failed _ _ _ => True

variable {α : Type} {env : Setting} {d : Definition} {execution : String} {c c' : Context} {s : Stage}
  {w w' : World} {kept ids : List String}

theorem Over.congr {step : Step} {s t : Store} {look look' : Option Output} (h : Over execution step s look)
    (hr : t.recordsAt execution step.id = s.recordsAt execution step.id) (hl : look' = look) :
    Over execution step t look' := by
  subst hl
  cases h with
  | skipped alone status => exact .skipped (hr.trans alone) status
  | passed alone status gate => exact .passed (hr.trans alone) status gate
  | completed alone status gate output => exact .completed (hr.trans alone) status gate output

/-- The records that are kept are those of all steps that are looked after, apart from one's own. -/
def Kept (execution : String) (kept ids : List String) (w w' : World) : Prop :=
  ∀ id ∈ kept, id ∉ ids → w'.store.recordsAt execution id = w.store.recordsAt execution id

theorem Kept.trans {w'' : World} (h : Kept execution kept ids w w') (h' : Kept execution kept ids w' w'') :
    Kept execution kept ids w w'' := fun id hk hn => (h' id hk hn).trans (h id hk hn)

theorem kept_of_works {own : String → Prop} {event : Event → Prop}
    (h : Works (.recording execution own event) w w') (hw : w.Sound)
    (hn : ∀ id ∈ kept, id ∉ ids → ¬ own id) : Kept execution kept ids w w' :=
  fun id hk hi => h.recordsAt_eq hw (hn id hk hi)

theorem Over.keep {step : Step} (h : Over execution step w.store (c.stepOutput? step.id))
    (hk : Kept execution kept ids w w') (he : Extends ids c c') (hin : step.id ∈ kept)
    (hout : step.id ∉ ids) :
    Over execution step w'.store (c'.stepOutput? step.id) :=
  h.congr (hk _ hin hout) (he.stepOutput?_eq hout)

theorem ids_subset {steps more : List Step} (h : steps ⊆ more) :
    ∀ id ∈ steps.map Step.id, id ∈ more.map Step.id := fun _ hm => List.map_subset Step.id h hm

/-- Steps that are over, and steps that are still to come, all of them looked after. -/
structure Placed (d : Definition) (kept : List String) (before after : List Step) : Prop where
  mem : ∀ step ∈ before ++ after, step ∈ d.flat
  kept : ∀ step ∈ before ++ after, step.id ∈ kept
  distinct : ((before ++ after).map Step.id).Nodup

theorem Placed.sublist {before after before' after' : List Step} (h : Placed d kept before after)
    (hs : (before' ++ after').Sublist (before ++ after)) : Placed d kept before' after' :=
  ⟨fun step hm => h.mem step (hs.subset hm), fun step hm => h.kept step (hs.subset hm),
    h.distinct.sublist (hs.map _)⟩

theorem Placed.perm {before after after' : List Step} (h : Placed d kept before after)
    (hs : after'.Perm after) : Placed d kept before after' := by
  have hall := hs.append_left before
  exact ⟨fun step hm => h.mem step (hall.subset hm), fun step hm => h.kept step (hall.subset hm),
    ((hall.map Step.id).nodup_iff).2 h.distinct⟩

theorem Placed.head {before first second : List Step} (h : Placed d kept before (first ++ second)) :
    Placed d kept before first :=
  h.sublist ((List.sublist_append_left _ _).append_left _)

theorem Placed.rest {before first second : List Step} (h : Placed d kept before (first ++ second)) :
    Placed d kept (before ++ first) second :=
  h.sublist (by rw [List.append_assoc])

theorem Placed.kept_after {before after : List Step} (h : Placed d kept before after) {step : Step}
    (hs : step ∈ after) : step.id ∈ kept := h.kept step (List.mem_append_right _ hs)

theorem Placed.nodup {before after : List Step} (h : Placed d kept before after) :
    (after.map Step.id).Nodup := by
  have hd := h.distinct
  rw [List.map_append] at hd
  exact hd.of_append_right

theorem Placed.apart {before after : List Step} (h : Placed d kept before after) {step : Step}
    (hs : step ∈ before) : step.id ∉ after.map Step.id := by
  intro hm
  have hd := h.distinct
  rw [List.map_append, List.nodup_append] at hd
  exact hd.2.2 _ (List.mem_map_of_mem hs) _ hm rfl

/-- A run has come to a point where some steps are over and others have left no trace. -/
structure Poised (execution : String) (before after : List Step) (c : Context) (w : World) : Prop where
  under : Under execution w
  kempt : c.Kempt
  gone : ∀ step ∈ before, Over execution step w.store (c.stepOutput? step.id)
  fresh : ∀ step ∈ after, w.store.recordsAt execution step.id = [] ∧ c.stepOutput? step.id = none

theorem Poised.keep {before after : List Step} (h : Poised execution before after c w)
    (hu : Under execution w') (hk : Kept execution kept ids w w') (he : Extends ids c c')
    (hin : ∀ step ∈ before ++ after, step.id ∈ kept) (hout : ∀ step ∈ before ++ after, step.id ∉ ids) :
    Poised execution before after c' w' := by
  refine ⟨hu, he.kempt h.kempt, fun step hs => ?_, fun step hs => ?_⟩
  · have hm := List.mem_append_left after hs
    exact (h.gone step hs).keep hk he (hin step hm) (hout step hm)
  · have hm := List.mem_append_right before hs
    rw [hk _ (hin step hm) (hout step hm), he.stepOutput?_eq (hout step hm)]
    exact h.fresh step hs

theorem Poised.sub {before after after' : List Step} (h : Poised execution before after c w)
    (hs : after' ⊆ after) : Poised execution before after' c w :=
  ⟨h.under, h.kempt, h.gone, fun step hm => h.fresh step (hs hm)⟩

/-- What steps still have to come does not change when others beside them pass. -/
theorem Poised.beside {before after others : List Step} (hp : Placed d kept before (after ++ others))
    (h : Poised execution before after c w) (hu : Under execution w')
    (hk : Kept execution kept (others.map Step.id) w w') (he : Extends (others.map Step.id) c c') :
    Poised execution before after c' w' := by
  refine h.keep hu hk he (fun step hs => ?_) fun step hs => hp.rest.apart hs
  exact hp.rest.kept step (List.mem_append_left _ hs)

/-- Whatever others do meanwhile, a run stays at the point to which it has come. -/
theorem Poised.wait {before after : List Step} (hp : Placed d kept before after)
    (h : Poised execution before after c w) (hu : Under execution w') (hk : Kept execution kept [] w w') :
    Poised execution before after c w' :=
  h.keep hu hk (.refl [] c) hp.kept fun _ _ => List.not_mem_nil

/-- Others leave the records that are looked after; the work itself touches its own, and starts no
step that is not informed. -/
abbrev around (d : Definition) (execution : String) (kept ids : List String) : Terms Stage :=
  terms (Works (.recording execution (· ∉ kept) (Informed d))) (Works (.recording execution (· ∈ ids) (Informed d)))

theorem around_wider {more : List String} (h : ∀ id ∈ ids, id ∈ more) (a b : Stage)
    (hg : (around d execution kept ids).guar a b) : (around d execution kept more).guar a b :=
  Works.mono hg (recording_le h)

theorem safe_wider {more : List String} {aim : Except Failure α → Context → Stage → Prop} {f : Flow α}
    (hf : Safe (around d execution kept ids) aim f c s) (h : ∀ id ∈ ids, id ∈ more) :
    Safe (around d execution kept more) aim f c s :=
  hf.widen (fun _ _ hr => hr) (around_wider h)

theorem safe_keeping {aim : Except Failure α → Context → Stage → Prop} {f : Flow α}
    (hf : Safe (around d execution kept ids) aim f c s) (hu : Under execution s.world) :
    Safe (around d execution kept ids) (fun out c' t => aim out c' t ∧ Under execution t.world ∧
      Kept execution kept ids s.world t.world) f c s := by
  have hl {own : String → Prop} (hn : ∀ id ∈ kept, id ∉ ids → ¬ own id) (a b : Stage)
      (hw : Works (.recording execution own (Informed d)) a.world b.world)
      (ha : Under execution a.world ∧ Kept execution kept ids s.world a.world) :
      Under execution b.world ∧ Kept execution kept ids s.world b.world :=
    ⟨lasting_under _ execution _ _ hw ha.1, ha.2.trans (kept_of_works hw ha.1.1 hn)⟩
  refine hf.frame (hl fun id hk _ hn => hn hk) (hl fun id _ hn hi => hn hi) ⟨hu, ?_⟩
  exact fun id _ _ => rfl

theorem yields_keeping {more : List String} {p : α → Context → Stage → Prop} {f : Flow α}
    (hf : Safe (around d execution kept ids) (Yields p) f c s) (hu : Under execution s.world)
    (hm : ∀ id ∈ ids, id ∈ more) :
    Safe (around d execution kept more) (Yields fun v c' t => p v c' t ∧ Under execution t.world ∧
      Kept execution kept ids s.world t.world) f c s :=
  safe_wider ((safe_keeping hf hu).mono fun _ _ _ ho v hv => ⟨ho.1 v hv, ho.2⟩) hm

section Requests

variable {β : Type} {p : α → Context → Stage → Prop} {q : β → Context → Stage → Prop}

theorem yields_onLedger_bind {action : Act Stage α} {g : α → Flow β} (hw : (action s).2.world = s.world)
    (hg : ∀ v ledger, Safe (around d execution kept ids) (Yields q) (g v) c { s with ledger }) :
    Safe (around d execution kept ids) (Yields q) (onStage action >>= g) c s := by
  refine yields_bind (p := fun _ c' t => c' = c ∧ t.world = s.world) (safe_onStage ?_ fun v _ => ⟨rfl, hw⟩) ?_
  · show Works _ s.world (action s).2.world
    rw [hw]
    exact Std.Refl.refl _
  · rintro v c' t ⟨rfl, ht⟩
    have heq : t = { s with ledger := t.ledger } := by
      rw [← ht]
    rw [heq]
    exact hg v t.ledger

theorem yields_now_bind {g : Time → Flow β}
    (hg : ∀ now, Safe (around d execution kept ids) (Yields q) (g now) c s) :
    Safe (around d execution kept ids) (Yields q) (onWorld World.now >>= g) c s := by
  refine yields_bind (p := fun _ c' t => c' = c ∧ t = s)
    (safe_onWorld (within_now s.world) fun v _ => ⟨rfl, rfl⟩) ?_
  rintro v c' t ⟨rfl, rfl⟩
  exact hg v

/-- While work waits others leave the records that are looked after. -/
theorem yields_wait_bind {account : Account} {step : String} {moment : Moment} {g : Unit → Flow β}
    (hu : Under execution s.world)
    (hg : ∀ t, Under execution t.world → Kept execution kept [] s.world t.world →
      Safe (around d execution kept ids) (Yields q) (g ⟨⟩) c t) :
    Safe (around d execution kept ids) (Yields q) (wait env account step moment >>= g) c s := by
  refine safe_wait_bind fun t ht => hg t (lasting_under _ execution _ _ ht hu) ?_
  exact kept_of_works ht hu.1 fun id hk _ hn => hn hk

variable {step : String} (hi : step ∈ ids)
include hi

theorem works_within {a b : World} (h : Works (.recording execution (· = step) (Informed d)) a b) :
    Works (.recording execution (· ∈ ids) (Informed d)) a b :=
  h.mono (recording_le fun other ho => by subst ho; exact hi)

theorem yields_createStep {p : StepRecord → Context → Stage → Prop} (hu : Under execution s.world)
    (hp : ∀ r t, Works (.recording execution (· = step) (Informed d)) s.world t →
      t.store.recordsAt execution step = s.world.store.recordsAt execution step ++ [r] →
      r = { id := r.id, execution, step } → p r c { s with world := t }) :
    Safe (around d execution kept ids) (Yields p) (onWorld (World.createStep env execution step)) c s := by
  have hworks : Works (.recording execution (· = step) (Informed d)) s.world
      (World.createStep env execution step s.world).2 := works_createStep_recording env hu.2
  refine safe_onWorld (works_within hi hworks) fun r hr => ?_
  rcases hout : World.createStep env execution step s.world with ⟨e | r', t⟩
  · rw [hout] at hr
    cases hr
  · rw [hout] at hr hworks
    cases hr
    obtain ⟨hrecords, hid⟩ := createStep_recorded hu.1 hout
    exact hp r t hworks hrecords hid

theorem yields_updateStep {p : Context → Stage → Prop} {r : StepRecord} {patch : StepPatch}
    (hu : Under execution s.world) (hr : s.world.store.recordsAt execution step = [r])
    (hp : ∀ r' t, Works (.recording execution (· = step) (Informed d)) s.world t → patch.Wrote r r' →
      r'.id = r.id → t.store.recordsAt execution step = [r'] → p c { s with world := t }) :
    Safe (around d execution kept ids) (Yields fun _ => p)
      (discard (onWorld (World.updateStep env r.id (.ok patch)))) c s := by
  have hworks : Works (.recording execution (· = step) (Informed d)) s.world
      (World.updateStep env r.id (.ok patch) s.world).2 := works_updateStep_recording env hr patch
  refine yields_discard (safe_onWorld (works_within hi hworks) fun v hv => ?_)
  rcases hout : World.updateStep env r.id (.ok patch) s.world with ⟨e | v', t⟩
  · rw [hout] at hv
    cases hv
  · rw [hout] at hworks
    obtain ⟨r', hwrote, hid, hrecords⟩ := updateStep_recorded hu.1 hr hout
    exact hp r' t hworks hwrote hid hrecords

end Requests

/-! The records of a step -/

/-- The one record of a step has got a status, and an output where there is one. -/
def Marked (execution step : String) (status : StepStatus) (output : Output) (w : World) : Prop :=
  ∃ r, w.store.recordsAt execution step = [r] ∧ r.status = status ∧ output.KeptAs r.output

theorem keptAs_of_wrote {patch : StepPatch} {r r' : StepRecord} (hwrote : patch.Wrote r r')
    (hnull : r.output = .null)
    {o : Output} (ho : patch.output = if o.value.isNull then none else some (c.snapshot o)) :
    o.KeptAs r'.output := by
  by_cases hn : o.value.isNull = true
  · rw [if_pos hn] at ho
    refine .inl ?_
    rw [hwrote.output ho, hnull]
    cases hv : o.value <;> simp_all [Json.isNull]
  · rw [if_neg hn] at ho
    rcases hwrote.snapshot _ ho with hv | hs
    · exact .inl hv
    · refine .inr ⟨c.levels, hs.trans ?_⟩
      show (if o.isOpen then some (o.closed c.levels) else none).getD o.value = o.closed c.levels
      unfold Output.closed
      split <;> rfl

theorem yields_finish (account : Account) {step : String} {r : StepRecord} (hk : step ∈ kept)
    (hu : Under execution s.world) (hr : s.world.store.recordsAt execution step = [r]) (hnull : r.output = .null)
    {status : StepStatus} (hs : status.isKnown = true) (cost : Float) (output : Output) (error : Option String) :
    Safe (around d execution kept [step])
      (Yields fun _ c' t => c' = c ∧ Marked execution step status output t.world)
      (finish env account step r.id status cost output error) c s := by
  refine yields_wait_bind hu fun s hu hkept => yields_now_bind fun now => yields_get_bind ?_
  have hr := (hkept step hk List.not_mem_nil).trans hr
  refine yields_updateStep (List.mem_singleton_self step) hu hr fun r' t _ hwrote _ hrecords => ?_
  refine ⟨rfl, r', hrecords, ?_, keptAs_of_wrote hwrote hnull rfl⟩
  exact hwrote.status hs

/-! Steps that are not run -/

theorem yields_skip (account : Account) {step : String} (hk : step ∈ kept) (hu : Under execution s.world)
    (hf : s.world.store.recordsAt execution step = []) :
    Safe (around d execution kept [step])
      (Yields fun _ c' t => c' = c ∧ ∃ r, t.world.store.recordsAt execution step = [r] ∧ r.status = .skipped)
      (skip env execution account step) c s := by
  have hi := List.mem_singleton_self step
  refine yields_wait_bind hu fun s hu hkept => ?_
  have hf := (hkept step hk List.not_mem_nil).trans hf
  refine yields_bind (yields_createStep (p := fun r c' t => c' = c ∧ Under execution t.world ∧
    t.world.store.recordsAt execution step = [r]) hi hu fun r t hworks hrecords _ => ?_) ?_
  · exact ⟨rfl, lasting_under _ execution _ _ hworks hu, by rw [hrecords, hf]; rfl⟩
  · rintro r c' t ⟨rfl, ht, hr⟩
    refine yields_wait_bind ht fun t ht hkept => yields_now_bind fun now => ?_
    have hr := (hkept step hk List.not_mem_nil).trans hr
    refine yields_updateStep hi ht hr fun r' u _ hwrote _ hrecords => ?_
    exact ⟨rfl, r', hrecords, hwrote.status rfl⟩

theorem yields_skipAll (account : Account) {steps : List Step} (hk : ∀ step ∈ steps, step.id ∈ kept)
    (hd : (steps.map Step.id).Nodup) (hu : Under execution s.world)
    (hf : ∀ step ∈ steps, s.world.store.recordsAt execution step.id = []) :
    Safe (around d execution kept (steps.map Step.id))
      (Yields fun _ c' t => c' = c ∧ ∀ step ∈ steps, ∃ r,
        t.world.store.recordsAt execution step.id = [r] ∧ r.status = .skipped)
      (steps.forM fun step => skip env execution account step.id) c s := by
  induction steps generalizing s with
  | nil => exact yields_pure ⟨rfl, fun step hs => by cases hs⟩
  | cons first rest ih =>
    rw [List.map_cons, List.nodup_cons] at hd
    refine yields_bind (yields_keeping (yields_skip account (hk first (by simp)) hu (hf first (by simp))) hu (by simp)) ?_
    rintro _ c' t ⟨⟨rfl, r, hr, hskipped⟩, ht, hkept⟩
    have hother (step : Step) (hs : step ∈ rest) : step.id ∉ [first.id] := by
      intro he
      rw [List.mem_singleton] at he
      exact hd.1 (he ▸ List.mem_map_of_mem hs)
    have hrest := ih (s := t) (fun step hs => hk step (by simp [hs])) hd.2 ht fun step hs => by
      rw [hkept _ (hk step (by simp [hs])) (hother step hs)]
      exact hf step (by simp [hs])
    refine (yields_keeping hrest ht fun id hm => List.mem_cons_of_mem _ hm).mono fun out c'' u ho v hv => ?_
    obtain ⟨⟨rfl, hall⟩, _, hkept'⟩ := ho v hv
    refine ⟨rfl, fun step hs => ?_⟩
    rcases List.mem_cons.1 hs with rfl | hs
    · exact ⟨r, (hkept' _ (hk step (by simp)) hd.1).trans hr, hskipped⟩
    · exact hall step hs

/-! A step that is run -/

/-- Some steps are over when work has succeeded that writes for these only. -/
def Passes (execution : String) (steps : List Step) (ids : List String) (c c' : Context) (t : Stage) : Prop :=
  Extends ids c c' ∧ ∀ step ∈ steps, Over execution step t.world.store (c'.stepOutput? step.id)

/-- What a step has to publish before it is over. -/
def Publishes (execution : String) (step : Step) (c : Context) (output : Output) (c' : Context) (t : Stage) :
    Prop :=
  Passes execution (Step.flatAll step.children) (step.flat.map Step.id) c c' t ∧
    c'.stepOutput? step.id = if step.isGate then none else some output

theorem ids_flat (step : Step) :
    step.flat.map Step.id = step.id :: (Step.flatAll step.children).map Step.id := by
  rw [Step.flat_eq, List.map_cons]

theorem id_mem_flat (step : Step) : step.id ∈ step.flat.map Step.id := by
  rw [ids_flat]
  exact List.mem_cons_self ..

theorem ids_children (step : Step) :
    ∀ id ∈ (Step.flatAll step.children).map Step.id, id ∈ step.flat.map Step.id := by
  rw [ids_flat]
  exact fun _ hm => List.mem_cons_of_mem _ hm

theorem Placed.children {before : List Step} {step : Step} (h : Placed d kept before step.flat) :
    Placed d kept before (Step.flatAll step.children) ∧ step ∈ d.flat ∧ step.id ∈ kept ∧
      (∀ other ∈ before ++ Step.flatAll step.children, other.id ≠ step.id) := by
  have hm : step ∈ before ++ step.flat := List.mem_append_right _ (by rw [Step.flat_eq]; simp)
  refine ⟨h.sublist ?_, h.mem step hm, h.kept step hm, ?_⟩
  · rw [Step.flat_eq step]
    exact (List.sublist_cons_self _ _).append_left _
  · have hd := h.distinct
    rw [Step.flat_eq, List.map_append, List.map_cons, List.nodup_append, List.nodup_cons] at hd
    obtain ⟨_, ⟨hout, _⟩, hapart⟩ := hd
    intro other ho he
    rcases List.mem_append.1 ho with ho | ho
    · exact hapart _ (List.mem_map_of_mem ho) _ (List.mem_cons_self ..) he
    · exact hout (he ▸ List.mem_map_of_mem ho)

section Records

variable {before : List Step} {step : Step} (hp : Placed d kept before step.flat)
include hp

theorem informed_start (hr : Validation.ReadsFrom (before.map Step.id) step)
    (h : Poised execution before (Step.flatAll step.children) c w) {id : String}
    (hmade : w.store.recordsAt execution step.id = [{ id, execution, step := step.id }]) :
    Informed d (.started execution step.id c w.store) := by
  obtain ⟨names, hnames, hseen⟩ := hr
  refine ⟨⟨id, hmade⟩, step, hp.children.2.1, rfl, names, hnames, fun name hn => ?_⟩
  obtain ⟨read, hread, rfl⟩ := List.mem_map.1 (hseen name hn)
  refine ⟨read, hp.mem read (List.mem_append_left _ hread), rfl, ?_⟩
  rw [get?_flatten h.kempt]
  exact h.gone read hread

theorem Poised.aside (h : Poised execution before (Step.flatAll step.children) c w)
    (hw : Works (.recording execution (· = step.id) (Informed d)) w w') :
    Poised execution before (Step.flatAll step.children) c w' := by
  obtain ⟨hinner, _, _, hapart⟩ := hp.children
  have hkept : Kept execution kept [step.id] w w' :=
    kept_of_works hw h.under.1 fun id _ hn he => hn (List.mem_singleton.2 he)
  refine h.keep (lasting_under _ execution _ _ hw h.under) hkept (.refl _ _) hinner.kept fun other ho hm => ?_
  exact hapart other ho (List.mem_singleton.1 hm)

theorem passes_of_marked {output : Output} {t u : Stage} (hpub : Publishes execution step c output c' t)
    (hk : Kept execution kept [step.id] t.world u.world)
    (hm : Marked execution step.id .completed output u.world) :
    Passes execution step.flat (step.flat.map Step.id) c c' u := by
  obtain ⟨hinner, _, _, hapart⟩ := hp.children
  obtain ⟨⟨hext, hover⟩, hentry⟩ := hpub
  refine ⟨hext, fun other ho => ?_⟩
  rw [Step.flat_eq] at ho
  rcases List.mem_cons.1 ho with rfl | ho
  · obtain ⟨r, hr, hstatus, hout⟩ := hm
    rw [hentry]
    cases hg : other.isGate with
    | true => exact .passed hr hstatus hg
    | false => exact .completed hr hstatus hg hout
  · have hin := List.mem_append_right before ho
    refine (hover other ho).keep hk (.refl [step.id] _) (hinner.kept other hin) fun he => ?_
    exact hapart other hin (List.mem_singleton.1 he)

theorem yields_conclude (account : Account) {r : StepRecord} (before : Float) {out : Except Failure Output}
    {t : Stage} (hout : Yields (Publishes execution step c) out c' t) (hu : Under execution t.world)
    (hr : t.world.store.recordsAt execution step.id = [r]) (hnull : r.output = .null) :
    Safe (around d execution kept (step.flat.map Step.id))
      (Yields fun _ => Passes execution step.flat (step.flat.map Step.id) c)
      (conclude env account step.id r.id before out) c' t := by
  have hids : ∀ id ∈ [step.id], id ∈ step.flat.map Step.id := by
    intro id hm
    rw [List.mem_singleton.1 hm]
    exact id_mem_flat step
  have hk := hp.children.2.2.1
  cases out with
  | error f =>
    rw [conclude]
    split_ifs
    · exact yields_throw
    refine yields_onLedger_bind rfl fun cost ledger => ?_
    exact yields_bind (safe_wider (yields_finish (s := { t with ledger }) account hk hu hr hnull rfl _ _ _) hids)
      fun _ _ _ _ => yields_throw
  | ok output =>
    refine yields_onLedger_bind rfl fun cost ledger => ?_
    refine yields_bind
      (yields_keeping (yields_finish (s := { t with ledger }) account hk hu hr hnull rfl _ _ _) hu hids) ?_
    rintro _ c'' u ⟨⟨rfl, hmarked⟩, _, hkept⟩
    exact yields_pure (passes_of_marked hp (hout output rfl) hkept hmarked)

theorem yields_noteStart (hr : Validation.ReadsFrom (before.map Step.id) step) {r : StepRecord} {t : Stage}
    (ht : Poised execution before (Step.flatAll step.children) c t.world)
    (hmade : r = { id := r.id, execution, step := step.id })
    (hr₁ : t.world.store.recordsAt execution step.id = [r]) :
    Safe (around d execution kept (step.flat.map Step.id)) (Yields fun _ c' u => c' = c ∧
      Poised execution before (Step.flatAll step.children) c u.world ∧
      u.world.store.recordsAt execution step.id = [r]) (noteStart execution step.id) c t := by
  have hworks : Works (.recording execution (· = step.id) (Informed d)) t.world
      { t.world with journal := .started execution step.id c t.world.store :: t.world.journal } :=
    within_note (informed_start hp hr ht (hmade ▸ hr₁)) t.world
  exact yields_get_bind (safe_onWorld (works_within (id_mem_flat step) hworks) fun _ _ =>
    ⟨rfl, ht.aside hp hworks, hr₁⟩)

theorem yields_body (account : Account) (spentBefore : Float) {r : StepRecord} {t : Stage}
    {body : Flow Output} (ht : Poised execution before (Step.flatAll step.children) c t.world)
    (hr : t.world.store.recordsAt execution step.id = [r]) (hnull : r.output = .null)
    (hb : Safe (around d execution kept ((Step.flatAll step.children).map Step.id))
      (Yields (Publishes execution step c)) body c t) :
    Safe (around d execution kept (step.flat.map Step.id))
      (Yields fun _ => Passes execution step.flat (step.flat.map Step.id) c)
      (do conclude env account step.id r.id spentBefore (← Failure.outcome body)) c t := by
  obtain ⟨_, _, hk, hapart⟩ := hp.children
  have hbody := safe_wider (safe_keeping hb ht.under) (ids_children step)
  refine yields_bind (yields_outcome hbody) ?_
  rintro out c' u ⟨hout, hu, hkept⟩
  have hown : step.id ∉ (Step.flatAll step.children).map Step.id := by
    intro hm
    obtain ⟨other, ho, he⟩ := List.mem_map.1 hm
    exact hapart other (List.mem_append_right _ ho) he
  exact yields_conclude hp account spentBefore hout hu ((hkept _ hk hown).trans hr) hnull

theorem yields_carryOut (account : Account) {r : StepRecord} (hnull : r.output = .null)
    (hs : Poised execution before (Step.flatAll step.children) c s.world)
    (hr : s.world.store.recordsAt execution step.id = [r]) {body : Flow Output}
    (hb : ∀ t : Stage, Poised execution before (Step.flatAll step.children) c t.world →
      Safe (around d execution kept ((Step.flatAll step.children).map Step.id))
        (Yields (Publishes execution step c)) body c t) :
    Safe (around d execution kept (step.flat.map Step.id))
      (Yields fun _ => Passes execution step.flat (step.flat.map Step.id) c)
      (carryOut env account step.id r.id body) c s := by
  obtain ⟨hinner, -, hk, -⟩ := hp.children
  have hi := id_mem_flat step
  refine yields_wait_bind hs.under fun u hu hkept => yields_now_bind fun now => ?_
  have hpoised := hs.wait hinner hu hkept
  have hr := (hkept step.id hk List.not_mem_nil).trans hr
  refine yields_bind (p := fun _ c' t => c' = c ∧ Poised execution before (Step.flatAll step.children) c t.world ∧
      ∃ r', t.world.store.recordsAt execution step.id = [r'] ∧ r'.output = .null ∧ r'.id = r.id)
    (yields_updateStep hi hu hr fun r' x hworks hwrote hid hrecords => ?_) ?_
  · exact ⟨rfl, hpoised.aside hp hworks, r', hrecords, (hwrote.output rfl).trans hnull, hid⟩
  · rintro _ c' x ⟨rfl, hx, r', hr', hnull', hid⟩
    rw [← hid]
    refine yields_onLedger_bind rfl fun cost ledger => ?_
    exact yields_body hp account cost hx hr' hnull' (hb { x with ledger } hx)

/-- Whatever a step holds, what it reads is over when it is started. -/
theorem yields_attempt (account : Account) (hr : Validation.ReadsFrom (before.map Step.id) step)
    (h : Poised execution before step.flat c s.world) {body : Flow Output}
    (hb : ∀ t : Stage, Poised execution before (Step.flatAll step.children) c t.world →
      Safe (around d execution kept ((Step.flatAll step.children).map Step.id))
        (Yields (Publishes execution step c)) body c t) :
    Safe (around d execution kept (step.flat.map Step.id))
      (Yields fun _ => Passes execution step.flat (step.flat.map Step.id) c)
      (attempt env execution account step.id body) c s := by
  have hi := id_mem_flat step
  refine yields_wait_bind h.under fun s hu hkept => ?_
  have h := h.wait hp hu hkept
  have hbare := (h.fresh step (by rw [Step.flat_eq]; simp)).1
  have hrest : Poised execution before (Step.flatAll step.children) c s.world :=
    h.sub fun other ho => by rw [Step.flat_eq]; exact List.mem_cons_of_mem _ ho
  refine yields_bind (yields_createStep (p := fun r c' t => c' = c ∧
    Poised execution before (Step.flatAll step.children) c t.world ∧
    t.world.store.recordsAt execution step.id = [r] ∧ r = { id := r.id, execution, step := step.id })
    hi h.under fun r t hworks hrecords hmade => ?_) ?_
  · exact ⟨rfl, hrest.aside hp hworks, by rw [hrecords, hbare]; rfl, hmade⟩
  · rintro r c' t ⟨rfl, ht, hr₁, hmade⟩
    -- here the step is told of what it reads; from now on its record and its children are its own
    refine yields_bind (yields_noteStart hp hr ht hmade hr₁) ?_
    rintro _ c'' u ⟨rfl, hu, hr₂⟩
    exact yields_carryOut hp account (by rw [hmade]) hu hr₂ hb

theorem yields_recorded (account : Account) (hr : Validation.ReadsFrom (before.map Step.id) step)
    (h : Poised execution before step.flat c s.world) {body : Flow Output}
    (hb : ∀ t : Stage, Poised execution before (Step.flatAll step.children) c t.world →
      Safe (around d execution kept ((Step.flatAll step.children).map Step.id))
        (Yields (Publishes execution step c)) body c t) :
    Safe (around d execution kept (step.flat.map Step.id))
      (Yields fun _ => Passes execution step.flat (step.flat.map Step.id) c)
      (recorded env execution account step.id body) c s := by
  refine (yields_attempt hp account hr h hb).handling (fun _ _ _ ho => ho) (fun _ _ _ _ _ _ => nofun)
    fun e c' t _ _ => ?_
  have hnote : Works (.recording execution (· ∈ step.flat.map Step.id) (Informed d)) t.world
      { t.world with journal := .failed execution step.id e :: t.world.journal } :=
    within_note trivial t.world
  exact yields_bind (p := fun _ _ _ => True) (safe_onWorld hnote fun _ _ => trivial)
    fun _ _ _ _ => yields_throw

theorem yields_publish (hg : step.isGate = false) {t : Stage}
    (h : Passes execution (Step.flatAll step.children) (step.flat.map Step.id) c c' t) (output : Output)
    (key : Option String) :
    Safe (around d execution kept ids) (Yields (Publishes execution step c))
      (do Run.record step.id output key; return output) c' t := by
  obtain ⟨hinner, _, _, hapart⟩ := hp.children
  have hrecord := extends_record c' step.id output key
  have hpub : Publishes execution step c output (c'.record step.id output key) t := by
    refine ⟨⟨h.1.trans (hrecord.mono fun id hm => ?_), fun other ho => ?_⟩, ?_⟩
    · rw [List.mem_singleton.1 hm]
      exact id_mem_flat step
    · refine (h.2 other ho).congr rfl (hrecord.stepOutput?_eq fun hm => ?_)
      exact hapart other (List.mem_append_right _ ho) (List.mem_singleton.1 hm)
    · rw [hg]
      exact stepOutput?_record c' step.id output key
  refine yields_bind (p := fun _ c'' u => c'' = c'.record step.id output key ∧ u = t)
    (safe_modify fun _ _ => ⟨rfl, rfl⟩) ?_
  rintro _ c'' u ⟨rfl, rfl⟩
  exact yields_pure hpub

end Records

theorem passes_nil (execution : String) (ids : List String) (c : Context) (t : Stage) :
    Passes execution [] ids c c t := ⟨.refl ids c, fun _ hm => by cases hm⟩

section Bodies

variable {before : List Step} {t : Stage} {id : String}

theorem yields_call (account : Account) (id agent operation : String) (input : Members) :
    Safe (around d execution kept ids) (Yields fun _ c' _ => c' = c) (call env account id agent operation input) c t := by
  refine safe_wait_bind fun t _ => yields_ofExcept_bind fun script _ => yields_view_bind ?_
  refine yields_ofExcept_bind fun payload _ => ?_
  refine yields_bind (p := fun _ c' _ => c' = c) (safe_onWorld ((around d execution kept ids).guar_refl _) fun _ _ => rfl) ?_
  rintro number c' u rfl
  have hinvoke : Safe (around d execution kept ids) (fun _ c'' _ => c'' = c')
      (onWorld (World.invoke env agent operation script payload.value)) c' u :=
    safe_onWorld (within_invoke others_le_recording _ _ _ _ _) rfl
  refine yields_bind (yields_outcome hinvoke) ?_
  rintro outcome c'' v rfl
  exact yields_pure rfl

theorem yields_callAgent (account : Account) {agent operation : String} {input : Members}
    {key : Option String}
    (hp : Placed d kept before (Step.agent id agent operation input key).flat) (published : String) :
    Safe (around d execution kept ids) (Yields (Publishes execution (.agent id agent operation input key) c))
      (callAgent env account id agent operation input published) c t := by
  refine yields_bind (yields_call account id agent operation input) ?_
  rintro ⟨payload, answer⟩ c' u rfl
  refine safe_wait_bind fun u _ => ?_
  refine yields_bind (p := fun _ c'' _ => c'' = c') (safe_onWorld (within_takeUp _ _) fun _ _ => rfl) ?_
  rintro ⟨envelope, echoed⟩ c'' u rfl
  refine yields_ofExcept_bind fun response _ => yields_onLedger_bind rfl fun _ ledger => ?_
  exact yields_publish hp rfl (passes_nil ..) _ _

theorem yields_aggregate {sources : List String} {how : Combine} {key : Option String}
    (hp : Placed d kept before (Step.aggregate id sources how key).flat) (published : String) :
    Safe (around d execution kept ids) (Yields (Publishes execution (.aggregate id sources how key) c))
      (aggregate id sources how published) c t :=
  yields_get_bind (yields_of_bind fun _ _ => yields_publish hp rfl (passes_nil ..) _ _)

theorem yields_transform {fields : Members} {key : Option String}
    (hp : Placed d kept before (Step.transform id fields key).flat) (published : String) :
    Safe (around d execution kept ids) (Yields (Publishes execution (.transform id fields key) c))
      (transform id fields published) c t :=
  yields_view_bind (yields_ofExcept_bind fun _ _ => yields_publish hp rfl (passes_nil ..) _ _)

theorem yields_validate {rules : List Rule} (hn : c.stepOutput? id = none) :
    Safe (around d execution kept ids) (Yields (Publishes execution (.validate id rules) c))
      (validate id rules) c t :=
  yields_view_bind (yields_of_bind fun _ _ => yields_pure ⟨passes_nil .., hn⟩)

end Bodies

end Run

end Conductor
