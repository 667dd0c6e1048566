import Conductor.Proofs.Run.Visibility
import Mathlib.Data.List.Perm.Basic

/-! Steps that hold others. In a sequence each step finds those before it over; of a condition one
side is skipped first; branches run side by side on forks, and their ends are joined when all of
them are over. -/

namespace Conductor

namespace Run

open Conductor.Flow World Context

variable {env : Setting} {d : Definition} {execution : String} {c c' : Context} {s t : Stage}
  {kept : List String} {before : List Step}

/-- After a step the next ones find it over. -/
theorem Poised.pass {step : Step} {rest : List Step}
    (hp : Placed d kept before (step.flat ++ Step.flatAll rest))
    (h : Poised execution before (step.flat ++ Step.flatAll rest) c s.world)
    (hpass : Passes execution step.flat (step.flat.map Step.id) c c' t) (hu : Under execution t.world)
    (hk : Kept execution kept (step.flat.map Step.id) s.world t.world) :
    Poised execution (before ++ step.flat) (Step.flatAll rest) c' t.world := by
  have hcarried := (h.sub (List.subset_append_right _ _)).beside (hp.perm List.perm_append_comm) hu hk hpass.1
  refine ⟨hu, hcarried.kempt, fun other ho => ?_, hcarried.fresh⟩
  rcases List.mem_append.1 ho with ho | ho
  · exact hcarried.gone other ho
  · exact hpass.2 other ho

theorem Passes.mono {steps : List Step} {ids more : List String} (h : Passes execution steps ids c c' t)
    (hm : ∀ id ∈ ids, id ∈ more) : Passes execution steps more c c' t := ⟨h.1.mono hm, h.2⟩

theorem Passes.append {first second : List Step} {ids own : List String} {c'' : Context} {u : Stage}
    (h : Passes execution first ids c c' t) (h' : Passes execution second own c' c'' u)
    (hk : Kept execution kept own t.world u.world) (hm : ∀ id ∈ own, id ∈ ids)
    (hin : ∀ step ∈ first, step.id ∈ kept) (hout : ∀ step ∈ first, step.id ∉ own) :
    Passes execution (first ++ second) ids c c'' u := by
  refine ⟨h.1.trans (h'.1.mono hm), fun step hs => ?_⟩
  rcases List.mem_append.1 hs with hs | hs
  · exact (h.2 step hs).keep hk h'.1 (hin step hs) (hout step hs)
  · exact h'.2 step hs

theorem Placed.tight {after : List Step} (h : Placed d kept before after) :
    Placed d ((before ++ after).map Step.id) before after :=
  ⟨h.mem, fun _ ho => List.mem_map_of_mem ho, h.distinct⟩

theorem yields_andThen {α β : Type} {step : Step} {rest : List Step} {first : Flow α} {next : α → Flow β}
    (hp : Placed d kept before (step.flat ++ Step.flatAll rest))
    (h : Poised execution before (step.flat ++ Step.flatAll rest) c s.world)
    (hfirst : Safe (around d execution kept (step.flat.map Step.id))
      (Yields fun _ => Passes execution step.flat (step.flat.map Step.id) c) first c s)
    (hnext : ∀ v c' t, Poised execution (before ++ step.flat) (Step.flatAll rest) c' t.world →
      Safe (around d execution kept ((Step.flatAll rest).map Step.id))
        (Yields fun _ => Passes execution (Step.flatAll rest) ((Step.flatAll rest).map Step.id) c')
          (next v) c' t) :
    Safe (around d execution kept ((step.flat ++ Step.flatAll rest).map Step.id))
      (Yields fun _ => Passes execution (step.flat ++ Step.flatAll rest)
        ((step.flat ++ Step.flatAll rest).map Step.id) c) (first >>= next) c s := by
  have hleft := ids_subset (List.subset_append_left step.flat (Step.flatAll rest))
  have hright := ids_subset (List.subset_append_right step.flat (Step.flatAll rest))
  have hrest := hp.rest
  refine yields_bind (yields_keeping hfirst h.under hleft) ?_
  rintro v c' t ⟨hpass, ht, hkept⟩
  have hpoised := h.pass hp hpass ht hkept
  refine (yields_keeping (hnext v c' t hpoised) ht hright).mono fun out c'' u ho v' hv => ?_
  obtain ⟨hpass', _, hkept'⟩ := ho v' hv
  refine (hpass.mono hleft).append hpass' hkept' hright (fun other hs => ?_) fun other hs => ?_
  · exact hrest.kept other (List.mem_append_left _ (List.mem_append_right _ hs))
  · exact hrest.apart (List.mem_append_right _ hs)

/-- The side of a condition that is not taken is skipped, and then the other one is run. -/
theorem yields_choose (account : Account) {step : Step} {chosen passed : List Step} {work : Flow (Assoc Output)}
    (hp : Placed d kept before step.flat) (hg : step.isGate = false)
    (hs : (Step.flatAll chosen ++ Step.flatAll passed).Perm (Step.flatAll step.children))
    (h : Poised execution before (Step.flatAll step.children) c t.world)
    (hw : ∀ u : Stage, Poised execution before (Step.flatAll chosen) c u.world →
      Safe (around d execution kept ((Step.flatAll chosen).map Step.id))
        (Yields fun _ => Passes execution (Step.flatAll chosen) ((Step.flatAll chosen).map Step.id) c)
          work c u) :
    Safe (around d execution kept ((Step.flatAll step.children).map Step.id))
      (Yields (Publishes execution step c))
      (do
        skipAll env execution account passed
        let outputs ← work
        record step.id (.ofEntries outputs) none
        return .ofEntries outputs) c t := by
  have hsides := hp.children.1.perm hs
  have hothers := hp.children.1.perm (List.perm_append_comm.trans hs)
  have hchosen : Step.flatAll chosen ⊆ Step.flatAll step.children :=
    fun other ho => hs.subset (List.mem_append_left _ ho)
  have hpassed : Step.flatAll passed ⊆ Step.flatAll step.children :=
    fun other ho => hs.subset (List.mem_append_right _ ho)
  have hskip : Safe (around d execution kept ((Step.flatAll passed).map Step.id))
      (Yields fun _ c' u => c' = c ∧ ∀ other ∈ Step.flatAll passed, ∃ r,
        u.world.store.recordsAt execution other.id = [r] ∧ r.status = .skipped)
      (skipAll env execution account passed) c t :=
    yields_skipAll account (fun other ho => hsides.rest.kept_after ho) hsides.rest.nodup h.under
      fun other ho => (h.fresh other (hpassed ho)).1
  refine yields_bind (yields_keeping hskip h.under (ids_subset hpassed)) ?_
  rintro _ c' u ⟨⟨rfl, hskipped⟩, hu, hkept⟩
  have hpoised := (h.sub hchosen).beside hsides hu hkept (.refl _ _)
  refine yields_bind (yields_keeping (hw u hpoised) hu (ids_subset hchosen)) ?_
  rintro outputs c₂ x ⟨⟨hext, hover⟩, hx, hkept'⟩
  refine yields_publish hp hg ⟨hext.mono fun id hm => ?_, fun other ho => ?_⟩ _ _
  · exact ids_children step id (ids_subset hchosen id hm)
  · rcases List.mem_append.1 (hs.symm.subset ho) with hc | hc
    · exact hover other hc
    -- nothing is published for a side that is skipped, and the other side leaves its records
    · have hout := hothers.rest.apart (List.mem_append_right _ hc)
      obtain ⟨r, hr, hstatus⟩ := hskipped other hc
      rw [hext.stepOutput?_eq hout, (h.fresh other ho).2]
      exact .skipped ((hkept' _ (hsides.rest.kept_after hc) hout).trans hr) hstatus

/-! Branches -/

/-- The end of a branch that succeeded has what the branch wrote. -/
def Ended (execution : String) (fork : Context) (t : Stage) (step : Step) (e : BranchEnd) : Prop :=
  ∀ v, e.outcome = .ok v → ∃ c, c.own = e.own ∧
    Passes execution step.flat (step.flat.map Step.id) fork c t

theorem ended_onFork {fork : Context} {step : Step} {action : Flow StepResult}
    (h : Safe (around d execution kept (step.flat.map Step.id))
      (Yields fun _ => Passes execution step.flat (step.flat.map Step.id) fork) action fork s)
    (hu : Under execution s.world) :
    Round.SafeTurn (around d execution kept (step.flat.map Step.id))
      (fun e t => Under execution t.world ∧ Ended execution fork t step e) (onFork fork step action s) s := by
  refine Round.SafeTurn.bind (safe_keeping h hu) fun out t ho => ?_
  obtain ⟨outcome, c'⟩ := out
  refine Round.safeTurn_iff.2
    ⟨(around d execution kept _).guar_refl t, Round.safe_done.2 ⟨ho.2.1, fun v hv => ?_⟩⟩
  exact ⟨c', rfl, ho.1 v hv⟩

theorem Ended.stable {fork : Context} {step : Step} {e : BranchEnd} {ids : List String}
    (hin : ∀ other ∈ step.flat, other.id ∈ kept) :
    (around d execution kept ids).Stable fun t =>
      Under execution t.world ∧ Ended execution fork t step e := by
  rintro a b hr ⟨hu, h⟩
  refine ⟨lasting_under _ execution _ _ hr hu, fun v hv => ?_⟩
  obtain ⟨c', hown, hpass⟩ := h v hv
  refine ⟨c', hown, hpass.1, fun other ho => (hpass.2 other ho).congr ?_ rfl⟩
  exact Works.recordsAt_eq hr hu.1 fun hn => hn (hin other ho)

theorem ended_stable {fork : Context} {branches : List Step} {ends : List BranchEnd} {ids : List String}
    (hin : ∀ other ∈ Step.flatAll branches, other.id ∈ kept) : (around d execution kept ids).Stable fun t =>
      Under execution t.world ∧ List.Forall₂ (Ended execution fork t) branches ends := by
  rintro a b hr ⟨hu, h⟩
  refine ⟨lasting_under _ execution _ _ hr hu, ?_⟩
  induction h with
  | nil => exact .nil
  | cons hfirst _ ih =>
    have hended := Ended.stable (fun other ho => hin other (List.mem_append_left _ ho)) a b hr ⟨hu, hfirst⟩
    exact .cons hended.2 (ih fun other ho => hin other (List.mem_append_right _ ho))

theorem Passes.absorb {fork : Context} {step : Step} {e : BranchEnd} {b : Context} (hown : b.own = e.own)
    (hp : Passes execution step.flat (step.flat.map Step.id) fork b t) (hempty : fork.own = {})
    (hk : fork.Kempt)
    (hfork : ∀ other ∈ step.flat, fork.stepOutput? other.id = none)
    (hc : ∀ other ∈ step.flat, c.stepOutput? other.id = none) :
    Passes execution step.flat (step.flat.map Step.id) c { c with own := c.own.absorb e.own } t := by
  have hn : e.own.steps.names.Nodup := hown ▸ hp.1.kempt hk b.own (List.mem_cons_self ..)
  refine ⟨extends_absorb hn fun id hi => ?_, fun other ho => (hp.2 other ho).congr rfl ?_⟩
  · rw [← hown, hp.1.same id hi, hempty]
    rfl
  · have houter : fork.outer.findSome? (·.steps.get? other.id) = none := by
      have hnone := hfork other ho
      rwa [stepOutput?_eq, hempty] at hnone
    rw [stepOutput?_absorb hn, hc other ho, stepOutput?_eq b, hown, hp.1.outer, houter]

theorem yields_join_error {ids : List String} {e : BranchEnd} {f : Failure} (hout : e.outcome = .error f)
    (outputs : Assoc Output) :
    Safe (around d execution kept ids) (Yields fun _ c' u => c' = c ∧ u = t) (join outputs e) c t := by
  unfold join
  rw [hout]
  dsimp only
  split_ifs
  · exact yields_throw
  · exact yields_pure ⟨rfl, rfl⟩

theorem yields_join_ok {ids : List String} {e : BranchEnd} {result : StepResult}
    (hout : e.outcome = .ok result) (outputs : Assoc Output) :
    Safe (around d execution kept ids)
      (Yields fun _ c' u => c' = { c with own := c.own.absorb e.own } ∧ u = t) (join outputs e) c t := by
  unfold join
  rw [hout]
  refine yields_bind (p := fun _ c' u => c' = { c with own := c.own.absorb e.own } ∧ u = t)
    (safe_modify fun _ _ => ⟨rfl, rfl⟩) ?_
  rintro _ c' u ⟨rfl, rfl⟩
  exact yields_pure ⟨rfl, rfl⟩

theorem yields_joins {ids : List String} {fork : Context} {branches : List Step} {ends : List BranchEnd}
    (he : List.Forall₂ (Ended execution fork t) branches ends) (hempty : fork.own = {}) (hk : fork.Kempt)
    (hfork : ∀ other ∈ Step.flatAll branches, fork.stepOutput? other.id = none)
    (hc : ∀ other ∈ Step.flatAll branches, c.stepOutput? other.id = none)
    (hp : Placed d kept before (Step.flatAll branches)) (outputs : Assoc Output) :
    Safe (around d execution kept ids) (Yields fun _ c' u =>
      u = t ∧ ((∀ e ∈ ends, BranchEnd.failure? e = none) →
        Passes execution (Step.flatAll branches) ((Step.flatAll branches).map Step.id) c c' t))
      (ends.foldlM join outputs) c t := by
  induction he generalizing c outputs before with
  | nil => exact yields_pure ⟨rfl, fun _ => passes_nil ..⟩
  | @cons first e rest ends hfirst hrest ih =>
    have hleft : first.flat ⊆ Step.flatAll (first :: rest) := List.subset_append_left _ _
    have hright : Step.flatAll rest ⊆ Step.flatAll (first :: rest) := List.subset_append_right _ _
    have hforkrest := fun other ho => hfork other (hright ho)
    have hafter : Placed d kept (before ++ first.flat) (Step.flatAll rest) := Placed.rest hp
    cases hout : e.outcome with
    | error f =>
      refine yields_bind (yields_join_error hout outputs) ?_
      rintro outputs' c' u ⟨rfl, rfl⟩
      have hih := ih hforkrest (fun other ho => hc other (hright ho)) hafter outputs'
      refine hih.mono fun out c'' x ho v hv => ⟨(ho v hv).1, fun hall => ?_⟩
      have hfailed := hall e (List.mem_cons_self ..)
      rw [BranchEnd.failure?, hout] at hfailed
      cases hfailed
    | ok result =>
      obtain ⟨b, hown, hpass⟩ := hfirst result hout
      have habsorb := hpass.absorb hown hempty hk (fun other ho => hfork other (hleft ho))
        fun other ho => hc other (hleft ho)
      refine yields_bind (yields_join_ok hout outputs) ?_
      rintro outputs' c' u ⟨rfl, rfl⟩
      have hfar (other : Step) (ho : other ∈ Step.flatAll rest) : other.id ∉ first.flat.map Step.id :=
        (Placed.rest (hp.perm List.perm_append_comm)).apart (List.mem_append_right _ ho)
      have hih := ih hforkrest (fun other ho => by
        rw [habsorb.1.stepOutput?_eq (hfar other ho)]
        exact hc other (hright ho)) hafter outputs'
      refine hih.mono fun out c'' x ho v hv => ⟨(ho v hv).1, fun hall => ?_⟩
      have hothers := (ho v hv).2 fun e' he' => hall e' (List.mem_cons_of_mem _ he')
      exact (habsorb.mono (ids_subset hleft)).append hothers (fun _ _ _ => rfl) (ids_subset hright)
        (fun other ho => hp.kept_after (hleft ho)) fun other ho => hafter.apart (List.mem_append_right _ ho)

theorem yields_joinAll {step : Step} {ends : List BranchEnd} (hp : Placed d kept before step.flat)
    (hg : step.isGate = false) (h : Poised execution before (Step.flatAll step.children) c t.world)
    {u : Stage} (he : List.Forall₂ (Ended execution c.fork u) step.children ends) :
    Safe (around d execution kept ((Step.flatAll step.children).map Step.id))
      (Yields (Publishes execution step c))
      (joinAll step.id ends) c u := by
  have hfresh (other : Step) (ho : other ∈ Step.flatAll step.children) : c.stepOutput? other.id = none :=
    (h.fresh other ho).2
  refine yields_bind (yields_joins he rfl h.kempt.fork hfresh hfresh hp.children.1 []) ?_
  rintro outputs c' x ⟨rfl, hpass⟩
  cases hf : ends.findSome? BranchEnd.failure? with
  | some f => exact yields_throw
  | none =>
    have hover := (hpass (List.findSome?_eq_none_iff.1 hf)).mono (ids_children step)
    exact yields_publish hp hg hover _ _

theorem beside_branches {first rest : List Step} (hp : Placed d kept before (first ++ rest)) :
    (around d execution kept ((first ++ rest).map Step.id)).Beside
      (around d execution ((before ++ first).map Step.id) (first.map Step.id))
      (around d execution ((before ++ rest).map Step.id) (rest.map Step.id)) := by
  have hswap := hp.perm List.perm_append_comm
  have hleft := ids_subset (List.subset_append_left first rest)
  have hright := ids_subset (List.subset_append_right first rest)
  refine ⟨fun hr => hr.mono (recording_le fun id hn hm => hn ?_),
    fun hr => hr.mono (recording_le fun id hn hm => hn ?_),
    fun hg => hg.mono (recording_le hleft), fun hg => hg.mono (recording_le hright),
    fun hg => hg.mono (recording_le fun id hm hn => ?_), fun hg => hg.mono (recording_le fun id hm hn => ?_)⟩
  · obtain ⟨other, ho, rfl⟩ := List.mem_map.1 hm
    exact hp.head.kept other ho
  · obtain ⟨other, ho, rfl⟩ := List.mem_map.1 hm
    exact hswap.head.kept other ho
  · obtain ⟨other, ho, rfl⟩ := List.mem_map.1 hn
    exact hswap.rest.apart ho hm
  · obtain ⟨other, ho, rfl⟩ := List.mem_map.1 hn
    exact hp.rest.apart ho hm

theorem Poised.turn {ids : List String} {after : List Step} (h : Poised execution before after c s.world)
    (hr : (around d execution ((before ++ after).map Step.id) ids).rely s t) :
    Poised execution before after c t.world := by
  have hkept : Kept execution ((before ++ after).map Step.id) [] s.world t.world :=
    kept_of_works hr h.under.1 fun id hm _ hn => hn hm
  exact h.keep (lasting_under _ execution _ _ hr h.under) hkept (.refl _ _)
    (fun other ho => List.mem_map_of_mem ho) fun _ _ => List.not_mem_nil

mutual

theorem yields_step (account : Account) {kept : List String} {before : List Step} {step : Step} {c : Context}
    {s : Stage} (hp : Placed d kept before step.flat) (hs : Validation.Sees (before.map Step.id) step)
    (h : Poised execution before step.flat c s.world) :
    Safe (around d execution kept (step.flat.map Step.id))
      (Yields fun _ => Passes execution step.flat (step.flat.map Step.id) c)
      (Run.step env execution account step) c s := by
  cases step with
  | agent id agent operation input key =>
    exact yields_recorded hp account hs h fun t _ => yields_callAgent account hp _
  | condition id test whenTrue whenFalse =>
    rw [Validation.Sees] at hs
    obtain ⟨hr, htrue, hfalse⟩ := hs
    refine yields_recorded hp account hr h fun t ht =>
      yields_view_bind (yields_ofExcept_bind fun holds _ => ?_)
    have hchildren : Step.flatAll (Step.condition id test whenTrue whenFalse).children =
        Step.flatAll whenTrue ++ Step.flatAll whenFalse := Step.flatAll_append ..
    cases holds with
    | true =>
      have hperm : (Step.flatAll whenTrue ++ Step.flatAll whenFalse).Perm
          (Step.flatAll (Step.condition id test whenTrue whenFalse).children) := by rw [hchildren]
      have hinner := (hp.children.1.perm hperm).head
      exact yields_choose account hp rfl hperm ht fun u hu => yields_sequence account [] hinner htrue hu
    | false =>
      have hperm : (Step.flatAll whenFalse ++ Step.flatAll whenTrue).Perm
          (Step.flatAll (Step.condition id test whenTrue whenFalse).children) := by
        rw [hchildren]
        exact List.perm_append_comm
      have hinner := (hp.children.1.perm hperm).head
      exact yields_choose account hp rfl hperm ht fun u hu => yields_sequence account [] hinner hfalse hu
  | parallel id branches =>
    rw [Validation.Sees] at hs
    refine yields_recorded hp account hs.1 h fun t ht => yields_onLedger_bind rfl fun first ledger => ?_
    refine yields_get_bind ?_
    have hinner := hp.children.1
    have hfork : Poised execution before (Step.flatAll branches) c.fork t.world :=
      ⟨ht.under, ht.kempt.fork, ht.gone, ht.fresh⟩
    have hall := safe_branches_ended account first (s := { t with ledger }) hinner hs.2 hfork
    refine yields_bind (p := fun ends c' u => c' = c ∧ List.Forall₂ (Ended execution c.fork u) branches ends)
      (safe_lift (Process.safeTurn_all hall fun ends => ended_stable fun other ho => hinner.kept_after ho)
        fun ends u ho v hv => ?_) ?_
    · cases hv
      exact ⟨rfl, ho.2⟩
    · rintro ends c' u ⟨rfl, hended⟩
      exact yields_joinAll hp rfl ht hended
  | aggregate id sources how key =>
    exact yields_recorded hp account hs h fun t _ => yields_aggregate hp _
  | transform id fields key =>
    exact yields_recorded hp account hs h fun t _ => yields_transform hp _
  | validate id rules =>
    have hnone := (h.fresh (.validate id rules) (by simp [Step.flat])).2
    exact yields_recorded hp account hs h fun t _ => yields_validate hnone

theorem yields_sequence (account : Account) (outputs : Assoc Output) {kept : List String}
    {before steps : List Step} {c : Context} {s : Stage} (hp : Placed d kept before (Step.flatAll steps))
    (hs : Validation.SeesAll (before.map Step.id) steps)
    (h : Poised execution before (Step.flatAll steps) c s.world) :
    Safe (around d execution kept ((Step.flatAll steps).map Step.id))
      (Yields fun _ => Passes execution (Step.flatAll steps) ((Step.flatAll steps).map Step.id) c)
      (sequence env execution account outputs steps) c s := by
  cases steps with
  | nil => exact yields_pure (passes_nil ..)
  | cons first rest =>
    rw [Validation.SeesAll, ← List.map_append] at hs
    have hfirst := yields_step account (Placed.head hp) hs.1 (h.sub (List.subset_append_left _ _))
    exact yields_andThen hp h hfirst fun v c' t ht => yields_sequence account _ (Placed.rest hp) hs.2 ht

theorem safe_branches_ended (account : Account) (n : Nat) {kept : List String} {before branches : List Step}
    {fork : Context} {s : Stage} (hp : Placed d kept before (Step.flatAll branches))
    (hs : Validation.SeesEach (before.map Step.id) branches)
    (h : Poised execution before (Step.flatAll branches) fork s.world) :
    Round.Safe (around d execution kept ((Step.flatAll branches).map Step.id))
      (fun ends t => Under execution t.world ∧ List.Forall₂ (Ended execution fork t) branches ends)
      (Round.all ((Run.branches env execution fork account n branches).map Round.go)) s := by
  cases branches with
  | nil => exact Round.safe_done.2 ⟨h.under, .nil⟩
  | cons first rest =>
    rw [Validation.SeesEach] at hs
    -- each side looks after its own steps and those before, so that the other side may write
    have hfirst := (Placed.head hp).tight
    have hother := (Placed.head (hp.perm List.perm_append_comm)).tight
    have hgo : Round.Safe (around d execution ((before ++ first.flat).map Step.id) (first.flat.map Step.id))
        (fun e t => Under execution t.world ∧ Ended execution fork t first e)
        (.go (onFork fork first (Run.step env execution (n :: account) first))) s := by
      refine Round.safe_go.2 fun t ht => Round.safeTurn_iff.1 ?_
      -- a branch may wait for its first turn while those before it write
      have hturn := (h.sub (List.subset_append_left _ _)).turn ht
      exact ended_onFork (yields_step (n :: account) hfirst hs.1 hturn) hturn.under
    have hrest := safe_branches_ended account (n + 1) hother hs.2 (h.sub (List.subset_append_right _ _))
    have hboth := hgo.both hrest (beside_branches hp)
      (fun e => Ended.stable fun other ho => hfirst.kept_after ho)
      fun ends => ended_stable fun other ho => hother.kept_after ho
    refine Round.Safe.map (hboth.mono (fun _ _ hr => hr) (fun _ _ hg => hg) fun v t ho => ?_)
    exact ⟨ho.1.1, .cons ho.1.2 ho.2.2⟩

end

end Run

end Conductor
