import Conductor.Proofs.Engine.Lifecycle
import Conductor.Proofs.Run.Trace
import Conductor.Proofs.Store.Look

/-! Runs in which no request fails. Such a run comes back: it was cancelled before it could start, or its
steps ran as their trace tells, and what is left of it is read from its own record. -/

namespace Conductor

open World Store

namespace World

variable {α : Type} {env : Setting} {own : String} {a b c w : World}

theorem calm_of_bind {β : Type} {first : Act World α} {next : α → Act World β} [ha : Act.Grows first]
    [hn : ∀ v, Act.Grows (next v)] (hcalm : ((first >>= next) w).2.refusals = w.refusals) :
    (first w).2.refusals = w.refusals ∧
      ∀ v t, first w = (.ok v, t) → (first >>= next) w = next v t ∧ (next v t).2.refusals = t.refusals := by
  have hlater := ha.later w
  rw [Act.bind_apply] at hcalm
  rcases hfirst : first w with ⟨f | v, t⟩
  · rw [hfirst] at hcalm
    exact ⟨hcalm, fun _ _ => nofun⟩
  · rw [hfirst] at hcalm hlater
    obtain ⟨ht, hrest⟩ := hlater.calm ((hn v).later t) hcalm
    refine ⟨ht, fun v' t' hv => ?_⟩
    cases hv
    exact ⟨by rw [Act.bind_apply, hfirst]; rfl, hrest⟩

theorem share_of_updated {id : String} {p : ExecutionPatch} {expected : Option (List RunStatus)}
    {out : Except Failure (Option Execution) × Store} (hu : w.store.Updated id p expected out) :
    (w.asked out).share = w.share := by
  refine Share.ext ?_ rfl rfl
  show ((out.2.records : List StepRecord) : Multiset StepRecord) = w.store.records
  cases hu with
  | refused f => rfl
  | passed => rfl
  | wrote found asked wrote replaced answer => rw [replaced.records]

theorem updateExecution_calm (hw : w.Sound) (p : ExecutionPatch) (hp : p.isEmpty = false)
    (expected : Option (List RunStatus))
    (hcalm : (World.updateExecution env own (.ok p) expected w).2.refusals = w.refusals) :
    ∃ s v t, World.updateExecution env own (.ok p) expected w = (.ok v, t) ∧ Leaves own w.store s ∧
      s.Updated own p expected (.ok v, t.store) ∧ t.Sound ∧ t.share = w.share ∧ w.turns < t.turns := by
  obtain ⟨mid, hmid, hout⟩ := Engine.updateExecution_cases env own p hp expected w
  rcases hout with ⟨f, t, hout, ht⟩ | ⟨⟨f | v, t⟩, hu, hout⟩
  · rw [hout] at hcalm
    exact absurd (ht.refusals.symm.trans hcalm) (List.cons_ne_self _ _)
  · rw [hout] at hcalm
    have hcons : f :: mid.refusals = w.refusals := hcalm
    rw [hmid.refusals] at hcons
    exact absurd hcons (List.cons_ne_self _ _)
  · exact ⟨mid.store, v, _, hout, leaves_of_others hmid.others hw own, hu, (hmid.works hw).sound.updated rfl hu rfl,
      (share_of_updated hu).trans (hmid.share hw), hmid.turns.ge⟩

theorem findExecution_calm (hw : w.Sound) (hhas : w.Has own)
    (hcalm : (World.findExecution env own w).2.refusals = w.refusals) :
    ∃ e t, World.findExecution env own w = (.ok (some e), t) ∧ Works .others w t ∧ t.share = w.share ∧
      t.store.Shows own e := by
  obtain ⟨mid, hmid, hout⟩ := requested env .findExecution (onStore (Store.findExecution own)) w
  rcases hout with ⟨f, t, hout, ht⟩ | hout
  · have hfind : World.findExecution env own w = (.error f, t) := hout
    rw [hfind] at hcalm
    exact absurd (ht.refusals.symm.trans hcalm) (List.cons_ne_self _ _)
  · have hfind : World.findExecution env own w = _ := hout.trans (reporting_onStore _ _)
    rw [hfind] at hcalm ⊢
    have hsame := findExecution_snd (s := mid.store) own
    rcases hlook : Store.findExecution own mid.store with ⟨f | _ | e, t⟩
    · rw [hlook] at hcalm
      have hcons : f :: mid.refusals = w.refusals := hcalm
      rw [hmid.refusals] at hcons
      exact absurd hcons (List.cons_ne_self _ _)
    · -- others make no run disappear
      have hthere : mid.Has own := (hmid.others hw).leads.has hhas
      rw [Has, execution?_of_findExecution (congrArg Prod.fst hlook)] at hthere
      cases hthere
    · rw [hlook] at hsame
      obtain rfl : t = mid.store := hsame
      refine ⟨e, _, rfl, ?_, hmid.share hw, shows_of_findExecution (congrArg Prod.fst hlook)⟩
      refine IsTrans.trans _ _ _ hmid.others fun hm => ?_
      exact ⟨hm.same rfl (.refl _), .asked (.refl _) (.same (.refl _)) rfl, [], rfl, by simp⟩

end World

namespace Store

variable {s t : Store} {own : String}

theorem Shows.cancelled_iff {e : Execution} (h : s.Shows own e) : At own [.cancelled] s ↔ e.status = .cancelled := by
  obtain ⟨x, hx, hshown, -⟩ := h.execution
  have hstatus : e.status = x.status := by rw [hshown]
  rw [hstatus]
  refine ⟨?_, fun hcancelled => ⟨x, hx, List.mem_singleton.2 hcancelled⟩⟩
  rintro ⟨y, hy, hcancelled⟩
  rw [hx] at hy
  cases hy
  exact List.mem_singleton.1 hcancelled

/-- Others leave a run that has ended as it is. -/
theorem Leaves.kept {e : Execution} (h : Leaves own s t) (he : s.execution? own = some e)
    (hended : e.status ∉ RunStatus.active) : t.execution? own = some e := by
  rcases h.execution with hsame | ⟨x, now, hx, hactive, _⟩
  · rw [hsame, he]
  · rw [he] at hx
    cases hx
    exact absurd hactive hended

/-- A run goes by its id, and there is no error on its record. -/
def Clear (own : String) (s : Store) : Prop := ∀ e, s.execution? own = some e → e.id = own ∧ e.error = .null

theorem Leaves.clear (h : Leaves own s t) (hs : Clear own s) : Clear own t := by
  intro e he
  rcases h.execution with hsame | ⟨x, now, hx, _, ht⟩
  · exact hs e (hsame ▸ he)
  · rw [ht] at he
    cases he
    exact hs x hx

theorem clear_of_wrote {p : ExecutionPatch} {e e' : Execution} (hp : p.error = none) (hwrote : p.Wrote e e')
    (hrep : s.Replaced own e' t) (he : s.execution? own = some e) (hs : Clear own s) : Clear own t := by
  intro x hx
  rw [hrep.execution?, if_pos rfl] at hx
  cases hx
  obtain ⟨hid, herror⟩ := hs e he
  exact ⟨by rw [hwrote.kept]; exact hid, (hwrote.error hp).trans herror⟩

end Store

namespace Engine

variable {env : Setting} {own : String} {w : World}

theorem getExecution_calm {e : Execution} (hw : w.Sound) (he : w.store.execution? own = some e)
    (hended : e.status ∉ RunStatus.active)
    (hcalm : (World.getExecution env own w).2.refusals = w.refusals) :
    ∃ x t, World.getExecution env own w = (.ok x, t) ∧ Works .others w t ∧ t.share = w.share ∧
      t.store.execution? own = some e ∧ e.ShownAs x ∧ t.store.Shows own x := by
  have hsame : (World.getExecution env own w).2 = (World.findExecution env own w).2 := by
    rw [World.getExecution, Act.bind_apply]
    rcases World.findExecution env own w with ⟨f | _ | e, t⟩ <;> rfl
  rw [hsame] at hcalm
  obtain ⟨x, t, hfind, hothers, hshare, hshows⟩ := findExecution_calm hw (by rw [Has, he]; rfl) hcalm
  have hkept := (leaves_of_others hothers hw own).kept he hended
  obtain ⟨e', he', hshown⟩ := hshows.execution
  rw [hkept] at he'
  cases he'
  refine ⟨x, t, ?_, hothers, hshare, hkept, hshown, hshows⟩
  rw [World.getExecution, Act.bind_apply, hfind]
  rfl

/-- What comes back of a run: with that status and error if it was still running, and without an error
if it was cancelled; in any case with its results. -/
structure Closed (own : String) (status : RunStatus) (error : Option String) (c : Context) (total : Float)
    (e : Execution) : Prop where
  id : e.id = own
  ended : (e.status = status ∧ e.error = error.elim .null .str) ∨ (e.status = .cancelled ∧ e.error = .null)
  output : e.output = (c.snapshot (.ofEntries c.flatten.outputs)).stored ∨ e.copyable = false
  cost : e.cost = .real total ∨ e.cost = .real (total + 0.0)

theorem closed_of_ended {status : RunStatus} {error : Option String} {c : Context} {total : Float} {now : Time}
    {e e' : Execution} (hwrote : (endPatch (results c total) status error now).Wrote e e')
    (hs : e'.status = status) (hid : e.id = own) (hnull : e.error = .null) : Closed own status error c total e' where
  id := by
    rw [hwrote.kept]
    exact hid
  ended := by
    refine .inl ⟨hs, ?_⟩
    cases error with
    | none => exact (hwrote.error rfl).trans hnull
    | some text => exact hwrote.text text rfl
  output := hwrote.snapshot _ rfl
  cost := hwrote.real _ rfl

theorem closed_of_results {c : Context} {total : Float} {e e' : Execution} (hwrote : (results c total).Wrote e e')
    (hid : e.id = own) (hnull : e.error = .null) (hcancelled : e'.status = .cancelled) (status : RunStatus)
    (error : Option String) : Closed own status error c total e' where
  id := by
    rw [hwrote.kept]
    exact hid
  ended := .inr ⟨hcancelled, (hwrote.error rfl).trans hnull⟩
  output := hwrote.snapshot _ rfl
  cost := hwrote.real _ rfl

theorem results_calm {c : Context} {total : Float} {e : Execution} (hw : w.Sound)
    (he : w.store.execution? own = some e) (hcancelled : e.status = .cancelled) (hid : e.id = own)
    (hnull : e.error = .null)
    (hcalm : ((discard (World.updateExecution env own (.ok (results c total)) none) >>= fun _ =>
      World.getExecution env own) w).2.refusals = w.refusals) (status : RunStatus) (error : Option String) :
    ∃ x t e', (discard (World.updateExecution env own (.ok (results c total)) none) >>= fun _ =>
        World.getExecution env own) w = (.ok x, t) ∧
      t.share = w.share ∧ t.store.execution? own = some e' ∧ e'.ShownAs x ∧ t.store.Shows own x ∧
      Closed own status error c total e' := by
  obtain ⟨hupdate, hget⟩ := calm_of_bind hcalm
  rw [Act.discard_apply] at hupdate
  obtain ⟨s, v, t, hout, hleaves, hu, hsound, hshare, -⟩ := updateExecution_calm hw (results c total) rfl none hupdate
  obtain ⟨hlook, hcalm'⟩ := hget ⟨⟩ t (by rw [Act.discard_apply, hout]; rfl)
  have hkept := hleaves.kept he (by rw [hcancelled]; decide)
  cases hu with
  | passed _ asked _ => cases asked
  | @wrote x e' _ _ found _ wrote replaced _ =>
    rw [hkept] at found
    cases found
    have hstatus : e'.status = .cancelled := (wrote.status rfl).trans hcancelled
    obtain ⟨x, u, hread, _, hsame, hfinal, hshown, hshows⟩ := getExecution_calm hsound
      ((replaced.execution? own).trans (if_pos rfl)) (by rw [hstatus]; decide) hcalm'
    exact ⟨x, u, e', hlook.trans hread, hsame.trans hshare, hfinal, hshown, hshows,
      closed_of_results wrote hid hnull hstatus status error⟩

theorem conclude_calm {status : RunStatus} {error : Option String} {c : Context} {total : Float}
    (hstatus : status = .completed ∨ status = .failed) (hw : w.Sound)
    (hat : At own [.running, .cancelled] w.store) (hclear : Clear own w.store)
    (hcalm : (conclude env own status error (results c total) w).2.refusals = w.refusals) :
    ∃ x t e, conclude env own status error (results c total) w = (.ok x, t) ∧ t.share = w.share ∧
      t.store.execution? own = some e ∧ e.ShownAs x ∧ t.store.Shows own x ∧ Closed own status error c total e := by
  rw [conclude_apply] at hcalm ⊢
  obtain ⟨hfirst, hrest⟩ := calm_of_bind hcalm
  obtain ⟨s, v, t, hout, hleaves, hu, hsound, hshare, -⟩ := updateExecution_calm hw _ rfl (some [.running]) hfirst
  obtain ⟨hconclude, hcalm'⟩ := hrest _ _ hout
  generalize hstore : t.store = after at hu
  cases hu with
  | @passed e statuses found asked hnot =>
    cases asked
    -- others have cancelled the run, and so it only gets its results
    have hcancelled : e.status = .cancelled := by
      obtain ⟨x, hx, hstatus⟩ := hleaves.at (by simp) hat
      rw [found] at hx
      cases hx
      exact List.mem_singleton.1 ((List.mem_cons.1 hstatus).resolve_left fun h => hnot (List.mem_singleton.2 h))
    obtain ⟨hid, hnull⟩ := hleaves.clear hclear e found
    rw [← hstore] at found
    obtain ⟨x, u, e', hagain, hsame, hshown⟩ :=
      results_calm hsound found hcancelled hid hnull hcalm' status error
    exact ⟨x, u, e', hconclude.trans hagain, hsame.trans hshare, hshown⟩
  | @wrote e e' _ _ found asked wrote replaced answer =>
    obtain ⟨hid, hnull⟩ := hleaves.clear hclear e found
    have hended : e'.status = status := wrote.status (by rcases hstatus with rfl | rfl <;> rfl)
    cases v with
    | none => exact absurd rfl answer
    | some v =>
      have hfound : t.store.execution? own = some e' := by
        rw [hstore]
        exact (replaced.execution? own).trans (if_pos rfl)
      obtain ⟨x, u, hread, _, hsame, hfinal, hshown, hshows⟩ := getExecution_calm hsound hfound
        (by rw [hended]; rcases hstatus with rfl | rfl <;> decide) hcalm'
      exact ⟨x, u, e', hconclude.trans hread, hsame.trans hshare, hfinal, hshown, hshows,
        closed_of_ended wrote hended hid hnull⟩

theorem start_calm (hw : w.Sound) (hat : At own [.pending, .cancelled] w.store) (hclear : Clear own w.store)
    (hcalm : (start env own w).2.refusals = w.refusals) :
    ∃ b t, start env own w = (.ok b, t) ∧ t.Sound ∧ t.share = w.share ∧ w.turns < t.turns ∧ Clear own t.store ∧
      At own [if b then .running else .cancelled] t.store := by
  rw [start_apply] at hcalm ⊢
  obtain ⟨hfirst, hrest⟩ := calm_of_bind hcalm
  obtain ⟨s, v, t, hout, hleaves, hu, hsound, hshare, hturns⟩ :=
    updateExecution_calm hw _ rfl (some [.pending]) hfirst
  obtain ⟨hstart, -⟩ := hrest _ _ hout
  have hclear' := hleaves.clear hclear
  refine ⟨v.isSome, t, hstart, hsound, hshare, hturns, ?_⟩
  generalize t.store = after at hu
  cases hu with
  | @passed e statuses found asked hnot =>
    cases asked
    refine ⟨hclear', e, found, ?_⟩
    obtain ⟨x, hx, hstatus⟩ := hleaves.at (by simp) hat
    rw [found] at hx
    cases hx
    exact (List.mem_cons.1 hstatus).resolve_left fun h => hnot (List.mem_singleton.2 h)
  | @wrote e e' _ _ found asked wrote replaced answer =>
    refine ⟨clear_of_wrote rfl wrote replaced found hclear', e',
      (replaced.execution? own).trans (if_pos rfl), ?_⟩
    rw [wrote.named rfl]
    cases v with
    | none => exact absurd rfl answer
    | some v => exact List.mem_singleton_self _

end Engine

namespace Flow

variable {α β : Type} {c : Context} {s : Stage}

theorem calm_of_bind {f : Flow α} {g : α → Flow β} [Grows f] [∀ v, Grows (g v)]
    (hcalm : ((f >>= g).exec c s).2.world.refusals = s.world.refusals) :
    (f.exec c s).2.world.refusals = s.world.refusals ∧
      ∀ v c' t, f.exec c s = ((.ok v, c'), t) →
        (f >>= g).exec c s = (g v).exec c' t ∧ ((g v).exec c' t).2.world.refusals = t.world.refusals := by
  have hlater := Flow.later f c s
  rcases hf : f.exec c s with ⟨⟨e | v, c'⟩, t⟩
  · rw [exec_bind_error hf] at hcalm
    exact ⟨hcalm, fun _ _ _ => nofun⟩
  · rw [exec_bind_ok hf] at hcalm
    rw [hf] at hlater
    obtain ⟨ht, hrest⟩ := hlater.calm (Flow.later (g v) c' t) hcalm
    refine ⟨ht, fun v' c'' t' hv => ?_⟩
    cases hv
    exact ⟨exec_bind_ok hf, hrest⟩

end Flow

end Conductor
