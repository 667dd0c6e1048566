import Conductor.Proofs.World.Requests
import Mathlib.Algebra.Order.Group.Multiset

/-! Shares of a world: the records that have been made, the calls, the events. No two pieces of work
write the same record, and what others do meanwhile concerns none of these. -/

namespace Conductor

@[ext]
structure Share where
  records : Multiset StepRecord := 0
  calls : Multiset Call := 0
  events : Multiset Event := 0

namespace Share

instance : Zero Share := ⟨{}⟩

instance : Add Share := ⟨fun a b => ⟨a.records + b.records, a.calls + b.calls, a.events + b.events⟩⟩

@[simp] theorem records_zero : (0 : Share).records = 0 := rfl

@[simp] theorem calls_zero : (0 : Share).calls = 0 := rfl

@[simp] theorem events_zero : (0 : Share).events = 0 := rfl

@[simp] theorem records_add (a b : Share) : (a + b).records = a.records + b.records := rfl

@[simp] theorem calls_add (a b : Share) : (a + b).calls = a.calls + b.calls := rfl

@[simp] theorem events_add (a b : Share) : (a + b).events = a.events + b.events := rfl

instance : AddCommMonoid Share where
  add_assoc a b c := Share.ext (add_assoc ..) (add_assoc ..) (add_assoc ..)
  zero_add a := Share.ext (zero_add _) (zero_add _) (zero_add _)
  add_zero a := Share.ext (add_zero _) (add_zero _) (add_zero _)
  add_comm a b := Share.ext (add_comm ..) (add_comm ..) (add_comm ..)
  nsmul := nsmulRec

theorem records_add_events (rs : Multiset StepRecord) (es : Multiset Event) :
    ({ records := rs } : Share) + { events := es } = { records := rs, events := es } := by
  ext1 <;> simp

end Share

def World.share (w : World) : Share := ⟨w.store.records, w.calls, w.journal⟩

/-- How a call ends that behaves in some way. One that cancels a run may fail for that. -/
inductive Behaviour.Ends (b : Behaviour) : Except Failure (Json × Bool) → Prop
  | dropped {f : Failure} (h : b.cancels.isSome) : Ends b (.error f)
  | fails {e : Raised} (h : b.outcome = .fails e) : Ends b (.error (.raised e))
  | replies {envelope : Json} (h : b.outcome = .replies envelope) : Ends b (.ok (envelope, b.echoes))

namespace World

open Act

variable {env : Setting} {w : World}

theorem share_of_others {a b : World} (h : Works .others a b) (ha : a.Sound) (hc : b.calls = a.calls) :
    b.share = a.share := by
  rw [share, share, records_of_others h ha, journal_of_others h ha, hc]

theorem Awaits.share {method : Method} {mid : World} (h : Awaits env method w mid) (hw : w.Sound) :
    mid.share = w.share :=
  share_of_others h.others hw (by rw [h.rest])

theorem createStep_share {execution step : String} (hw : w.Sound)
    (hcalm : (createStep env execution step w).2.refusals = w.refusals) :
    ∃ r, (createStep env execution step w).1 = .ok r ∧ r = { id := r.id, execution, step } ∧
      (createStep env execution step w).2.share = { records := {r} } + w.share := by
  rcases createStep_cases env hw execution step with ⟨f, t, hout, ht⟩ | ⟨mid, r, t, hmid, added, hr, hout⟩
  · rw [hout] at hcalm
    exact absurd (ht.refusals.symm.trans hcalm) (List.cons_ne_self _ _)
  · rw [hout]
    refine ⟨r, rfl, by rw [hr], ?_⟩
    rw [← hmid.share hw]
    refine Share.ext ?_ (zero_add _).symm (zero_add _).symm
    show (t.records : Multiset StepRecord) = {r} + mid.store.records
    rw [added.records, ← Multiset.coe_add, add_comm]
    rfl

theorem replaced_records {rs : List StepRecord} {r : StepRecord} (r' : StepRecord) (hd : (rs.map (·.id)).Nodup)
    (hr : r ∈ rs) :
    {r} + ((rs.map fun old => if old.id = r.id then r' else old : List StepRecord) : Multiset StepRecord) =
      {r'} + (rs : Multiset StepRecord) := by
  induction rs with
  | nil => cases hr
  | cons first rest ih =>
    rw [List.map_cons, List.nodup_cons] at hd
    simp only [List.map_cons, ← Multiset.cons_coe]
    by_cases hf : first.id = r.id
    · -- the others go by other ids, and stay
      have hrest : (rest.map fun old => if old.id = r.id then r' else old) = rest := by
        conv_rhs => rw [← List.map_id rest]
        refine List.map_congr_left fun old ho => if_neg fun he => hd.1 ?_
        exact hf.trans he.symm ▸ List.mem_map_of_mem ho
      have hfirst : first = r := by
        rcases List.mem_cons.1 hr with h | h
        · exact h.symm
        · exact absurd (hf ▸ List.mem_map_of_mem (f := (·.id)) h) hd.1
      rw [if_pos hf, hrest, hfirst, ← Multiset.singleton_add, ← Multiset.singleton_add, add_left_comm]
    · have hmem : r ∈ rest := (List.mem_cons.1 hr).resolve_left fun h => hf (h ▸ rfl)
      rw [if_neg hf, ← Multiset.singleton_add, ← Multiset.singleton_add, add_left_comm, ih hd.2 hmem,
        add_left_comm]

theorem updateStep_share {r : StepRecord} {rest : Share} {p : StepPatch} (hw : w.Sound)
    (hr : w.share = { records := {r} } + rest)
    (hcalm : (updateStep env r.id (.ok p) w).2.refusals = w.refusals) :
    ∃ v r', (updateStep env r.id (.ok p) w).1 = .ok v ∧ p.Wrote r r' ∧
      (updateStep env r.id (.ok p) w).2.share = { records := {r'} } + rest := by
  rcases updateStep_cases env hw r.id p with
    ⟨f, t, hout, ht⟩ | ⟨mid, old, new, out, hmid, named, wrote, rewrote, hout⟩
  · rw [hout] at hcalm
    exact absurd (ht.refusals.symm.trans hcalm) (List.cons_ne_self _ _)
  · rw [hout] at hcalm ⊢
    rw [← hmid.share hw] at hr
    have hrecords : (mid.store.records : Multiset StepRecord) = {r} + rest.records := congrArg Share.records hr
    have hmem : r ∈ mid.store.records := by
      rw [← Multiset.mem_coe, hrecords]
      exact Multiset.mem_add.2 (.inl (Multiset.mem_singleton_self r))
    obtain rfl : r = old := rewrote.alone r hmem named.symm
    rcases out with ⟨f | v, t⟩
    · have hcons : f :: mid.refusals = w.refusals := hcalm
      rw [hmid.refusals] at hcons
      exact absurd hcons (List.cons_ne_self _ _)
    · have hcalls : mid.share.calls = 0 + rest.calls := congrArg Share.calls hr
      have hevents : mid.share.events = 0 + rest.events := congrArg Share.events hr
      refine ⟨v, new, rfl, wrote, Share.ext ?_ hcalls hevents⟩
      have hreplaced := replaced_records new (hmid.works hw).sound.keyed.distinct hmem
      rw [← rewrote.records, hrecords, add_left_comm] at hreplaced
      exact add_left_cancel hreplaced

theorem note_share (event : Event) (w : World) : (note event w).2.share = { events := {event} } + w.share :=
  Share.ext (zero_add _).symm (zero_add _).symm rfl

theorem fail_apply {α : Type} (e : Raised) (w : World) :
    (fail e : Act World α) w =
      (.error (.raised e), { w with refusals := (if e.exit then [.raised e] else []) ++ w.refusals }) := by
  unfold fail
  by_cases h : e.exit = true
  · rw [if_pos h, reporting_apply, if_pos h]
    rfl
  · rw [if_neg h, if_neg h]
    rfl

theorem answer_share (env : Setting) (hw : w.Sound) (behaviour : Behaviour) :
    (answer env behaviour w).2.share = w.share ∧ behaviour.Ends (answer env behaviour w).1 := by
  unfold answer
  cases hc : behaviour.cancels with
  | none =>
    cases ho : behaviour.outcome with
    | fails e =>
      simp only [fail_apply]
      exact ⟨rfl, .fails ho⟩
    | replies envelope => exact ⟨rfl, .replies ho⟩
  | some id =>
    have hcancel : Works .others w (cancel env id w).2 := within_cancel Scope.le_rfl id w
    have hkept := share_of_others hcancel hw (sameCalls_cancel id w)
    dsimp only
    rw [bind_apply, discard_apply]
    rcases hout : cancel env id w with ⟨f | e, u⟩
    · rw [hout] at hkept
      exact ⟨hkept, .dropped (by rw [hc]; rfl)⟩
    · rw [hout] at hkept
      cases ho : behaviour.outcome with
      | fails e =>
        show (fail e u).2.share = _ ∧ behaviour.Ends (fail e u).1
        rw [fail_apply]
        exact ⟨hkept, .fails ho⟩
      | replies envelope => exact ⟨hkept, .replies ho⟩

theorem called_share (call : Call) (behaviour : Behaviour) (w : World) :
    (called call behaviour w).2.share = { calls := {call} } + w.share := by
  refine Share.ext (zero_add _).symm ?_ (zero_add _).symm
  show ((w.calls ++ [call] : List Call) : Multiset Call) = {call} + w.calls
  rw [← Multiset.coe_add, add_comm]
  rfl

theorem invoke_share (hw : w.Sound) (agent operation : String) (script : Script) (payload : Json) :
    (invoke env agent operation script payload w).2.share =
        { calls := {⟨agent, operation, payload⟩} } + w.share ∧
      ∃ n, (script n payload).Ends (invoke env agent operation script payload w).1 := by
  have hothers := (aside_arrive env w).works.mono (Scope.cancelling_le_others _)
  have hmid : (arrive env w).2.share = w.share := share_of_others hothers hw (sameCalls_arrive w)
  have hsound := (hothers hw).sound
  rw [invoke_eq, bind_apply, show arrive env w = (.ok ⟨⟩, (arrive env w).2) from Prod.ext (arrive_ok env w) rfl]
  generalize (arrive env w).2 = mid at hmid hsound
  let n := mid.calls.countP fun call => call.agent = agent && call.operation = operation
  have hcalled := (called_share ⟨agent, operation, payload⟩ (script n payload) mid).trans (by rw [hmid])
  have hsound' : (called ⟨agent, operation, payload⟩ (script n payload) mid).2.Sound :=
    ⟨hsound.keyed, hsound.executions, hsound.records, hsound.owned⟩
  obtain ⟨hshare, hends⟩ := answer_share env hsound' (script n payload)
  exact ⟨hshare.trans hcalled, n, hends⟩

end World

end Conductor
