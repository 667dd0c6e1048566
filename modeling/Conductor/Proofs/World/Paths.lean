import Conductor.Proofs.World.Stride

/-! The strides that each request takes. Most requests leave the records of steps alone, whatever else they
do; the two that do not are told apart by what becomes of the record. -/

namespace Conductor

namespace World

open Act

variable {α : Type} {env : Setting} {base : World} {m : Remit} {w : World}

/-- A world that is ready takes a path to another one. -/
def Treads (env : Setting) (base : World) (m : Remit) (a b : World) : Prop := Ready base a → Path env base m a b

instance : IsPreorder World (Treads env base m) where
  refl _ _ := .refl
  trans _ _ _ h h' hr := (h hr).trans (h' ((h hr).ready hr))

/-- The same, with the records of steps as they were. -/
def Tends (env : Setting) (base : World) (m : Remit) (a b : World) : Prop :=
  Ready base a → Path env base m a b ∧ b.store.records = a.store.records

instance : IsPreorder World (Tends env base m) where
  refl _ _ := ⟨.refl, rfl⟩
  trans _ _ _ h h' hr := by
    obtain ⟨hab, hrecords⟩ := h hr
    obtain ⟨hbc, hrecords'⟩ := h' (hab.ready hr)
    exact ⟨hab.trans hbc, hrecords'.trans hrecords⟩

theorem Tends.treads {a b : World} (h : Tends env base m a b) : Treads env base m a b := fun hr => (h hr).1

instance (priority := low) (a : Act World α) [h : Follows (Tends env base m) a] : Follows (Treads env base m) a :=
  ⟨fun w => (h.within w).treads⟩

theorem tends_of_idle {a b : World} (hs : b.store = a.store) (hp : b.past = a.past) (hi : b.issued = a.issued)
    (hclock : env.Forward → a.clock ≤ b.clock) (hc : a.calls <+: b.calls) (ht : a.turns ≤ b.turns) :
    Tends env base m a b :=
  fun _ => ⟨.single ⟨.idle hs hp hi, hclock, hc, ht⟩, by rw [hs]⟩

theorem tends_of_asked {a b : World} (h : Ready base a → Asked env base m a b ∧ b.store.records = a.store.records)
    (past : b.past = a.store :: a.past) (clock : b.clock = a.clock) (calls : b.calls = a.calls)
    (turns : b.turns = a.turns) : Tends env base m a b := fun hr =>
  ⟨.single ⟨.asked (h hr).1 past, fun _ => Int.le_of_eq clock.symm, calls ▸ List.prefix_rfl, Nat.le_of_eq turns.symm⟩,
    (h hr).2⟩

instance (event : Event) : Follows (Tends env base m) (note event) :=
  ⟨fun _ => tends_of_idle rfl rfl rfl (fun _ => Int.le_refl _) List.prefix_rfl (Nat.le_refl _)⟩

instance : Follows (Tends env base m) now := ⟨fun w => Std.Refl.refl w⟩

instance (action : Act World α) [h : Follows (Tends env base m) action] : Follows (Tends env base m) (reporting action) := by
  have hkept (f : Failure) : Follows (Tends env base m) (modify fun w : World => { w with refusals := f :: w.refusals }) :=
    follows_modify fun _ => tends_of_idle rfl rfl rfl (fun _ => Int.le_refl _) List.prefix_rfl (Nat.le_refl _)
  unfold reporting
  infer_instance

theorem follows_look {action : Act Store α} (h : ∀ s, (action s).2 = s) :
    Follows (Tends env base m) (onStore action) :=
  ⟨fun w => tends_of_asked (fun _ => ⟨.looked (h w.store) rfl, congrArg Store.records (h w.store)⟩) rfl rfl rfl rfl⟩

/-! Updates of runs -/

theorem asked_of_updated {a b : World} {id : String} {p : ExecutionPatch} {expected : Option (List RunStatus)}
    {out : Except Failure (Option Execution) × Store} (hu : a.store.Updated id p expected out)
    (hs : b.store = out.2) (hi : b.issued = a.issued) (hshelf : out.2.shelf = a.store.shelf)
    (hturn : ∀ e e', a.store.execution? id = some e → (∀ statuses, expected = some statuses → e.status ∈ statuses) →
      p.Wrote e e' → Turn env base m a id e e') :
    Asked env base m a b ∧ b.store.records = a.store.records := by
  cases hu with
  | refused f => exact ⟨.looked hs hi, by rw [hs]⟩
  | passed => exact ⟨.looked hs hi, by rw [hs]⟩
  | wrote found asked wrote replaced =>
    exact ⟨.turned (hturn _ _ found asked wrote) found (hs ▸ replaced) (by rw [hs, hshelf]) hi, by rw [hs, replaced.records]⟩

theorem tends_update {id : String} {p : ExecutionPatch} {expected : Option (List RunStatus)} (hp : p.isEmpty = false)
    (hturn : ∀ e e', w.store.execution? id = some e → (∀ statuses, expected = some statuses → e.status ∈ statuses) →
      p.Wrote e e' → Turn env base m w id e e') :
    Tends env base m w (onStore (Store.updateExecution id p expected) w).2 :=
  tends_of_asked (fun _ => asked_of_updated (w.store.updated id p hp expected) rfl rfl
    (w.store.shelf_updateExecution id p expected) hturn) rfl rfl rfl rfl

theorem turn_of_cancel {id : String} {e e' : Execution} (hwhy : Why env base m w id) (hactive : e.status ∈ RunStatus.active)
    (hwrote : (cancelPatch w.time).Wrote e e') : Turn env base m w id e e' := by
  refine .cancelled hwhy hactive ?_
  have hout := hwrote.output rfl
  rw [hwrote.named rfl, hout.1, hout.2, hwrote.error rfl, hwrote.cost rfl]
  rfl

/-! The turn of others -/

theorem tends_cancelAside {id : String} (h : Ready base w → Why env base m w id) :
    Tends env base m w (cancelAside id w).2 := fun hr =>
  tends_update (p := cancelPatch w.time) rfl
    (fun _ _ _ asked wrote => turn_of_cancel (h hr) (asked _ rfl) wrote) hr

instance : Follows (Tends env base m) (arrive env) := by
  have hall (ids : List String) (w : World) (hids : ∀ id ∈ ids, id ∈ env.arrivals w.turns) :
      Tends env base m w (ids.forM cancelAside w).2 := by
    induction ids generalizing w with
    | nil => exact Std.Refl.refl w
    | cons id rest ih =>
      refine IsTrans.trans _ _ _ (tends_cancelAside fun hr => ?_) (ih (cancelAside id w).2 fun other ho => ?_)
      · exact .arrived ⟨w.turns, hr.turns, Nat.le_refl _, hids id List.mem_cons_self⟩
      · exact hids other (List.mem_cons_of_mem _ ho)
  exact ⟨fun w => hall _ w fun _ => id⟩

instance (method : Method) : Follows (Tends env base m) (request env method) := by
  have hcount : Follows (Tends env base m) (modify fun w : World => { w with requests := method :: w.requests }) :=
    follows_modify fun w => tends_of_idle rfl rfl rfl (fun _ => Int.le_refl _) List.prefix_rfl
      (by simp only [turns, List.length_cons]; omega)
  have hfault (fault : Option Fault) : Follows (Tends env base m) (match fault with
      | some (.raise e) => throw (.raised e)
      | other => pure other : Act World (Option Fault)) := by
    split <;> infer_instance
  unfold request
  dsimp only
  infer_instance

theorem request_clock (method : Method) (w : World) : (request env method w).2.clock = w.clock := by
  rw [(awaits_request method w).rest]

theorem request_issued (method : Method) (w : World) : (request env method w).2.issued = w.issued := by
  rw [(awaits_request method w).rest]

/-- A request fails with what a fault says, or hands the fault on. -/
theorem request_answer (env : Setting) (method : Method) (w : World) :
    (∃ message, (request env method w).1 = .error (.raised message)) ∨
      ∃ n, (request env method w).1 = .ok (env.faults method n) := by
  rw [request, bind_apply, show arrive env w = (.ok ⟨⟩, (arrive env w).2) from Prod.ext (arrive_ok env w) rfl]
  simp only [andThen_ok, bind_apply, modify_apply, get_apply]
  generalize List.count method _ = n
  cases hfault : env.faults method n with
  | none => exact .inr ⟨n, congrArg Except.ok hfault.symm⟩
  | some fault =>
    cases fault with
    | raise message => exact .inl ⟨message, rfl⟩
    | cancel => exact .inr ⟨n, congrArg Except.ok hfault.symm⟩

theorem path_reported (out : Except Failure α × World) : Path env base m out.2 (reported out).2 :=
  .single ⟨.idle rfl rfl rfl, fun _ => Int.le_refl _, List.prefix_rfl, Nat.le_refl _⟩

theorem tends_reported {out : Except Failure α × World} (h : Tends env base m w out.2) :
    Tends env base m w (reported out).2 := fun hr => ⟨(h hr).1.trans (path_reported out), (h hr).2⟩

/-- What others have done, when their turn is over. -/
structure Awaited (env : Setting) (base w mid : World) : Prop where
  path : Path env base {} w mid
  clock : mid.clock = w.clock

theorem Awaited.time {mid : World} (h : Awaited env base w mid) : mid.time = w.time := congrArg Time.ofMillis h.clock

/-- Others do no more to a run than cancel it. -/
theorem Awaited.at {mid : World} {id : String} {statuses : List RunStatus} (h : Awaited env base w mid)
    (hc : .cancelled ∈ statuses) (hat : w.store.At id statuses) : mid.store.At id statuses :=
  h.path.at (fun hm : False => hm) hc hat

theorem tends_requested {method : Method} {next : Act World α}
    (hn : ∀ mid, Awaited env base w mid → Tends env base m mid (next mid).2) :
    Tends env base m w (reporting (discard (request env method) >>= fun _ => next) w).2 := by
  intro hr
  have hothers : Tends env base {} w (request env method w).2 := Follows.within w
  have hreq : Tends env base m w (request env method w).2 := Follows.within w
  have hclock := @request_clock env method w
  have hnext : Tends env base m w ((discard (request env method) >>= fun _ => next) w).2 := by
    rw [bind_apply, discard_apply]
    rcases hout : request env method w with ⟨f | fault, mid⟩
    · rw [hout] at hreq
      exact hreq
    · rw [hout] at hreq hothers hclock
      exact IsTrans.trans _ _ _ hreq (hn mid ⟨(hothers hr).1, hclock⟩)
  rw [reporting_apply]
  exact tends_reported hnext hr

theorem awaited (env : Setting) (method : Method) (next : Act World α) (hr : Ready base w) :
    ∃ mid, Awaited env base w mid ∧
      ((∃ message t, reporting (discard (request env method) >>= fun _ => next) w = (.error (.raised message), t)) ∨
        reporting (discard (request env method) >>= fun _ => next) w = reported (next mid)) := by
  have hothers : Tends env base {} w (request env method w).2 := Follows.within w
  refine ⟨(request env method w).2, ⟨(hothers hr).1, request_clock method w⟩, ?_⟩
  have hanswer := request_answer env method w
  rw [reporting_apply, bind_apply, discard_apply]
  rcases hout : request env method w with ⟨f | fault, mid⟩
  · rw [hout] at hanswer
    rcases hanswer with ⟨message, hf⟩ | ⟨n, hf⟩
    · cases hf
      exact .inl ⟨message, _, rfl⟩
    · cases hf
  · exact .inr rfl

/-! Looks -/

instance (id : String) : Follows (Tends env base m) (findExecution env id) := by
  have hlook : Follows (Tends env base m) (onStore (Store.findExecution id)) := follows_look fun s => s.findExecution_snd id
  unfold findExecution
  infer_instance

instance : Follows (Tends env base m) (listExecutions env) := by
  have hlook : Follows (Tends env base m) (onStore Store.listExecutions) := follows_look Store.listExecutions_snd
  unfold listExecutions
  infer_instance

instance (id : String) : Follows (Tends env base m) (findWorkflow env id) := by
  have hlook : Follows (Tends env base m) (onStore (Store.findWorkflow id)) := follows_look fun s => s.findWorkflow_snd id
  unfold findWorkflow
  infer_instance

instance : Follows (Tends env base m) (listWorkflows env) := by
  have hlook : Follows (Tends env base m) (onStore Store.listWorkflows) := follows_look Store.listWorkflows_snd
  unfold listWorkflows
  infer_instance

instance (id : String) : Follows (Tends env base m) (getExecution env id) := by
  have hfound (found : Option Execution) : Follows (Tends env base m) (match found with
      | some e => pure e
      | none => throw (.noExecution id) : Act World Execution) := by
    cases found <;> infer_instance
  unfold getExecution
  infer_instance

/-! Runs -/

theorem tends_updateExecution {id : String} {p : ExecutionPatch} {expected : Option (List RunStatus)}
    (hp : p.isEmpty = false)
    (hturn : ∀ mid e e', Awaited env base w mid → mid.store.execution? id = some e →
      (∀ statuses, expected = some statuses → e.status ∈ statuses) → p.Wrote e e' → Turn env base m mid id e e') :
    Tends env base m w (updateExecution env id (.ok p) expected w).2 :=
  tends_requested fun mid hmid => tends_update hp fun e e' => hturn mid e e' hmid

/-- What has become of a request to update a run that is in one of some statuses. -/
inductive Put (id : String) (p : ExecutionPatch) (expected : Option (List RunStatus)) (statuses : List RunStatus) :
    Except Failure (Option Execution) × World → Prop
  | refused {f : Failure} {t : World} : Put id p expected statuses (.error f, t)
  | passed {e : Execution} {t : World} (found : t.store.execution? id = some e) (was : e.status ∈ statuses)
      (other : ∃ asked, expected = some asked ∧ e.status ∉ asked) : Put id p expected statuses (.ok none, t)
  | wrote {e e' : Execution} {result : Except Failure (Option Execution)} {t : World} (wrote : p.Wrote e e')
      (found : t.store.execution? id = some e') (answer : result ≠ .ok none) : Put id p expected statuses (result, t)

theorem Put.cancelled {id : String} {p : ExecutionPatch} {status : RunStatus}
    (h : Put id p (some [status]) [status, .cancelled] (.ok none, w)) : w.store.At id [.cancelled] := by
  cases h with
  | passed found was other =>
    obtain ⟨asked, hasked, hother⟩ := other
    cases hasked
    exact ⟨_, found, (List.mem_cons.1 was).resolve_left fun hs => hother (List.mem_singleton.2 hs)⟩
  | wrote wrote found answer => exact absurd rfl answer

theorem put_updateExecution {id : String} {p : ExecutionPatch} {expected : Option (List RunStatus)}
    {statuses : List RunStatus} (hp : p.isEmpty = false) (hr : Ready base w) (hat : w.store.At id statuses)
    (hc : .cancelled ∈ statuses) : Put id p expected statuses (updateExecution env id (.ok p) expected w) := by
  obtain ⟨mid, hmid, ⟨message, t, hout⟩ | hout⟩ :=
    awaited env .updateExecution (onStore (Store.updateExecution id p expected)) hr
  · have hupdate : updateExecution env id (.ok p) expected w = (.error (.raised message), t) := hout
    rw [hupdate]
    exact .refused
  · have hupdate : updateExecution env id (.ok p) expected w = _ := hout
    -- others may have cancelled the run before its update, which is one of the statuses
    obtain ⟨e, hfound, hstatus⟩ := hmid.at hc hat
    have hu := mid.store.updated id p hp expected
    rw [hupdate, onStore_apply]
    generalize Store.updateExecution id p expected mid.store = out at hu
    cases hu with
    | refused f => exact .refused
    | passed found asked status =>
      rw [hfound] at found
      cases found
      exact .passed hfound hstatus ⟨_, asked, status⟩
    | wrote found asked wrote replaced answer =>
      exact .wrote wrote (by rw [replaced.execution?, if_pos rfl]) answer

theorem tends_cancel {id : String} (hwhy : Why env base m w id) : Tends env base m w (cancel env id w).2 := by
  have hdone (updated : Option Execution) : Follows (Tends env base m) (match updated with
      | some _ => getExecution env id
      | none => do throw (.notCancellable (← getExecution env id).status) : Act World Execution) := by
    cases updated <;> infer_instance
  have hupdate : Tends env base m w
      (updateExecution env id (.ok (cancelPatch w.time)) (some RunStatus.active) w).2 := by
    refine tends_updateExecution rfl fun mid e e' hmid _ asked wrote => ?_
    exact turn_of_cancel (hwhy.mono .rfl hmid.path.calls hmid.path.turns) (asked _ rfl) (hmid.time ▸ wrote)
  rw [cancel, bind_apply, now_apply, andThen_ok, bind_apply]
  rcases hout : updateExecution env id (.ok (cancelPatch w.time)) (some RunStatus.active) w with ⟨f | updated, t⟩
  · rwa [hout] at hupdate
  · rw [hout] at hupdate
    exact IsTrans.trans _ _ _ hupdate ((hdone updated).within t)

/-! New runs -/

theorem request_fault {method : Method} {fault : Option Fault} {t : World}
    (h : request env method w = (.ok fault, t)) : ∃ n, env.faults method n = fault := by
  rcases request_answer env method w with ⟨message, hout⟩ | ⟨n, hout⟩
  · rw [h] at hout
    cases hout
  · rw [h] at hout
    exact ⟨n, (Except.ok.inj hout).symm⟩

/-- A new run is there, and pending unless it was cancelled at once. -/
structure Opened (own : String) (e : Execution) (w : World) : Prop where
  id : e.id = own
  there : w.store.At own [.pending, .cancelled]

theorem opened_issuing (workflow : String) (input : Json) (hm : m.runs w.nextId) (hr : Ready base w) :
    ∃ e made, issuing (fun id => do onStore (Store.createExecution id workflow input (← now))) w = (.ok e, made) ∧
      Tends env base m w made ∧ Opened w.nextId e made := by
  obtain ⟨t, ht, hreplaced⟩ := w.store.created w.nextId workflow input w.time hr.fresh.next
  have hshelf : t.shelf = w.store.shelf := by
    have hsame := w.store.shelf_createExecution w.nextId workflow input w.time
    rwa [ht] at hsame
  let made : World := { w with store := t, past := w.store :: w.past, issued := w.issued + 1 }
  refine ⟨{ id := w.nextId, workflow, input, createdAt := w.time }, made, ?_, ?_, rfl, ?_⟩
  · simp only [issuing, now, bind_apply, get_apply, andThen_ok, pure_apply, onStore_apply]
    rw [show Time.ofMillis w.clock = w.time from rfl, ht]
    rfl
  · exact tends_of_asked (fun _ => ⟨.opened hm hreplaced hshelf rfl, hreplaced.records⟩) rfl rfl rfl rfl
  · exact ⟨_, by rw [hreplaced.execution?, if_pos rfl], List.mem_cons_self⟩

/-- What a fault does to a run that is just opened. -/
theorem opened_dropping {own : String} {e : Execution} (hm : m.runs own)
    (hfault : ∃ n, env.faults .createExecution n = some .cancel) (h : Opened own e w) :
    Tends env base m w (onStore (Store.updateExecution e.id { status := some .cancelled } none) w).2 ∧
      Opened own e (onStore (Store.updateExecution e.id { status := some .cancelled } none) w).2 := by
  obtain ⟨rfl, hat⟩ := h
  refine ⟨tends_update rfl fun e e' _ _ wrote => .dropped hm hfault ?_, rfl, ?_⟩
  · have hnamed := wrote.named rfl
    rwa [(wrote.output rfl).1, (wrote.output rfl).2, wrote.error rfl, wrote.cost rfl] at hnamed
  have hu := w.store.updated e.id { status := some .cancelled } rfl none
  show Store.At e.id _ (Store.updateExecution e.id { status := some .cancelled } none w.store).2
  generalize Store.updateExecution e.id { status := some .cancelled } none w.store = out at hu
  cases hu with
  | refused f => exact hat
  | passed => exact hat
  | @wrote _ e' _ _ found asked wrote replaced answer =>
    exact ⟨e', by rw [replaced.execution?, if_pos rfl], by rw [wrote.named rfl]; exact List.mem_cons_of_mem _ List.mem_cons_self⟩

theorem opened_createExecution {workflow : String} {input : Json} (hm : m.runs w.nextId) (hr : Ready base w) :
    Tends env base m w (createExecution env workflow input w).2 ∧
      ∀ e, (createExecution env workflow input w).1 = .ok e →
        Opened w.nextId e (createExecution env workflow input w).2 := by
  have hreq : Tends env base m w (request env .createExecution w).2 := Follows.within w
  have hissued := @request_issued env .createExecution w
  simp only [createExecution, reporting_apply, bind_apply]
  rcases hout : request env .createExecution w with ⟨f | fault, mid⟩
  · rw [hout] at hreq
    exact ⟨@tends_reported _ env base m w (.error f, mid) hreq, fun _ he => by cases he⟩
  · rw [hout] at hreq hissued
    have hnext : mid.nextId = w.nextId := by rw [nextId, nextId, show mid.issued = w.issued from hissued]
    rw [← hnext] at hm ⊢
    obtain ⟨e, made, hmade, htends, hopened⟩ :=
      opened_issuing workflow input hm ((hreq hr).1.ready hr)
    have hto : Tends env base m w made := IsTrans.trans _ _ _ hreq htends
    simp only [andThen_ok, bind_apply, hmade]
    by_cases hf : fault = some .cancel
    · obtain ⟨hdropped, hstill⟩ := @opened_dropping env base m made _ e hm (hf ▸ request_fault hout) hopened
      have hafter := IsTrans.trans _ _ _ hto hdropped
      rw [if_pos hf, bind_apply, discard_apply]
      rcases hdrop : onStore (Store.updateExecution e.id { status := some .cancelled } none) made with ⟨f | x, t⟩
      · rw [hdrop] at hafter
        exact ⟨@tends_reported _ env base m w (.error f, t) hafter, fun _ he => by cases he⟩
      · rw [hdrop] at hafter hstill
        refine ⟨@tends_reported _ env base m w (.ok e, t) hafter, fun e' he => ?_⟩
        cases he
        exact ⟨hstill.id, hstill.there⟩
    · rw [if_neg hf]
      refine ⟨@tends_reported _ env base m w (.ok e, made) hto, fun e' he => ?_⟩
      cases he
      exact ⟨hopened.id, hopened.there⟩

/-! Records of steps -/

/-- What has become of a request for a record. -/
inductive Made (execution step : String) (w : World) : Except Failure StepRecord × World → Prop
  | refused {f : Failure} {t : World} (records : t.store.records = w.store.records) : Made execution step w (.error f, t)
  | made {r : StepRecord} {t : World} (new : r = { id := r.id, execution, step })
      (records : t.store.records = w.store.records ++ [r]) : Made execution step w (.ok r, t)

theorem made_createStep {execution step : String} (hm : m.steps execution)
    (given : ∀ n, w.issued < n → execution ≠ s!"id-{n}") (hr : Ready base w) :
    Path env base m w (createStep env execution step w).2 ∧ Made execution step w (createStep env execution step w) := by
  have hreq : Tends env base m w (request env .createStep w).2 := Follows.within w
  have hissued := @request_issued env .createStep w
  simp only [createStep, reporting_apply, bind_apply, discard_apply]
  rcases hout : request env .createStep w with ⟨f | fault, mid⟩
  · rw [hout] at hreq
    exact ⟨(hreq hr).1.trans (path_reported (.error f, mid)), .refused (hreq hr).2⟩
  · rw [hout] at hreq hissued
    obtain ⟨hpath, hrecords⟩ := hreq hr
    have hmid := (hpath.ready hr).fresh
    have hfree : ∀ old ∈ mid.store.records, old.id ≠ mid.nextId :=
      fun old ho => (hmid.records _ (Nat.lt_succ_self _) old ho).1
    have hcreated := mid.store.stepCreated mid.nextId execution step hmid.keyed hfree
    have hshelf := mid.store.shelf_createStep mid.nextId execution step
    have hgiven (n : Nat) (hn : mid.issued < n) : execution ≠ s!"id-{n}" := given n (hissued ▸ hn)
    rw [Except.map, andThen_ok]
    simp only [issuing, bind_apply, get_apply, andThen_ok, onStore_apply]
    generalize Store.createStep mid.nextId execution step mid.store = made at hcreated hshelf
    cases hcreated with
    | refused f =>
      have hstride : Stride env base m mid { mid with past := mid.store :: mid.past } :=
        ⟨.asked (.looked rfl rfl) rfl, fun _ => Int.le_refl _, List.prefix_rfl, Nat.le_refl _⟩
      exact ⟨hpath.trans ((Relation.ReflTransGen.single hstride).trans (path_reported (.error f, _))), .refused hrecords⟩
    | @made t added =>
      let after : World := { mid with store := t, past := mid.store :: mid.past, issued := mid.issued + 1 }
      have hstride : Stride env base m mid after :=
        ⟨.asked (.recorded hm hgiven added hshelf rfl) rfl, fun _ => Int.le_refl _, List.prefix_rfl, Nat.le_refl _⟩
      simp only [andThen_ok, bind_apply, modify_apply, pure_apply]
      refine ⟨hpath.trans ((Relation.ReflTransGen.single hstride).trans (path_reported (.ok _, after))), .made rfl ?_⟩
      show t.records = _
      rw [added.records, hrecords]

/-- What has become of a request to write a record. -/
inductive Written (r : StepRecord) (p : StepPatch) (w : World) : Except Failure StepRecord × World → Prop
  | refused {f : Failure} {t : World} (records : t.store.records = w.store.records) : Written r p w (.error f, t)
  | wrote {r' : StepRecord} {out : Except Failure StepRecord} {t : World} (wrote : p.Wrote r r')
      (records : t.store.records = w.store.records.map fun old => if old.id = r.id then r' else old) :
      Written r p w (out, t)

theorem written_updateStep {r : StepRecord} {p : StepPatch} (hm : m.steps r.execution) (hmem : r ∈ w.store.records)
    (hturn : ∀ r', p.Wrote r r' → r.Turn w.time r') (hr : Ready base w) :
    Path env base m w (updateStep env r.id (.ok p) w).2 ∧ Written r p w (updateStep env r.id (.ok p) w) := by
  have hreq : Tends env base m w (request env .updateStep w).2 := Follows.within w
  have hclock := @request_clock env .updateStep w
  simp only [updateStep, reporting_apply, bind_apply, discard_apply]
  rcases hout : request env .updateStep w with ⟨f | fault, mid⟩
  · rw [hout] at hreq
    exact ⟨(hreq hr).1.trans (path_reported (.error f, mid)), .refused (hreq hr).2⟩
  · rw [hout] at hreq hclock
    obtain ⟨hpath, hrecords⟩ := hreq hr
    have hmid := (hpath.ready hr).fresh
    have htime : mid.time = w.time := congrArg Time.ofMillis hclock
    have hupdated := mid.store.stepUpdated r.id p hmid.keyed
    have hshelf := mid.store.shelf_updateStep r.id p
    rw [Except.map, andThen_ok]
    simp only [andThen_ok, bind_apply, of_apply, onStore_apply]
    generalize Store.updateStep r.id p mid.store = written at hupdated hshelf
    cases hupdated with
    | refused f =>
      refine ⟨hpath.trans ((Relation.ReflTransGen.single ?_).trans (path_reported (.error f, _))), .refused hrecords⟩
      exact ⟨.asked (.looked rfl rfl) rfl, fun _ => Int.le_refl _, List.prefix_rfl, Nat.le_refl _⟩
    | @wrote old r' t out named wrote rewrote =>
      -- ids are distinct, so the record that was found is the one that was meant
      obtain rfl : r = old := rewrote.alone r (hrecords ▸ hmem) named.symm
      refine ⟨hpath.trans ((Relation.ReflTransGen.single ?_).trans (path_reported (out, _))), .wrote wrote ?_⟩
      · exact ⟨.asked (.rewrote hm (htime ▸ hturn r' wrote) rewrote hshelf rfl) rfl, fun _ => Int.le_refl _,
          List.prefix_rfl, Nat.le_refl _⟩
      · show t.records = _
        rw [rewrote.records, hrecords]

/-! Workflows -/

theorem follows_createWorkflow (hm : m.shelves) (d : Definition) :
    Follows (Tends env base m) (createWorkflow env d) := by
  refine ⟨fun w => tends_requested fun mid _ => ?_⟩
  have hstore := mid.store.createWorkflow_same d mid.time
  exact tends_of_asked (fun _ => ⟨.shelved hm rfl rfl, hstore.records⟩) rfl rfl rfl rfl

/-! Calls -/

instance (e : Raised) : Follows (Tends env base m) (fail e : Act World α) := by
  unfold fail
  infer_instance

theorem tends_answer {behaviour : Behaviour} (hwhy : ∀ id, behaviour.cancels = some id → Why env base m w id) :
    Tends env base m w (answer env behaviour w).2 := by
  unfold answer
  cases hc : behaviour.cancels with
  | none =>
    cases behaviour.outcome with
    | fails e => exact Follows.within (a := fail e) w
    | replies envelope => exact Std.Refl.refl w
  | some id =>
    have hcancel := tends_cancel (hwhy id hc)
    dsimp only
    rw [bind_apply, discard_apply]
    rcases hout : cancel env id w with ⟨f | e, t⟩
    · rwa [hout] at hcancel
    · rw [hout] at hcancel
      cases behaviour.outcome with
      | fails e => exact IsTrans.trans _ _ _ hcancel (Follows.within (a := fail e) t)
      | replies envelope => exact hcancel

/-- A call may only cancel what its script tells it to. -/
theorem follows_invoke {agent operation : String} {script : Script} (hget : env.agents.get agent operation = .ok script)
    (payload : Json) : Follows (Tends env base m) (invoke env agent operation script payload) := by
  refine ⟨fun w => ?_⟩
  have harrive : Tends env base m w (arrive env w).2 := Follows.within w
  rw [invoke_eq, bind_apply, show arrive env w = (.ok ⟨⟩, (arrive env w).2) from Prod.ext (arrive_ok env w) rfl]
  generalize (arrive env w).2 = mid at harrive
  let n := mid.calls.countP fun call => call.agent = agent && call.operation = operation
  have hcalled : Tends env base m mid (called ⟨agent, operation, payload⟩ (script n payload) mid).2 := by
    refine tends_of_idle rfl rfl rfl (fun henv => ?_) (List.prefix_append _ _) ?_
    · exact Int.le_add_of_nonneg_right (henv.advance agent operation script hget n payload)
    · simp only [called, modify_apply, turns, List.length_append]
      omega
  have hanswer : Tends env base m mid
      (answer env (script n payload) (called ⟨agent, operation, payload⟩ (script n payload) mid).2).2 := by
    refine fun hr => IsTrans.trans _ _ _ hcalled (tends_answer fun id hid => ?_) hr
    exact .passed ⟨mid.calls, ⟨agent, operation, payload⟩, script, hr.calls, List.prefix_rfl, hget, hid⟩
  exact IsTrans.trans _ _ _ harrive hanswer

instance (answer : CallEnd) : Follows (Tends env base m) (takeUp answer) := by
  have hlog : Follows (Tends env base m) (modify fun w : World => { w with answers := w.answers ++ [answer] }) :=
    follows_modify fun _ => tends_of_idle rfl rfl rfl (fun _ => Int.le_refl _) List.prefix_rfl (Nat.le_refl _)
  unfold takeUp
  infer_instance

end World

end Conductor
