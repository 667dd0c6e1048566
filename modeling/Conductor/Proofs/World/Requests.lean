import Conductor.Proofs.World.Trail

/-! What each request does to a world. Before it others have their turn; then it fails, or does its
one deed. -/

namespace Conductor

/-- What an outcome adds to the failures of requests. -/
def refusalOf {α : Type} : Except Failure α → List Failure
  | .ok _ => []
  | .error f => [f]

namespace World

open Act

variable {α : Type} {env : Setting} {scope : Scope} {w : World}

theorem onStore_apply (action : Act Store α) (w : World) :
    onStore action w =
      ((action w.store).1, { w with store := (action w.store).2, past := w.store :: w.past }) := rfl

/-- Adds a failure to those of the requests. -/
def reported (out : Except Failure α × World) : Except Failure α × World :=
  (out.1, { out.2 with refusals := refusalOf out.1 ++ out.2.refusals })

theorem reporting_apply (action : Act World α) (w : World) : reporting action w = reported (action w) := by
  rw [reporting, tryCatch_apply]
  rcases action w with ⟨f | v, t⟩ <;> rfl

/-- The time that the clock shows. -/
def time (w : World) : Time := .ofMillis w.clock

theorem now_apply (w : World) : now w = (.ok w.time, w) := rfl

/-- The world once the store has answered a request. -/
def asked (w : World) (out : Except Failure α × Store) : World :=
  { w with store := out.2, past := w.store :: w.past, refusals := refusalOf out.1 ++ w.refusals }

theorem reporting_onStore (action : Act Store α) (w : World) :
    reporting (onStore action) w = ((action w.store).1, w.asked (action w.store)) := by
  rw [reporting_apply]
  rfl

theorem within_reporting {action : Act World α} (h : Within (Works scope) action) :
    Within (Works scope) (reporting action) := by
  intro w
  rw [reporting_apply]
  exact IsTrans.trans _ _ _ (h w) (works_of_eq rfl rfl rfl rfl)

/-! Updates of runs -/

theorem Sound.updated {a b : World} (h : a.Sound) (hi : b.issued = a.issued) {id : String}
    {p : ExecutionPatch}
    {expected : Option (List RunStatus)} {out : Except Failure (Option Execution) × Store}
    (hu : a.store.Updated id p expected out) (hb : b.store = out.2) : b.Sound := by
  cases hu with
  | refused f => exact h.same hi (by rw [hb]; exact .refl _)
  | passed => exact h.same hi (by rw [hb]; exact .refl _)
  | wrote found asked wrote replaced => exact h.replaced hi found (by rw [hb]; exact replaced)

theorem change_of_updated {id : String} {p : ExecutionPatch} {expected : Option (List RunStatus)}
    (hd : scope.deed (.update id p expected)) {s : Store} {out : Except Failure (Option Execution) × Store}
    (hu : s.Updated id p expected out) : scope.Change s out.2 := by
  cases hu with
  | refused f => exact .same (.refl s)
  | passed => exact .same (.refl s)
  | wrote found asked wrote replaced => exact .did hd (.updated found asked wrote replaced)

theorem within_update {id : String} {p : ExecutionPatch} {expected : Option (List RunStatus)}
    (hp : p.isEmpty = false) (hd : scope.deed (.update id p expected)) :
    Within (Works scope) (onStore (Store.updateExecution id p expected)) := by
  intro w hw
  have hu := w.store.updated id p hp expected
  exact ⟨hw.updated rfl hu rfl, .asked (.refl w) (change_of_updated hd hu) rfl, [], rfl, by simp⟩

theorem within_look {action : Act Store α} (h : ∀ s : Store, s.Same (action s).2) :
    Within (Works scope) (onStore action) := by
  intro w hw
  exact ⟨hw.same rfl (h w.store), .asked (.refl w) (.same (h w.store)) rfl, [], rfl, by simp⟩

/-! The turn of others -/

/-- Others cancel some runs, and touch nothing but the store. -/
structure Aside (ids : String → Prop) (a b : World) : Prop where
  works : Works (.cancelling ids) a b
  rest : b = { a with store := b.store, past := b.past }

instance (ids : String → Prop) : IsPreorder World (Aside ids) where
  refl a := ⟨Std.Refl.refl a, rfl⟩
  trans a b c h h' := by
    refine ⟨IsTrans.trans _ _ _ h.works h'.works, ?_⟩
    rw [h'.rest, h.rest]

theorem aside_cancelAside {ids : String → Prop} {id : String} (h : ids id) :
    Within (Aside ids) (cancelAside id) := by
  intro w
  refine ⟨?_, rfl⟩
  have hd (now : Time) : (Scope.cancelling ids).deed
      (.update id (cancelPatch now) (some RunStatus.active)) := ⟨id, now, h, rfl⟩
  exact (within_now.bind fun now => Within.discard (Within.outcome (within_update rfl (hd now)))) w

theorem aside_arrive (env : Setting) (w : World) :
    Aside (· ∈ env.arrivals w.turns) w (arrive env w).2 := by
  have hall (ids : List String) (hids : ∀ id ∈ ids, id ∈ env.arrivals w.turns) :
      Within (Aside (· ∈ env.arrivals w.turns)) (ids.forM cancelAside) := by
    induction ids with
    | nil => exact within_pure _
    | cons id rest ih =>
      exact (aside_cancelAside (hids id (List.mem_cons_self ..))).bind fun _ =>
        ih fun other ho => hids other (List.mem_cons_of_mem _ ho)
  exact hall _ (fun _ h => h) w

theorem arrive_ok (env : Setting) (w : World) : (arrive env w).1 = .ok ⟨⟩ := by
  have hall (ids : List String) (w : World) : (ids.forM cancelAside w).1 = .ok ⟨⟩ := by
    induction ids generalizing w with
    | nil => rfl
    | cons id rest ih => exact ih (cancelAside id w).2
  exact hall _ w

theorem within_arrive : Within (Works .others) (arrive env) :=
  fun w => (aside_arrive env w).works.mono (Scope.cancelling_le_others _)

/-- A request has been made, and others have had their turn before it. -/
structure Awaits (env : Setting) (method : Method) (a b : World) : Prop where
  works : Works (.cancelling (· ∈ env.arrivals a.turns)) a b
  rest : b = { a with store := b.store, past := b.past, requests := method :: a.requests }

section Awaits

variable {method : Method} {a b : World} (h : Awaits env method a b)
include h

theorem Awaits.refusals : b.refusals = a.refusals := by rw [h.rest]

theorem Awaits.turns : b.turns = a.turns + 1 := by
  rw [h.rest, World.turns, World.turns, List.length_cons, Nat.add_right_comm]

end Awaits

theorem Awaits.others {method : Method} {a b : World} (h : Awaits env method a b) : Works .others a b :=
  h.works.mono (Scope.cancelling_le_others _)

theorem awaits_request (method : Method) : Within (Awaits env method) (request env method) := by
  intro w
  have h := aside_arrive env w
  have hmade : Awaits env method w
      { (arrive env w).2 with requests := method :: (arrive env w).2.requests } := by
    refine ⟨IsTrans.trans _ _ _ h.works (works_of_eq rfl rfl rfl rfl), ?_⟩
    conv_lhs => rw [h.rest]
  have harrive : arrive env w = (.ok ⟨⟩, (arrive env w).2) := Prod.ext (arrive_ok env w) rfl
  rw [request, bind_apply, harrive]
  simp only [andThen_ok, bind_apply, modify_apply, get_apply]
  rcases env.faults method _ with _ | e | _ <;> exact hmade

/-- A request has failed. -/
structure Refuses (f : Failure) (a b : World) : Prop where
  works : Works .others a b
  refusals : b.refusals = f :: a.refusals

theorem Awaits.reported {method : Method} {a b : World} (h : Awaits env method a b) {f : Failure} :
    Refuses f a { b with refusals := f :: b.refusals } := by
  refine ⟨IsTrans.trans _ _ _ h.others (works_of_eq rfl rfl rfl rfl), ?_⟩
  exact congrArg (f :: ·) h.refusals

theorem Awaits.refuses {method : Method} {a b : World} (h : Awaits env method a b) {f : Failure} :
    Refuses f a (b.asked ((.error f : Except Failure α), b.store)) := by
  refine ⟨IsTrans.trans _ _ _ h.others fun hb => ?_, ?_⟩
  · exact ⟨hb.same rfl (.refl _), .asked (.refl _) (.same (.refl _)) rfl, [], rfl, by simp⟩
  · exact congrArg (f :: ·) h.refusals

theorem requested (env : Setting) (method : Method) (next : Act World α) (w : World) :
    ∃ mid, Awaits env method w mid ∧
      ((∃ f t, reporting (discard (request env method) >>= fun _ => next) w = (.error f, t) ∧
        Refuses f w t) ∨
        reporting (discard (request env method) >>= fun _ => next) w = reporting next mid) := by
  have hreq : Awaits env method w _ := awaits_request method w
  refine ⟨(request env method w).2, hreq, ?_⟩
  rw [reporting_apply, reporting_apply, bind_apply, discard_apply]
  rcases hout : request env method w with ⟨f | fault, mid⟩
  · rw [hout] at hreq
    exact .inl ⟨f, _, rfl, hreq.reported⟩
  · exact .inr rfl

theorem within_requested {method : Method} {next : Act World α} (ho : Scope.others ≤ scope)
    (hn : Within (Works scope) next) :
    Within (Works scope) (reporting (discard (request env method) >>= fun _ => next)) :=
  within_reporting (Within.bind (Within.discard fun w => (awaits_request method w).others.mono ho) fun _ => hn)

/-! What others leave alone, and what requests leave alone but for the store -/

theorem records_of_others {a b : World} (h : Works .others a b) (ha : a.Sound) :
    b.store.records = a.store.records := by
  refine (h ha).leads.keeps (fun s => s.records = a.store.records) (fun s t hs changed => ?_) rfl
  cases changed with
  | same same => exact same.records.trans hs
  | did ok done =>
    obtain ⟨id, now, rfl⟩ := ok
    cases done with
    | updated found asked wrote replaced => exact replaced.records.trans hs

theorem journal_of_others {a b : World} (h : Works .others a b) (ha : a.Sound) : b.journal = a.journal := by
  obtain ⟨events, hj, hev⟩ := (h ha).journal
  cases events with
  | nil => exact hj
  | cons event rest => exact (hev event (List.mem_cons_self ..)).elim

/-- The same calls have been made. -/
def SameCalls (a b : World) : Prop := b.calls = a.calls

instance : IsPreorder World SameCalls where
  refl _ := rfl
  trans _ _ _ h h' := Eq.trans h' h

theorem sameCalls_arrive : Within SameCalls (arrive env) := fun w => by
  show (arrive env w).2.calls = w.calls
  rw [(aside_arrive env w).rest]

theorem sameCalls_requested {method : Method} {next : Act World α} (hn : Within SameCalls next) :
    Within SameCalls (reporting (discard (request env method) >>= fun _ => next)) := by
  intro w
  have hreq : Within SameCalls (request env method) := fun w => by
    show (request env method w).2.calls = w.calls
    rw [(awaits_request method w).rest]
  rw [reporting_apply]
  exact (hreq.discard.bind fun _ => hn) w

theorem sameCalls_updateExecution (id : String) (p : ExecutionPatch) (expected : Option (List RunStatus)) :
    Within SameCalls (updateExecution env id (.ok p) expected) := sameCalls_requested fun _ => rfl

theorem sameCalls_getExecution (id : String) : Within SameCalls (getExecution env id) := by
  have hfind : Within SameCalls (findExecution env id) := sameCalls_requested fun _ => rfl
  refine hfind.bind fun found => ?_
  cases found with
  | none => exact within_throw _
  | some e => exact within_pure e

theorem sameCalls_cancel (id : String) : Within SameCalls (cancel env id) := by
  refine within_get.bind fun w => (sameCalls_updateExecution _ _ _).bind fun updated => ?_
  cases updated with
  | none => exact (sameCalls_getExecution id).bind fun e => within_throw _
  | some e => exact sameCalls_getExecution id

/-! Updates of runs, looks at runs, workflows -/

theorem within_updateExecution {id : String} {p : ExecutionPatch} {expected : Option (List RunStatus)}
    (ho : Scope.others ≤ scope) (hp : p.isEmpty = false) (hd : scope.deed (.update id p expected)) :
    Within (Works scope) (updateExecution env id (.ok p) expected) :=
  within_requested ho (within_update hp hd)

theorem within_findExecution (ho : Scope.others ≤ scope) (id : String) :
    Within (Works scope) (findExecution env id) :=
  within_requested ho (within_look fun s => by rw [Store.findExecution_snd]; exact .refl s)

theorem within_getExecution (ho : Scope.others ≤ scope) (id : String) :
    Within (Works scope) (getExecution env id) := by
  refine (within_findExecution ho id).bind fun found => ?_
  cases found with
  | none => exact within_throw _
  | some e => exact within_pure e

theorem within_findWorkflow (ho : Scope.others ≤ scope) (id : String) :
    Within (Works scope) (findWorkflow env id) :=
  within_requested ho (within_look fun s => by rw [Store.findWorkflow_snd]; exact .refl s)

theorem within_listWorkflows (ho : Scope.others ≤ scope) : Within (Works scope) (listWorkflows env) :=
  within_requested ho (within_look fun s => by rw [Store.listWorkflows_snd]; exact .refl s)

theorem within_createWorkflow (ho : Scope.others ≤ scope) (d : Definition) :
    Within (Works scope) (createWorkflow env d) :=
  within_requested ho (within_now.bind fun now => within_look fun s => s.createWorkflow_same d now)

theorem within_cancel (ho : Scope.others ≤ scope) (id : String) : Within (Works scope) (cancel env id) := by
  refine within_now.bind fun now => ?_
  refine (within_updateExecution ho rfl (ho.1 _ ⟨id, now, rfl⟩)).bind fun updated => ?_
  cases updated with
  | none => exact (within_getExecution ho id).bind fun e => within_throw _
  | some e => exact within_getExecution ho id

theorem within_fail (e : Raised) : Within (Works scope) (fail e : Act World α) := by
  unfold fail
  split
  · exact within_reporting (within_throw _)
  · exact within_throw _

theorem within_invoke (ho : Scope.others ≤ scope) (agent operation : String) (script : Script)
    (payload : Json) : Within (Works scope) (invoke env agent operation script payload) := by
  refine Within.bind (fun w => (within_arrive w).mono ho) fun _ => within_get.bind fun w => ?_
  refine Within.bind (within_modify fun w => works_of_eq rfl rfl rfl rfl) fun _ => ?_
  dsimp only
  split
  · refine (within_cancel ho _).discard.bind fun _ => ?_
    split
    · exact within_fail _
    · exact within_pure _
  · split
    · exact within_fail _
    · exact within_pure _

theorem takeUp_apply (answer : CallEnd) (w : World) :
    takeUp answer w = (answer.outcome, { w with answers := w.answers ++ [answer] }) := by
  simp only [takeUp, Act.bind_apply, Act.modify_apply, Act.andThen_ok, Act.of_apply]

theorem within_takeUp (answer : CallEnd) : Within (Works scope) (takeUp answer) := by
  refine Within.bind (within_modify fun w => ?_) fun _ => within_of _
  exact works_of_eq rfl rfl rfl rfl

/-! Records of steps -/

/-- A record of a step of a run goes by an id. -/
def Holds (w : World) (id execution step : String) : Prop :=
  ∃ r ∈ w.store.records, r.id = id ∧ r.execution = execution ∧ r.step = step

theorem Leads.holds {a b : World} (h : Leads scope.Change a b) {id execution step : String}
    (ha : a.Holds id execution step) : b.Holds id execution step := by
  refine h.keeps (fun s => ∃ r ∈ s.records, r.id = id ∧ r.execution = execution ∧ r.step = step) ?_ ha
  rintro s t ⟨r, hr, hid, he, hs⟩ changed
  cases changed with
  | same same => exact ⟨r, same.records ▸ hr, hid, he, hs⟩
  | did ok done =>
    cases done with
    | created fresh pending replaced => exact ⟨r, replaced.records ▸ hr, hid, he, hs⟩
    | updated found asked wrote replaced => exact ⟨r, replaced.records ▸ hr, hid, he, hs⟩
    | added added => exact ⟨r, added.records ▸ List.mem_append_left _ hr, hid, he, hs⟩
    | @rewrote old new _ _ rewrote =>
      have hmem := List.mem_map_of_mem (f := fun x => if x.id = old.id then new else x) hr
      rw [← rewrote.records] at hmem
      by_cases ho : r.id = old.id
      · have hro : r = old := rewrote.alone r hr ho
        rw [if_pos ho] at hmem
        exact ⟨new, hmem, rewrote.id.trans (ho.symm.trans hid), by rw [rewrote.execution, ← hro, he],
          by rw [rewrote.step, ← hro, hs]⟩
      · rw [if_neg ho] at hmem
        exact ⟨r, hmem, hid, he, hs⟩

/-- There is a run under an id. -/
def Has (w : World) (execution : String) : Prop := (w.store.execution? execution).isSome

theorem Leads.has {a b : World} (h : Leads scope.Change a b) {execution : String} (ha : a.Has execution) :
    b.Has execution := by
  refine h.keeps (fun s => (s.execution? execution).isSome) ?_ ha
  intro s t hs changed
  have hreplaced {id : String} {e : Execution} (hr : s.Replaced id e t) :
      (t.execution? execution).isSome := by
    rw [hr.execution?]
    by_cases he : execution = id
    · rw [if_pos he]
      rfl
    · rwa [if_neg he]
  cases changed with
  | same same => rwa [same.execution?]
  | did ok done =>
    cases done with
    | created fresh pending replaced => exact hreplaced replaced
    | updated found asked wrote replaced => exact hreplaced replaced
    | added added => rwa [added.execution?]
    | rewrote rewrote => rwa [rewrote.execution?]

theorem createStep_cases (env : Setting) (hw : w.Sound) (execution step : String) :
    (∃ f t, createStep env execution step w = (.error f, t) ∧ Refuses f w t) ∨
      ∃ mid r t, Awaits env .createStep w mid ∧ mid.store.Added r t ∧
        r = { id := mid.nextId, execution, step } ∧
        createStep env execution step w =
          (.ok r, { mid with store := t, past := mid.store :: mid.past, issued := mid.issued + 1 }) := by
  obtain ⟨mid, hmid, hout⟩ := requested env .createStep
    (issuing fun id => onStore (Store.createStep id execution step)) w
  rcases hout with ⟨f, t, hf, ht⟩ | hout
  · exact .inl ⟨f, t, hf, ht⟩
  · have hsound := (hmid.works hw).sound
    have hc := mid.store.stepCreated mid.nextId execution step hsound.keyed
      (hsound.records _ (Nat.lt_succ_self _))
    have happly : issuing (fun id => onStore (Store.createStep id execution step)) mid =
      andThen (onStore (Store.createStep mid.nextId execution step) mid)
        fun r w => (.ok r, { w with issued := w.issued + 1 }) := by
      simp only [issuing, bind_apply, get_apply, andThen_ok]
      rfl
    have hreported : createStep env execution step w = _ := hout.trans (reporting_apply _ _)
    rw [happly, onStore_apply] at hreported
    revert hreported
    generalize Store.createStep mid.nextId execution step mid.store = out at hc
    intro hreported
    cases hc with
    | refused f => exact .inl ⟨f, _, hreported, hmid.refuses⟩
    | made added => exact .inr ⟨mid, _, _, hmid, added, rfl, hreported⟩

theorem works_createStep (ho : Scope.others ≤ scope) {execution step : String}
    (hd : scope.deed (.record execution step)) (he : w.Has execution) :
    Works scope w (createStep env execution step w).2 := by
  intro hw
  rcases createStep_cases env hw execution step with ⟨f, t, hout, ht⟩ | ⟨mid, r, t, hmid, added, rfl, hout⟩
  · rw [hout]
    exact ht.works.mono ho hw
  · rw [hout]
    have halive : mid.Has execution := (hmid.works hw).leads.has he
    refine IsTrans.trans _ _ _ (hmid.others.mono ho) (fun h => ?_) hw
    refine ⟨?_, .asked (.refl _) (.did hd (.added added)) rfl, [], rfl, by simp⟩
    exact Sound.added (r := { id := mid.nextId, execution, step }) h rfl rfl halive added

theorem holds_of_createStep {execution step : String} {r : StepRecord} {t : World} (hw : w.Sound)
    (h : createStep env execution step w = (.ok r, t)) : t.Holds r.id execution step := by
  rcases createStep_cases env hw execution step with ⟨f, t', hout, _⟩ | ⟨mid, r', t', _, added, rfl, hout⟩
  · rw [h] at hout
    cases hout
  · rw [h] at hout
    cases hout
    exact ⟨_, added.records ▸ List.mem_append_right _ (List.mem_singleton_self _), rfl, rfl, rfl⟩

theorem updateStep_cases (env : Setting) (hw : w.Sound) (id : String) (p : StepPatch) :
    (∃ f t, updateStep env id (.ok p) w = (.error f, t) ∧ Refuses f w t) ∨
      ∃ mid r r' out, Awaits env .updateStep w mid ∧ r.id = id ∧ p.Wrote r r' ∧ mid.store.Rewrote r r' out.2 ∧
        updateStep env id (.ok p) w = (out.1, mid.asked out) := by
  obtain ⟨mid, hmid, hout⟩ := requested env .updateStep (onStore (Store.updateStep id p)) w
  rcases hout with ⟨f, t, hf, ht⟩ | hout
  · exact .inl ⟨f, t, hf, ht⟩
  · have hu := mid.store.stepUpdated id p (hmid.works hw).sound.keyed
    have happly : updateStep env id (.ok p) w = _ := hout.trans (reporting_onStore _ _)
    revert happly
    generalize Store.updateStep id p mid.store = out at hu
    intro happly
    cases hu with
    | refused f => exact .inl ⟨f, _, happly, hmid.refuses⟩
    | wrote named wrote rewrote => exact .inr ⟨mid, _, _, _, hmid, named, wrote, rewrote, happly⟩

theorem works_updateStep (ho : Scope.others ≤ scope) {id execution step : String} (p : StepPatch)
    (hd : scope.deed (.record execution step)) (hh : w.Holds id execution step) :
    Works scope w (updateStep env id (.ok p) w).2 := by
  intro hw
  rcases updateStep_cases env hw id p with
    ⟨f, t, hout, ht⟩ | ⟨mid, r, r', out, hmid, named, wrote, rewrote, hout⟩
  · rw [hout]
    exact ht.works.mono ho hw
  · rw [hout]
    have hdeed : scope.deed (.record r.execution r.step) := by
      obtain ⟨old, hold, hid, he, hs⟩ := (hmid.works hw).leads.holds hh
      have hr := rewrote.alone old hold (hid.trans named.symm)
      rwa [← hr, he, hs]
    refine IsTrans.trans _ _ _ (hmid.others.mono ho) (fun h => ?_) hw
    exact ⟨h.rewrote rfl rewrote, .asked (.refl _) (.did hdeed (.rewrote rewrote)) rfl, [], rfl, by simp⟩

/-! New runs -/

/-- A new run is stored under the next id. -/
structure Creates (workflow : String) (input : Json) (e : Execution) (a b : World) : Prop where
  execution : e = { id := a.nextId, workflow, input, createdAt := e.createdAt }
  replaced : a.store.Replaced e.id e b.store
  rest : b = { a with store := b.store, past := a.store :: a.past, issued := a.issued + 1 }

section Creates

variable {workflow : String} {input : Json} {e : Execution} {a b : World} (h : Creates workflow input e a b)
include h

theorem Creates.id : e.id = a.nextId := by rw [h.execution]

theorem Creates.pending : e.status = .pending := by rw [h.execution]

theorem Creates.past : b.past = a.store :: a.past := by rw [h.rest]

theorem Creates.issued : b.issued = a.issued + 1 := by rw [h.rest]

theorem Creates.journal : b.journal = a.journal := by rw [h.rest]

theorem Creates.fresh (ha : a.Sound) : a.store.execution? e.id = none :=
  h.id ▸ ha.executions _ (Nat.lt_succ_self _)

theorem Creates.sound (ha : a.Sound) : b.Sound := ha.created h.issued (h.id ▸ h.replaced)

end Creates

theorem createExecution_cases (env : Setting) (hw : w.Sound) (workflow : String) (input : Json) :
    (∃ f t, createExecution env workflow input w = (.error f, t) ∧ Refuses f w t) ∨
      ∃ mid made e, Awaits env .createExecution w mid ∧ Creates workflow input e mid made ∧
        (createExecution env workflow input w = (.ok e, made) ∨
          ∃ out, made.store.Updated e.id { status := some .cancelled } none out ∧
            createExecution env workflow input w = (out.1.map fun _ => e, made.asked out)) := by
  have hreq : Awaits env .createExecution w (request env .createExecution w).2 := awaits_request _ w
  simp only [createExecution, reporting_apply, bind_apply]
  rcases hout : request env .createExecution w with ⟨f | fault, mid⟩
  · rw [hout] at hreq
    exact .inl ⟨f, _, rfl, hreq.reported⟩
  · rw [hout] at hreq
    have hfree := (hreq.works hw).sound.executions _ (Nat.lt_succ_self _)
    obtain ⟨t, ht, hr⟩ := mid.store.created mid.nextId workflow input (.ofMillis mid.clock) hfree
    let e : Execution := { id := mid.nextId, workflow, input, createdAt := .ofMillis mid.clock }
    let made : World := { mid with store := t, past := mid.store :: mid.past, issued := mid.issued + 1 }
    have hissue : issuing (fun id => do onStore (Store.createExecution id workflow input (← now))) mid =
        (.ok e, made) := by
      simp only [issuing, now, bind_apply, get_apply, andThen_ok, pure_apply, onStore_apply, ht, modify_apply]
      rfl
    refine .inr ⟨mid, made, e, hreq, ⟨rfl, hr, rfl⟩, ?_⟩
    simp only [andThen_ok, bind_apply, hissue]
    by_cases hf : fault = some .cancel
    · refine .inr ⟨_, made.store.updated mid.nextId { status := some .cancelled } rfl none, ?_⟩
      rw [if_pos hf, bind_apply, discard_apply, onStore_apply]
      rcases Store.updateExecution mid.nextId { status := some .cancelled } none made.store with ⟨f | x, t'⟩ <;>
        rfl
    · rw [if_neg hf]
      exact .inl rfl

/-- Counts a call, which takes its time. -/
def called (call : Call) (behaviour : Behaviour) : Act World Unit := modify fun w => { w with
  calls := w.calls ++ [call], clock := w.clock + behaviour.advance }

/-- Ends a call that has been counted. -/
def answer (env : Setting) (behaviour : Behaviour) : Act World (Json × Bool) := do
  if let some id := behaviour.cancels then
    discard (cancel env id)
  match behaviour.outcome with
  | .fails e => fail e
  | .replies envelope => return (envelope, behaviour.echoes)

theorem invoke_eq (agent operation : String) (script : Script) (payload : Json) :
    invoke env agent operation script payload = (do
      arrive env
      let w ← get
      let earlier := w.calls.countP fun call => call.agent = agent && call.operation = operation
      called ⟨agent, operation, payload⟩ (script earlier payload)
      answer env (script earlier payload)) := rfl

end World

end Conductor
