import Conductor.Proofs.Store.Mirror
import Conductor.Proofs.World.Later

/-! A world with a store of records beside the one with the table of their rows. Each operation does the same to
both, as long as what is stored stays plain, and what does not read the store takes no notice of it. -/

namespace Conductor

namespace Store

/-- A store with its records as rows. -/
def tabled : Store → Store
  | .memory m => .table m.table
  | .table t => .table t

def isPlain : Store → Bool
  | .memory m => m.isPlain
  | .table _ => true

/-- A store of records that are filed in order. -/
def Filed (issued : Nat) (now : Time) : Store → Prop
  | .memory m => m.Filed issued now
  | .table _ => False

end Store

def Event.tabled : Event → Event
  | .started execution step context store => .started execution step context store.tabled
  | .failed execution step cause => .failed execution step cause

namespace World

def tabled (w : World) : World :=
  { w with store := w.store.tabled, past := w.past.map Store.tabled, journal := w.journal.map Event.tabled }

def Filed (w : World) : Prop := w.store.Filed w.issued (.ofMillis w.clock)

theorem Filed.sound {w : World} (h : w.Filed) : w.Sound := by
  obtain ⟨store, past, journal, clock, issued, named, requests, calls, answers, refusals⟩ := w
  cases store with
  | table t => exact h.elim
  | memory m =>
    have hm : m.Filed issued (.ofMillis clock) := h
    have hids : (m.steps.map Prod.snd).map (·.id) = m.steps.names := by
      rw [List.map_map]
      exact List.map_congr_left fun entry hentry => (hm.steps.keyed entry hentry).symm
    refine ⟨⟨?_, ?_⟩, fun n hn => ?_, fun n hn r hr hid => ?_, fun r hr => ?_⟩
    · show ((m.steps.map Prod.snd).map (·.id)).Nodup
      rw [hids]
      exact hm.steps.nodup
    · rintro _ ⟨⟩
      exact hm.steps.keyed
    · exact Assoc.get?_eq_none_of_not_mem (hm.executions.fresh n hn)
    · exact hm.steps.fresh n hn (hid ▸ hids ▸ List.mem_map_of_mem hr)
    · obtain ⟨entry, hentry, rfl⟩ := List.mem_map.1 hr
      exact hm.owned entry hentry

/-- All that has been stored was plain. -/
def Plain (w : World) : Prop := ∀ s ∈ w.timeline, s.isPlain = true

theorem Plain.before {a b : World} (h : b.Plain) (hab : Later a b) : a.Plain :=
  fun s hs => h s (hab.timeline.subset hs)

theorem Plain.store {w : World} (h : w.Plain) : w.store.isPlain = true :=
  h _ (List.mem_append_right _ (List.mem_singleton_self _))

/-- An outcome that is the same on records and on rows. -/
structure Mirrored {α : Type} (w : World) (out out' : Except Failure α × World) : Prop where
  same : out' = (out.1, out.2.tabled)
  filed : out.2.Filed
  lasts : ∀ id, w.Has id → out.2.Has id

end World

namespace Act

open World

variable {α β : Type}

/-- An operation that only adds to what there has been, on records and on rows alike. -/
class Mirrors (a : Act World α) : Prop where
  grows : Grows a
  mirror : ∀ w, w.Filed → (a w).2.Plain → Mirrored w (a w) (a w.tabled)

section Combinators

variable {a : Act World α} {next : α → Act World β}

theorem mirrored_quiet {w : World} (hw : w.Filed) (out : Except Failure α) : Mirrored w (out, w) (out, w.tabled) :=
  ⟨rfl, hw, fun _ h => h⟩

instance (v : α) : Mirrors (pure v : Act World α) := ⟨inferInstance, fun _ hw _ => mirrored_quiet hw _⟩

instance (f : Failure) : Mirrors (throw f : Act World α) := ⟨inferInstance, fun _ hw _ => mirrored_quiet hw _⟩

theorem mirrors_get_bind {next : World → Act World β} [hn : ∀ w, Mirrors (next w)]
    (h : ∀ w : World, next w.tabled = next w) : Mirrors (get >>= next) := by
  have hgrows (w : World) := (hn w).grows
  refine ⟨inferInstance, fun w hw hplain => ?_⟩
  rw [bind_apply, get_apply, andThen_ok] at hplain ⊢
  rw [bind_apply, get_apply, andThen_ok, h]
  exact (hn w).mirror w hw hplain

theorem mirrors_modify {change : World → World} (hgrows : Grows (modify change))
    (hs : ∀ w : World, change w.tabled = (change w).tabled)
    (hf : ∀ w, w.Filed → (change w).Filed) (hh : ∀ w, (change w).store = w.store) : Mirrors (modify change) := by
  refine ⟨hgrows, fun w hw _ => ⟨?_, hf w hw, fun id hid => ?_⟩⟩
  · rw [modify_apply, modify_apply, hs]
  · rw [Has, modify_apply, hh]
    exact hid

theorem mirrored_bind [ha : Mirrors a] [hg : ∀ v, Grows (next v)] {w : World} (hw : w.Filed)
    (hplain : ((a >>= next) w).2.Plain)
    (hn : ∀ v t, a w = (.ok v, t) → t.Filed → (∀ id, w.Has id → t.Has id) → (next v t).2.Plain →
      Mirrored t (next v t) (next v t.tabled)) : Mirrored w ((a >>= next) w) ((a >>= next) w.tabled) := by
  rw [bind_apply] at hplain ⊢
  rw [bind_apply]
  rcases hout : a w with ⟨f | v, t⟩
  · rw [hout] at hplain
    have hm := ha.mirror w hw (by rw [hout]; exact hplain)
    rw [hout] at hm
    rw [hm.same]
    exact ⟨rfl, hm.filed, hm.lasts⟩
  · rw [hout] at hplain
    have hm := ha.mirror w hw (by rw [hout]; exact hplain.before ((hg v).later t))
    rw [hout] at hm
    rw [hm.same]
    have hnext := hn v t hout hm.filed hm.lasts hplain
    exact ⟨hnext.same, hnext.filed, fun id hid => hnext.lasts id (hm.lasts id hid)⟩

instance [ha : Mirrors a] [hn : ∀ v, Mirrors (next v)] : Mirrors (a >>= next) := by
  have hfirst := ha.grows
  have hnext (v : α) := (hn v).grows
  exact ⟨inferInstance, fun _ hw hplain => mirrored_bind hw hplain fun v t _ ht _ => (hn v).mirror t ht⟩

instance [ha : Mirrors a] : Mirrors (discard a) := by
  have hgrows := ha.grows
  refine ⟨inferInstance, fun w hw hplain => ?_⟩
  rw [discard_apply] at hplain ⊢
  have hm := ha.mirror w hw hplain
  rw [discard_apply, hm.same]
  exact ⟨rfl, hm.filed, hm.lasts⟩

instance [ha : Mirrors a] : Mirrors (Failure.outcome a) := by
  have hgrows := ha.grows
  refine ⟨inferInstance, fun w hw hplain => ?_⟩
  have hm := ha.mirror w hw hplain
  rw [outcome_apply, outcome_apply, hm.same]
  exact ⟨rfl, hm.filed, hm.lasts⟩

theorem mirrored_tryCatch {handle : Failure → Act World α} [hh : ∀ f, Mirrors (handle f)] {w : World}
    (hplain : (tryCatch a handle w).2.Plain) (ha : (a w).2.Plain → Mirrored w (a w) (a w.tabled)) :
    Mirrored w (tryCatch a handle w) (tryCatch a handle w.tabled) := by
  rw [tryCatch_apply] at hplain ⊢
  rw [tryCatch_apply]
  rcases hout : a w with ⟨f | v, t⟩
  · rw [hout] at hplain ha
    have hm := ha (hplain.before ((hh f).grows.later t))
    rw [hm.same]
    have hn := (hh f).mirror t hm.filed hplain
    exact ⟨hn.same, hn.filed, fun id hid => hn.lasts id (hm.lasts id hid)⟩
  · rw [hout] at hplain ha
    have hm := ha hplain
    rw [hm.same]
    exact ⟨rfl, hm.filed, hm.lasts⟩

instance {handle : Failure → Act World α} [ha : Mirrors a] [hh : ∀ f, Mirrors (handle f)] :
    Mirrors (tryCatch a handle) := by
  have hfirst := ha.grows
  have hhandle (f : Failure) := (hh f).grows
  exact ⟨inferInstance, fun w hw hplain => mirrored_tryCatch hplain (ha.mirror w hw)⟩

instance (result : Except Failure α) : Mirrors (Failure.of result) := by
  cases result with
  | error f => exact inferInstanceAs (Mirrors (throw f : Act World α))
  | ok v => exact inferInstanceAs (Mirrors (pure v : Act World α))

instance {ε : Type} (cause : ε → Failure) (result : Except ε α) : Mirrors (Failure.ofExcept cause result) := by
  cases result with
  | error e => exact inferInstanceAs (Mirrors (throw (cause e) : Act World α))
  | ok v => exact inferInstanceAs (Mirrors (pure v : Act World α))

instance {p : Prop} [Decidable p] {b : Act World α} [Mirrors a] [Mirrors b] : Mirrors (if p then a else b) := by
  split <;> infer_instance

instance {handle : Failure → Act World α} [Mirrors a] [∀ f, Mirrors (handle f)] :
    Mirrors (Failure.handling a handle) := by
  unfold Failure.handling
  infer_instance

instance {items : List α} {each : α → Act World PUnit} [h : ∀ item, Mirrors (each item)] :
    Mirrors (items.forM each) := by
  induction items with
  | nil => exact inferInstanceAs (Mirrors (pure ⟨⟩ : Act World PUnit))
  | cons first rest ih => exact inferInstanceAs (Mirrors (each first >>= fun _ => rest.forM each))

end Combinators

end Act

namespace World

open Act

variable {α : Type} {env : Setting} {w : World}

/-! Requests to the store -/

theorem mirrored_onStore {onMemory : Act Memory α} {onTable : Act Table α} (hw : w.Filed)
    (hplain : (onStore (Store.run onMemory onTable) w).2.Plain)
    (h : ∀ m, m.Filed w.issued (.ofMillis w.clock) → m.isPlain = true → (onMemory m).2.isPlain = true →
      Memory.Mirrored w.issued (.ofMillis w.clock) m (onMemory m) (onTable m.table)) :
    Mirrored w (onStore (Store.run onMemory onTable) w) (onStore (Store.run onMemory onTable) w.tabled) := by
  obtain ⟨store, past, journal, clock, issued, named, requests, calls, answers, refusals⟩ := w
  cases store with
  | table t => exact hw.elim
  | memory m =>
    have hafter : (onMemory m).2.isPlain = true := hplain.store
    have hbefore : m.isPlain = true := hplain (.memory m) (by
      rw [timeline_asked (b := ⟨.memory m, past, journal, clock, issued, named, requests, calls, answers, refusals⟩) rfl]
      exact List.mem_append_left _ (List.mem_append_right _ (List.mem_singleton_self _)))
    obtain ⟨hsame, hfiled, hlasts⟩ := h m hw hbefore hafter
    refine ⟨?_, hfiled, hlasts⟩
    simp only [onStore_apply, tabled, Store.tabled, Store.run, hsame, List.map_cons]
    rfl

theorem mirrors_onStore {onMemory : Act Memory α} {onTable : Act Table α}
    (h : ∀ issued now m, m.Filed issued now → m.isPlain = true → (onMemory m).2.isPlain = true →
      Memory.Mirrored issued now m (onMemory m) (onTable m.table)) : Mirrors (onStore (Store.run onMemory onTable)) :=
  ⟨inferInstance, fun _ hw hplain => mirrored_onStore hw hplain fun m => h _ _ m⟩

theorem mirrors_update {p : ExecutionPatch} (hp : p.Regular) (id : String) (expected : Option (List RunStatus)) :
    Mirrors (onStore (Store.updateExecution id p expected)) :=
  mirrors_onStore fun _ _ _ hm hplain => Memory.mirrored_updateExecution hm hplain hp id expected

theorem mirrors_updateRecord {p : StepPatch} (hp : p.Regular) (id : String) :
    Mirrors (onStore (Store.updateStep id p)) :=
  mirrors_onStore fun _ _ _ hm hplain => Memory.mirrored_updateStep hm hplain hp id

instance (id : String) : Mirrors (onStore (Store.findExecution id)) :=
  mirrors_onStore fun _ _ _ hm hplain _ => Memory.mirrored_findExecution hm hplain id

instance : Mirrors (onStore Store.listExecutions) :=
  mirrors_onStore fun _ _ _ hm hplain _ => Memory.mirrored_listExecutions hm hplain

instance (id : String) : Mirrors (onStore (Store.findWorkflow id)) :=
  mirrors_onStore fun _ _ _ hm hplain _ => Memory.mirrored_findWorkflow hm hplain id

instance : Mirrors (onStore Store.listWorkflows) :=
  mirrors_onStore fun _ _ _ hm hplain _ => Memory.mirrored_listWorkflows hm hplain

theorem regular_cancelPatch (now : Time) : (cancelPatch now).Regular :=
  ExecutionPatch.regular_of_status .cancelled rfl none (some (some now))

instance : Mirrors now := by
  unfold now
  exact mirrors_get_bind fun _ => rfl

instance (id : String) : Mirrors (cancelAside id) := by
  have hcancel (now : Time) := mirrors_update (regular_cancelPatch now) id (some RunStatus.active)
  unfold cancelAside
  infer_instance

instance : Mirrors (arrive env) := by
  unfold arrive
  exact mirrors_get_bind fun _ => rfl

instance (method : Method) : Mirrors (modify fun w : World => { w with requests := method :: w.requests }) :=
  mirrors_modify inferInstance (fun _ => rfl) (fun _ h => h) fun _ => rfl

instance (method : Method) : Mirrors (request env method) := by
  have hfault (fault : Option Fault) : Mirrors (match fault with
      | some (.raise e) => throw (.raised e)
      | other => pure other : Act World (Option Fault)) := by
    split <;> infer_instance
  have hlook : Mirrors (get >>= fun w => match env.faults method (w.requests.count method) with
      | some (.raise e) => throw (.raised e)
      | other => pure other : Act World (Option Fault)) := mirrors_get_bind fun _ => rfl
  unfold request
  dsimp only
  infer_instance

theorem mirrored_reporting {action : Act World α} (h : Mirrored w (action w) (action w.tabled)) :
    Mirrored w (reporting action w) (reporting action w.tabled) := by
  rw [reporting_apply, reporting_apply, h.same]
  exact ⟨rfl, h.filed, h.lasts⟩

instance (action : Act World α) [h : Mirrors action] : Mirrors (reporting action) := by
  have hgrows := h.grows
  refine ⟨by unfold reporting; infer_instance, fun w hw hplain => mirrored_reporting (h.mirror w hw ?_)⟩
  rw [reporting_apply] at hplain
  exact hplain

theorem issuing_apply {action : String → Act World α} {v : α} {t : World} (h : action w.nextId w = (.ok v, t)) :
    issuing action w = (.ok v, { t with issued := t.issued + 1 }) := by
  rw [issuing, bind_apply, get_apply, andThen_ok, bind_apply, h]
  rfl

theorem mirrored_issuing {action : String → Act World α} {onMemory : Act Memory α} {onTable : Act Table α}
    (hw : w.Filed) (haction : action w.nextId w = onStore (Store.run onMemory onTable) w)
    (haction' : action w.tabled.nextId w.tabled = onStore (Store.run onMemory onTable) w.tabled)
    (h : ∀ m, w.store = .memory m → m.Filed w.issued (.ofMillis w.clock) → ∃ v, (onMemory m).1 = .ok v ∧
      Memory.Mirrored (w.issued + 1) (.ofMillis w.clock) m (onMemory m) (onTable m.table)) :
    Mirrored w (issuing action w) (issuing action w.tabled) := by
  obtain ⟨store, past, journal, clock, issued, named, requests, calls, answers, refusals⟩ := w
  cases store with
  | table t => exact hw.elim
  | memory m =>
    obtain ⟨v, hok, hsame, hfiled, hlasts⟩ := h m rfl hw
    have hpair : onMemory m = (.ok v, (onMemory m).2) := Prod.ext hok rfl
    rw [hok] at hsame
    generalize (onMemory m).2 = m' at *
    have hrun : Store.run onMemory onTable (.memory m) = (.ok v, .memory m') := by rw [Store.run, hpair]
    have hrun' : Store.run onMemory onTable (.table m.table) = (.ok v, .table m'.table) := by
      rw [Store.run, hsame]
    rw [onStore_apply] at haction haction'
    dsimp only [tabled, Store.tabled] at haction haction' ⊢
    rw [hrun] at haction
    rw [hrun'] at haction'
    rw [issuing_apply haction, issuing_apply haction']
    exact ⟨rfl, hfiled, hlasts⟩

instance (workflow : String) (members : Members) :
    Mirrors (issuing fun id => do onStore (Store.createExecution id workflow (.obj members) (← now))) :=
  ⟨inferInstance, fun _ hw _ => mirrored_issuing hw rfl rfl fun _ _ hm =>
    ⟨_, rfl, Memory.mirrored_createExecution hm workflow members _⟩⟩

instance (workflow : String) (members : Members) : Mirrors (createExecution env workflow (.obj members)) := by
  have hdrop (id : String) := mirrors_update (ExecutionPatch.regular_of_status .cancelled rfl none none) id none
  unfold createExecution
  infer_instance

theorem mirrors_updateExecution {p : ExecutionPatch} (hp : p.Regular) (id : String)
    (expected : Option (List RunStatus)) : Mirrors (updateExecution env id (.ok p) expected) := by
  have hupdate := mirrors_update hp id expected
  exact inferInstanceAs (Mirrors (reporting (discard (request env .updateExecution) >>= fun _ =>
    onStore (Store.updateExecution id p expected))))

/-- A record is only made for a run that is there, which a table would not ask. -/
theorem mirrored_createStep {execution step : String} (hw : w.Filed) (hown : w.Has execution)
    (hplain : (createStep env execution step w).2.Plain) :
    Mirrored w (createStep env execution step w) (createStep env execution step w.tabled) := by
  have hplain' : ((discard (request env .createStep) >>= fun _ =>
      issuing fun id => onStore (Store.createStep id execution step)) w).2.Plain := by
    rw [createStep, reporting_apply] at hplain
    exact hplain
  refine mirrored_reporting (mirrored_bind hw hplain' fun _ t _ ht hlasts _ => ?_)
  refine mirrored_issuing ht rfl rfl fun m hm hfiled => ?_
  have hhas : m.executions.has execution = true := by
    have htown := hlasts execution hown
    rw [Has, hm] at htown
    exact htown
  exact Memory.mirrored_createStep hfiled hhas step

theorem mirrors_updateStep {p : StepPatch} (hp : p.Regular) (id : String) :
    Mirrors (updateStep env id (.ok p)) := by
  have hupdate := mirrors_updateRecord hp id
  exact inferInstanceAs (Mirrors (reporting (discard (request env .updateStep) >>= fun _ =>
    onStore (Store.updateStep id p))))

instance (id : String) : Mirrors (findExecution env id) := by
  unfold findExecution
  infer_instance

instance : Mirrors (listExecutions env) := by
  unfold listExecutions
  infer_instance

instance (d : Definition) : Mirrors (createWorkflow env d) := by
  have hcreate : Mirrors (do onStore (Store.createWorkflow d (← now))) :=
    ⟨inferInstance, fun w hw hplain => mirrored_onStore hw hplain fun _ hm _ _ => Memory.mirrored_createWorkflow hm d⟩
  unfold createWorkflow
  infer_instance

instance (id : String) : Mirrors (findWorkflow env id) := by
  unfold findWorkflow
  infer_instance

instance : Mirrors (listWorkflows env) := by
  unfold listWorkflows
  infer_instance

instance (id : String) : Mirrors (getExecution env id) := by
  have hfound (found : Option Execution) : Mirrors (match found with
      | some e => pure e
      | none => throw (.noExecution id) : Act World Execution) := by
    cases found <;> infer_instance
  unfold getExecution
  infer_instance

instance (id : String) : Mirrors (cancel env id) := by
  have hupdate (now : Time) : Mirrors (updateExecution env id (.ok (cancelPatch now)) (some RunStatus.active)) :=
    mirrors_updateExecution (regular_cancelPatch now) id (some RunStatus.active)
  have hdone (updated : Option Execution) : Mirrors (match updated with
      | some _ => getExecution env id
      | none => do throw (.notCancellable (← getExecution env id).status) : Act World Execution) := by
    cases updated <;> infer_instance
  unfold cancel
  infer_instance

theorem Filed.wait (hw : w.Filed) {ms : Int} (h : 0 ≤ ms) : { w with clock := w.clock + ms }.Filed := by
  obtain ⟨store, past, journal, clock, issued, named, requests, calls, answers, refusals⟩ := w
  cases store with
  | table t => exact hw.elim
  | memory m => exact Memory.Filed.wait hw (by show 1000 * clock ≤ 1000 * (clock + ms); omega)

theorem mirrors_called {behaviour : Behaviour} (h : 0 ≤ behaviour.advance) (call : Call) :
    Mirrors (called call behaviour) :=
  mirrors_modify (inferInstanceAs (Grows (called call behaviour))) (fun _ => rfl) (fun _ hw => hw.wait h) fun _ => rfl

instance (e : Raised) : Mirrors (fail e : Act World α) := by
  unfold fail
  infer_instance

instance (behaviour : Behaviour) : Mirrors (answer env behaviour) := by
  unfold answer
  cases behaviour.cancels <;> cases behaviour.outcome <;> dsimp only <;> infer_instance

theorem mirrors_invoke {script : Script} (hscript : ∀ n payload, 0 ≤ (script n payload).advance)
    (agent operation : String) (payload : Json) : Mirrors (invoke env agent operation script payload) := by
  have hcalled (n : Nat) (call : Call) := mirrors_called (hscript n payload) call
  have hcall : Mirrors (get >>= fun w : World => do
      let earlier := w.calls.countP fun call => call.agent = agent && call.operation = operation
      called ⟨agent, operation, payload⟩ (script earlier payload)
      answer env (script earlier payload)) := mirrors_get_bind fun _ => rfl
  rw [invoke_eq]
  dsimp only at hcall ⊢
  infer_instance

instance (answer : CallEnd) : Mirrors (takeUp answer) := by
  have hlog : Mirrors (modify fun w : World => { w with answers := w.answers ++ [answer] }) :=
    mirrors_modify inferInstance (fun _ => rfl) (fun _ h => h) fun _ => rfl
  unfold takeUp
  infer_instance

end World

end Conductor
