import Conductor.Proofs.Run.Trace
import Conductor.Proofs.Run.Turn
import Conductor.Proofs.World.History
import Conductor.Proofs.World.Silence
import Mathlib.Algebra.Order.Group.Multiset

/-! The calls, events, failures of requests and answers that work adds, and which steps of a budget made the calls,
whatever fails: a step is started before it calls its agent, and takes up the answer once. Work that comes to a good
end has had no request fail. -/

namespace Conductor

/-- A call that a step makes, with what there was to read when the step was started, the world in which the call is made
and how it ends. -/
structure Dispatch where
  id : String
  agent : String
  operation : String
  fields : Members
  key : Option String
  context : Context
  store : Store
  payload : Json
  before : World
  outcome : Except Failure (Json × Bool)

namespace Dispatch

def step (d : Dispatch) : Step := .agent d.id d.agent d.operation d.fields d.key

def call (d : Dispatch) : Call := ⟨d.agent, d.operation, d.payload⟩

/-- The call with those that were made before it. -/
def entry (d : Dispatch) : Call × List Call := (d.call, d.before.calls)

def ending (d : Dispatch) : CallEnd := ⟨d.before.calls.length, d.outcome⟩

def start (own : String) (d : Dispatch) : Event := .started own d.id d.context d.store

/-- The payload is what the template of the step comes to in a run with this input. -/
structure Fits (input : Json) (d : Dispatch) : Prop where
  input : d.context.input = input
  payload : Template.resolve d.context.view (.obj d.fields) = .ok d.payload

/-- It ends as the operation of its agent does in that world. -/
def Ends (env : Setting) (d : Dispatch) : Prop :=
  ∃ script, env.agents.get d.agent d.operation = .ok script ∧
    (World.invoke env d.agent d.operation script d.payload d.before).1 = d.outcome

end Dispatch

/-- Calls, events, failures of requests and answers as what can be owned. -/
abbrev Traffic := Multiset (Call × List Call) × Multiset Event × Multiset Failure × Multiset CallEnd

def traffic : Estate Stage Traffic where
  drift := free
  drifts _ _ := trivial
  calm _ := True
  calm_of_drift _ _ := trivial
  fit _ := True
  whole s := (s.world.log, s.world.journal, s.world.refusals, s.world.answers)

/-- The calls were made by steps of a budget, each of which was started before, and all but some have been answered. -/
def Posted (env : Setting) (own : String) (input : Json) (budget : Multiset Step) (pending : Multiset CallEnd)
    (m : Traffic) : Prop :=
  ∃ made : Multiset Dispatch, m.1 = made.map Dispatch.entry ∧ made.map (Dispatch.start own) ≤ m.2.1 ∧
    made.map Dispatch.step ≤ budget ∧ (∀ d ∈ made, d.Fits input ∧ d.Ends env) ∧
    made.map Dispatch.ending = m.2.2.2 + pending

/-- The same of work that has ended: no call is left open, the input is kept, and when it went well no request has
failed. -/
structure Sent {α : Type} (env : Setting) (own : String) (input : Json) (budget : Multiset Step) (out : Except Failure α)
    (c : Context) (m : Traffic) : Prop where
  kept : c.input = input
  posted : Posted env own input budget 0 m
  quiet : ∀ v, out = .ok v → m.2.2.1 = 0

section Traffic

variable {α β : Type} {env : Setting} {own : String} {input : Json} {budget more : Multiset Step}
  {pending others : Multiset CallEnd} {m m' : Traffic} {c c' : Context}

/-- Without calls and answers there is nothing to pay for. -/
theorem posted_of_none (h : m.1 = 0) (ha : m.2.2.2 = 0) : Posted env own input budget 0 m :=
  ⟨0, by rw [h]; rfl, Multiset.zero_le _, Multiset.zero_le _, fun d hd => absurd hd (Multiset.notMem_zero d),
    by rw [ha]; rfl⟩

theorem Posted.mono (h : Posted env own input budget pending m) (hb : budget ≤ more) :
    Posted env own input more pending m := by
  obtain ⟨made, hcalls, hstarts, hsteps, hfit, hends⟩ := h
  exact ⟨made, hcalls, hstarts, hsteps.trans hb, hfit, hends⟩

theorem Posted.add (h : Posted env own input budget pending m) (h' : Posted env own input more others m') :
    Posted env own input (budget + more) (pending + others) (m + m') := by
  obtain ⟨made, hcalls, hstarts, hsteps, hfit, hends⟩ := h
  obtain ⟨made', hcalls', hstarts', hsteps', hfit', hends'⟩ := h'
  refine ⟨made + made', ?_, ?_, ?_, fun d hd => (Multiset.mem_add.1 hd).elim (hfit d) (hfit' d), ?_⟩
  · rw [Prod.fst_add, hcalls, hcalls', Multiset.map_add]
  · rw [Multiset.map_add]
    exact add_le_add hstarts hstarts'
  · rw [Multiset.map_add]
    exact add_le_add hsteps hsteps'
  · rw [Multiset.map_add, hends, hends']
    exact add_add_add_comm ..

theorem Posted.add_none (h : Posted env own input budget pending m) (hm : m'.1 = 0) (ha : m'.2.2.2 = 0) :
    Posted env own input budget pending (m + m') := by
  have hadd := h.add (posted_of_none hm ha : Posted env own input 0 0 m')
  rwa [add_zero, add_zero] at hadd

theorem Sent.mono {out : Except Failure α} (h : Sent env own input budget out c m) (hb : budget ≤ more) :
    Sent env own input more out c m := ⟨h.kept, h.posted.mono hb, h.quiet⟩

theorem Sent.add {v : α} {out : Except Failure β} (h : Sent env own input budget (.ok v) c m)
    (h' : Sent env own input more out c' m') : Sent env own input (budget + more) out c' (m + m') where
  kept := h'.kept
  posted := h.posted.add h'.posted
  quiet w hw := by
    show m.2.2.1 + m'.2.2.1 = 0
    rw [h.quiet v rfl, h'.quiet w hw, add_zero]

theorem Sent.error {out : Except Failure α} {e : Failure} (h : Sent env own input budget out c m) :
    Sent env own input budget (.error e : Except Failure β) c m := ⟨h.kept, h.posted, fun _ => nofun⟩

end Traffic

namespace Flow

open Round

variable {α β : Type} {env : Setting} {own : String} {input : Json} {budget more : Multiset Step}
  {m m' rest : Traffic} {c c' : Context} {s t : Stage}

instance (f : Flow α) : Follows traffic.drift f := inferInstanceAs (Follows free f)

/-! Work that makes no call -/

/-- What is added to all that there is can be held besides. -/
theorem holds_added {more : Traffic} (hs : traffic.Holds m rest s) (h : traffic.whole t = traffic.whole s + more) :
    traffic.Holds (m + more) rest t :=
  ⟨trivial, trivial, by rw [h, hs.whole, add_right_comm]⟩

/-- What is held stays as it is while silent work goes well; otherwise only failures are added to it. -/
theorem holds_of_silent {out : Except Failure α} (h : World.Silent s.world (out, t.world))
    (hs : traffic.Holds m rest s) :
    ∃ refused, traffic.Holds (m + (0, 0, refused, 0)) rest t ∧ ∀ v, out = .ok v → refused = 0 := by
  obtain ⟨refused, hr, hnone⟩ := h.refusals
  refine ⟨refused, holds_added hs (Prod.ext ?_ (Prod.ext ?_ (Prod.ext ?_ ?_))), fun v hv => by rw [hnone v hv]; rfl⟩
  · show (t.world.log : Multiset (Call × List Call)) = s.world.log + 0
    rw [add_zero, World.log_eq h.calls]
  · show (t.world.journal : Multiset Event) = s.world.journal + 0
    rw [add_zero, h.journal]
  · show (t.world.refusals : Multiset Failure) = s.world.refusals + refused
    rw [hr, ← Multiset.coe_add, add_comm]
  · show (t.world.answers : Multiset CallEnd) = s.world.answers + 0
    rw [add_zero, h.answers]

/-- Work stays in its context, and at most adds failures of requests, and these only when it fails. -/
def Keeps (c : Context) (m : Traffic) (out : Except Failure α) (c' : Context) (m' : Traffic) : Prop :=
  c' = c ∧ ∃ refused, m' = m + (0, 0, refused, 0) ∧ ∀ v, out = .ok v → refused = 0

/-- Work that stays in its context, neither calls nor notes anything, and has no request fail unless it fails
itself. -/
class Mute (f : Flow α) : Prop where
  turn : ∀ c m rest s, traffic.Holds m rest s → Turn traffic (Keeps c m) rest f c s

section Mute

variable {f : Flow α} {g : α → Flow β}

theorem keeps_rfl {out : Except Failure α} : Keeps c m out c m := ⟨rfl, 0, (add_zero m).symm, fun _ _ => rfl⟩

theorem Keeps.ok {v : α} (h : Keeps c m (.ok v) c' m') : c' = c ∧ m' = m := by
  obtain ⟨hc, refused, rfl, hnone⟩ := h
  rw [hnone v rfl]
  exact ⟨hc, add_zero m⟩

theorem Keeps.error {e : Failure} (h : Keeps c m (.error e : Except Failure α) c' m') :
    Keeps c m (.error e : Except Failure β) c' m' := by
  obtain ⟨hc, refused, rfl, -⟩ := h
  exact ⟨hc, refused, rfl, fun _ => nofun⟩

theorem mute_done (h : ∀ c s, ∃ out, f c s = (.done (out, c), s)) : Mute f := by
  refine ⟨fun c m rest s hs => ?_⟩
  obtain ⟨out, hf⟩ := h c s
  exact turn_done hf hs keeps_rfl

instance (v : α) : Mute (pure v : Flow α) := mute_done fun _ _ => ⟨.ok v, rfl⟩

instance (e : Failure) : Mute (throw e : Flow α) := mute_done fun _ _ => ⟨.error e, rfl⟩

instance : Mute (get : Flow Context) := mute_done fun c _ => ⟨.ok c, rfl⟩

instance (result : Except Failure α) : Mute (Failure.of result : Flow α) :=
  mute_done fun _ _ => ⟨result, by cases result <;> rfl⟩

instance {ε : Type} (cause : ε → Failure) (result : Except ε α) : Mute (Failure.ofExcept cause result : Flow α) :=
  mute_done fun _ _ => ⟨result.mapError cause, by cases result <;> rfl⟩

instance [hf : Mute f] [hg : ∀ v, Mute (g v)] : Mute (f >>= g) := by
  refine ⟨fun c m rest s hs => (hf.turn c m rest s hs).bind ?_ fun e c' m' h => h.error⟩
  intro v c' m' h t rest' ht
  obtain ⟨rfl, rfl⟩ := h.ok
  exact (hg v).turn _ _ rest' t ht

instance [hf : Mute f] : Mute (discard f) := by
  refine ⟨fun c m rest s hs => Turn.discard ((hf.turn c m rest s hs).mono fun out c' m' h => ?_)⟩
  cases out with
  | error e => exact h.error
  | ok v =>
    obtain ⟨rfl, rfl⟩ := h.ok
    exact keeps_rfl

instance {p : Prop} [Decidable p] {f' : Flow α} [Mute f] [Mute f'] : Mute (if p then f else f') := by
  split <;> infer_instance

instance {ι : Type} {items : List ι} {each : ι → Flow PUnit} [∀ item, Mute (each item)] : Mute (items.forM each) := by
  induction items with
  | nil => exact inferInstanceAs (Mute (pure ⟨⟩ : Flow PUnit))
  | cons first rest ih => exact inferInstanceAs (Mute (each first >>= fun _ => rest.forM each))

theorem mute_onLedger {action : Act Stage α} (hw : ∀ s, (action s).2.world = s.world) : Mute (Run.onStage action) := by
  refine ⟨fun c m rest s hs => turn_done rfl ⟨trivial, trivial, ?_⟩ keeps_rfl⟩
  rw [← hs.whole]
  simp only [traffic, hw]

instance (action : Act World α) [ha : Act.Hushed action] : Mute (Run.onWorld action) := by
  refine ⟨fun c m rest s hs => ?_⟩
  let t : Stage := { s with world := (action s.world).2 }
  obtain ⟨refused, ht, hnone⟩ := holds_of_silent (t := t) (ha.silent s.world) hs
  exact turn_done rfl ht ⟨rfl, refused, rfl, hnone⟩

instance (env : Setting) (account : Account) (step : String) (moment : Moment) :
    Mute (Run.wait env account step moment) := by
  refine ⟨fun c m rest s hs => (turn_wait hs).mono ?_⟩
  rintro out c' m' ⟨-, rfl, rfl⟩
  exact keeps_rfl

/-- What follows mute work starts from what was there before it. -/
theorem Mute.before [Mute f] {goal : Except Failure β → Context → Traffic → Prop} (hs : traffic.Holds m rest s)
    (hg : ∀ v t rest, traffic.Holds m rest t → Turn traffic goal rest (g v) c t)
    (he : ∀ e refused, goal (.error e) c (m + (0, 0, refused, 0))) : Turn traffic goal rest (f >>= g) c s := by
  refine (Mute.turn c m rest s hs).bind ?_ ?_
  · intro v c' m' h t rest' ht
    obtain ⟨rfl, rfl⟩ := h.ok
    exact hg v t rest' ht
  · rintro e c' m' ⟨rfl, refused, rfl, -⟩
    exact he e refused

end Mute

theorem holds_note (event : Event) (hs : traffic.Holds m rest s) :
    traffic.Holds (m + (0, {event}, 0, 0)) rest { s with world := (World.note event s.world).2 } := by
  refine holds_added hs (Prod.ext (add_zero _).symm (Prod.ext ?_ (add_zero _).symm))
  show ((event :: s.world.journal : List Event) : Multiset Event) = s.world.journal + {event}
  rw [add_comm]
  rfl

/-! Work that calls agents for the steps of a budget -/

/-- Work that makes no calls but for the steps of a budget, in every run with some input. -/
class Sends (env : Setting) (own : String) (input : Json) (budget : Multiset Step) (f : Flow α) : Prop where
  turn : ∀ c, c.input = input → ∀ s rest, traffic.Holds 0 rest s → Turn traffic (Sent env own input budget) rest f c s

section Sends

variable {f : Flow α} {g : α → Flow β}

theorem Sends.mono (h : Sends env own input budget f) (hb : budget ≤ more) : Sends env own input more f :=
  ⟨fun c hc s rest hs => (h.turn c hc s rest hs).mono fun _ _ _ sent => sent.mono hb⟩

theorem Sends.beside (h : Sends env own input budget f) (hc : c.input = input) (hs : traffic.Holds m rest s) :
    Turn traffic (fun out c' m' => ∃ m₁, m' = m₁ + m ∧ Sent env own input budget out c' m₁) rest f c s :=
  (h.turn c hc s (m + rest) ⟨trivial, trivial, by rw [hs.whole, zero_add]⟩).frame

theorem turn_andThen (h : Turn traffic (Sent env own input budget) rest f c s) (hg : ∀ v, Sends env own input more (g v)) :
    Turn traffic (Sent env own input (budget + more)) rest (f >>= g) c s := by
  refine h.bind (fun v c m sent t rest' ht => ?_) fun e c m sent => sent.error.mono (Multiset.le_add_right _ _)
  refine ((hg v).beside sent.kept ht).mono ?_
  rintro out c' _ ⟨m₁, rfl, sent'⟩
  rw [add_comm m₁]
  exact sent.add sent'

theorem Sends.bind (h : Sends env own input budget f) (hg : ∀ v, Sends env own input more (g v)) :
    Sends env own input (budget + more) (f >>= g) := ⟨fun c hc s rest hs => turn_andThen (h.turn c hc s rest hs) hg⟩

instance [hf : Mute f] : Sends env own input 0 f := by
  refine ⟨fun c hc s rest hs => (Mute.turn c 0 rest s hs).mono ?_⟩
  rintro out c' m ⟨rfl, refused, rfl, hnone⟩
  exact ⟨hc, posted_of_none rfl rfl, fun v hv => by rw [hnone v hv]; rfl⟩

theorem Sends.after [hf : Sends env own input 0 f] (hg : ∀ v, Sends env own input budget (g v)) :
    Sends env own input budget (f >>= g) := by
  rw [← zero_add budget]
  exact hf.bind hg

theorem Sends.before (hf : Sends env own input budget f) [hg : ∀ v, Sends env own input 0 (g v)] :
    Sends env own input budget (f >>= g) := by
  rw [← add_zero budget]
  exact hf.bind hg

instance [Sends env own input 0 f] [hg : ∀ v, Sends env own input 0 (g v)] : Sends env own input 0 (f >>= g) := Sends.after hg

theorem Sends.discard (h : Sends env own input budget f) : Sends env own input budget (discard f) := by
  refine ⟨fun c hc s rest hs => Turn.discard ((h.turn c hc s rest hs).mono fun out c' m sent => ?_)⟩
  refine ⟨sent.kept, sent.posted, fun v hv => ?_⟩
  cases out with
  | ok v => exact sent.quiet v rfl
  | error e => cases hv

theorem holds_none (s : Stage) : traffic.Holds 0 (traffic.whole s) s := ⟨trivial, trivial, (zero_add _).symm⟩

theorem Turn.exec {aim : Except Failure α → Context → Traffic → Prop} (h : Turn traffic aim rest f c s) :
    ∃ m, traffic.Holds m rest (f.exec c s).2 ∧ aim (f.exec c s).1.1 (f.exec c s).1.2 m :=
  Process.ownsTurn_run h (safeTurn_iff.2 ⟨trivial, safe_free _ _⟩) trivial

theorem Sends.quiet [Grows f] (h : Sends env own input budget f) (hc : c.input = input) {v : α}
    (hf : f.exec c s = ((.ok v, c'), t)) : t.world.refusals = s.world.refusals := by
  obtain ⟨m, ht, sent⟩ := (h.turn c hc s _ (holds_none s)).exec
  have hlater := (later f c s).refusals
  rw [hf] at ht sent hlater
  have hwhole : (t.world.refusals : Multiset Failure) = m.2.2.1 + s.world.refusals := congrArg (·.2.2.1) ht.whole
  rw [sent.quiet v rfl, zero_add] at hwhole
  exact (hlater.eq_of_length (Multiset.coe_eq_coe.1 hwhole).length_eq.symm).symm

theorem sends_settles (h : ∀ c, ∃ out c', Settles f c out c' ∧ c'.input = c.input) : Sends env own input 0 f := by
  refine ⟨fun c hc s rest hs => ?_⟩
  obtain ⟨out, c', hf, hkept⟩ := h c
  exact turn_done (hf s) hs ⟨hkept.trans hc, posted_of_none rfl rfl, fun _ _ => rfl⟩

end Sends

end Flow

end Conductor
