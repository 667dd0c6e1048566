import Conductor.Engine
import Conductor.Proofs.Run.Account
import Conductor.Proofs.Run.Bodies
import Conductor.Proofs.Run.Traffic

/-! Which steps make the calls of a run. Whatever fails, no step is run twice, so that the calls that some steps make
are at most one for each agent step among them and those that they hold; and however long an answer takes, the step
that waits for it takes it up. -/

namespace Conductor

namespace Run

open Conductor.Flow

variable {env : Setting} {own : String} {input : Json} {budget : Multiset Step} {m rest : Traffic} {c : Context}
  {s : Stage}

instance : Mute view := by
  unfold view
  infer_instance

instance (account : Account) : Mute (spent account) := mute_onLedger fun _ => rfl

instance (account : Account) (amount : Float) : Mute (charge account amount) := mute_onLedger fun _ => rfl

instance (account : Account) (count : Nat) : Mute (openAccounts account count) := mute_onLedger fun _ => rfl

instance (account : Account) (step id : String) (status : StepStatus) (cost : Float) (output : Output)
    (error : Option String) : Mute (finish env account step id status cost output error) := by
  unfold finish
  infer_instance

instance (account : Account) (step id : String) (before : Float) (out : Except Failure Output) :
    Mute (conclude env account step id before out) := by
  unfold conclude
  cases out <;> dsimp only <;> infer_instance

instance (account : Account) (step : String) : Mute (skip env own account step) := by
  unfold skip
  infer_instance

instance (account : Account) (steps : List Step) : Mute (skipAll env own account steps) := by
  unfold skipAll
  infer_instance

theorem input_published (c : Context) (id : String) (key : Option String) (out : Except Failure Output) :
    (published c id key out).input = c.input := by
  cases out <;> rfl

instance (id : String) (output : Output) (key : Option String) : Sends env own input 0 (record id output key) :=
  sends_settles fun c => ⟨.ok ⟨⟩, c.record id output key, fun _ => rfl, rfl⟩

/-! Bodies of steps -/

/-- Work that a step does once it has been noted that it was started in some context. -/
def Delivers (env : Setting) (own : String) (input : Json) (budget : Multiset Step) (id : String) (c : Context)
    (body : Flow Output) : Prop :=
  ∀ store s rest, traffic.Holds (0, {.started own id c store}, 0, 0) rest s →
    Turn traffic (Sent env own input budget) rest body c s

theorem delivers_of_sends {id : String} {body : Flow Output} (h : Sends env own input budget body) (hc : c.input = input) :
    Delivers env own input budget id c body := by
  refine fun store s rest hs => (h.beside hc hs).mono ?_
  rintro out c' _ ⟨m₁, rfl, sent⟩
  refine ⟨sent.kept, sent.posted.add_none rfl rfl, fun v hv => ?_⟩
  show m₁.2.2.1 + 0 = 0
  rw [sent.quiet v hv, add_zero]

theorem turn_look_bind {α : Type} {goal : Except Failure α → Context → Traffic → Prop} {g : Nat → Flow α}
    (h : Turn traffic goal rest (g s.world.calls.length) c s) :
    Turn traffic goal rest (onWorld (do return (← get).calls.length) >>= g) c s := h

theorem turn_invoke {agent operation : String} {script : Script} {payload : Json} (hs : traffic.Holds m rest s) :
    Turn traffic (fun out c' m' => c' = c ∧ out = (World.invoke env agent operation script payload s.world).1 ∧
      ∃ refused, m' = m + ({(⟨agent, operation, payload⟩, s.world.calls)}, 0, refused, 0) ∧
        ∀ v, out = .ok v → refused = 0) rest (onWorld (World.invoke env agent operation script payload)) c s := by
  obtain ⟨mid, hcalls, hanswers, hjournal, hrefusals, hsilent⟩ :=
    @World.invoke_calls env agent operation script payload s.world
  have hmid : traffic.Holds (m + ({(⟨agent, operation, payload⟩, s.world.calls)}, 0, 0, 0)) rest
      { s with world := mid } := by
    refine holds_added hs (Prod.ext ?_ (Prod.ext ?_ (Prod.ext ?_ ?_)))
    · show (mid.log : Multiset (Call × List Call)) = s.world.log + {(⟨agent, operation, payload⟩, s.world.calls)}
      rw [World.log_called hcalls, ← Multiset.coe_add]
      rfl
    · show (mid.journal : Multiset Event) = s.world.journal + 0
      rw [hjournal, add_zero]
    · show (mid.refusals : Multiset Failure) = s.world.refusals + 0
      rw [hrefusals, add_zero]
    · show (mid.answers : Multiset CallEnd) = s.world.answers + 0
      rw [hanswers, add_zero]
  let t : Stage := { s with world := (World.invoke env agent operation script payload s.world).2 }
  obtain ⟨refused, ht, hnone⟩ := holds_of_silent (t := t) hsilent hmid
  rw [add_assoc] at ht
  refine turn_done rfl ht ⟨rfl, rfl, refused, ?_, hnone⟩
  refine congrArg (m + ·) (Prod.ext (add_zero _) (Prod.ext (add_zero _) (Prod.ext (zero_add _) (add_zero _))))

/-- A call that was made, once the step had been started; its answer is open, and tells whether a request has failed. -/
theorem turn_call (account : Account) (id agent operation : String) (fields : Members) (key : Option String)
    {store : Store} (hc : c.input = input) (hs : traffic.Holds (0, {.started own id c store}, 0, 0) rest s) :
    Turn traffic (fun out c' m' => c' = c ∧ ∃ pending,
        Posted env own input {.agent id agent operation fields key} pending m' ∧
        (∀ asked, out = .ok asked → pending = {asked.2} ∧ ∀ v, asked.2.outcome = .ok v → m'.2.2.1 = 0) ∧
        ∀ e, out = .error e → pending = 0)
      rest (call env account id agent operation fields) c s := by
  have hfail {e : Failure} {refused : Multiset Failure} : c = c ∧ ∃ pending,
      Posted env own input {.agent id agent operation fields key} pending
        ((0, {.started own id c store}, 0, 0) + (0, 0, refused, 0)) ∧
      (∀ asked : Output × CallEnd, (.error e : Except Failure _) = .ok asked → pending = {asked.2} ∧
        ∀ v, asked.2.outcome = .ok v → ((0, {.started own id c store}, 0, 0) + (0, 0, refused, 0) : Traffic).2.2.1 = 0) ∧
      ∀ e', (.error e : Except Failure (Output × CallEnd)) = .error e' → pending = 0 :=
    ⟨rfl, 0, posted_of_none rfl rfl, fun _ => nofun, fun _ _ => rfl⟩
  refine Mute.before hs (fun _ s rest hs => ?_) fun _ _ => hfail
  have hnothing {e : Failure} := @hfail e 0
  rw [show ((0, {.started own id c store}, 0, 0) + (0, 0, 0, 0) : Traffic) = (0, {.started own id c store}, 0, 0) from
    add_zero _] at hnothing
  refine turn_ofExcept_bind hs (fun script hscript => ?_) fun _ _ => hnothing
  refine turn_view_bind (turn_ofExcept_bind hs (fun payload hresolve => ?_) fun _ _ => hnothing)
  have hpayload : Template.resolve c.view (.obj fields) = .ok payload.value := by
    rw [Template.resolveOutput] at hresolve
    obtain ⟨value, hvalue, rfl⟩ := map_eq_ok hresolve
    exact hvalue
  refine turn_look_bind ((turn_invoke hs).outcome_bind ?_)
  rintro outcome c' _ ⟨rfl, hended, refused, rfl, hnone⟩ t rest ht
  let made : Dispatch := ⟨id, agent, operation, fields, key, c', store, payload.value, s.world, outcome⟩
  refine turn_done rfl ht ⟨rfl, {⟨s.world.calls.length, outcome⟩}, ⟨{made}, ?_, ?_, le_of_eq (Multiset.map_singleton ..), ?_, ?_⟩, ?_,
    fun _ => nofun⟩
  · exact (zero_add _).trans (Multiset.map_singleton ..).symm
  · rw [Multiset.map_singleton]
    exact Multiset.le_add_right _ _
  · rintro d hd
    rw [Multiset.mem_singleton.1 hd]
    exact ⟨⟨hc, hpayload⟩, script, hscript, hended.symm⟩
  · exact (Multiset.map_singleton ..).trans (zero_add _).symm
  · rintro asked ⟨⟩
    refine ⟨rfl, fun v hv => ?_⟩
    rw [hnone v hv]
    rfl

/-- However a call has ended, what it owes is paid when its answer is taken up. -/
theorem turn_takeUp {answer : CallEnd} (hs : traffic.Holds m rest s) (posted : Posted env own input budget {answer} m) :
    Turn traffic (fun out c' m' => c' = c ∧ out = answer.outcome ∧ Posted env own input budget 0 m' ∧ m'.2.2.1 = m.2.2.1)
      rest (onWorld (World.takeUp answer)) c s := by
  let t : Stage := { s with world := { s.world with answers := s.world.answers ++ [answer] } }
  have hdone : onWorld (World.takeUp answer) c s = (.done (answer.outcome, c), t) := by
    rw [onWorld_apply, World.takeUp_apply]
  have ht : traffic.Holds (m + (0, 0, 0, {answer})) rest t := by
    refine holds_added hs (Prod.ext (add_zero _).symm (Prod.ext (add_zero _).symm (Prod.ext (add_zero _).symm ?_)))
    show (t.world.answers : Multiset CallEnd) = s.world.answers + {answer}
    rw [← Multiset.coe_singleton, Multiset.coe_add]
  refine turn_done hdone ht ⟨rfl, rfl, ?_, add_zero _⟩
  obtain ⟨made, hcalls, hstarts, hsteps, hfit, hends⟩ := posted
  exact ⟨made, (add_zero m.1).trans hcalls, hstarts.trans (add_zero m.2.1).ge, hsteps, hfit, hends.trans (add_zero _).symm⟩

theorem turn_settle (account : Account) (id key : String) (payload : Output) {answer : CallEnd} (hc : c.input = input)
    (hs : traffic.Holds m rest s) (posted : Posted env own input budget {answer} m)
    (hquiet : ∀ v, answer.outcome = .ok v → m.2.2.1 = 0) :
    Turn traffic (Sent env own input budget) rest (settle env account id key payload answer) c s := by
  refine turn_wait_bind hs fun t rest' ht => (turn_takeUp ht posted).bind ?_ ?_
  · rintro ⟨envelope, echoed⟩ c' m' ⟨rfl, hout, posted', hsame⟩ t rest ht
    have hsends : Sends env own input 0 (do
        let response ← Failure.ofExcept (.malformed "AgentResponse") (Response.read envelope).toExcept
        charge account response.usage.cost
        let output : Output := ⟨response.data, if echoed then payload.tables else []⟩
        record id output (some key)
        return output : Flow Output) := inferInstance
    refine (hsends.beside hc ht).mono ?_
    rintro out c'' _ ⟨m₁, rfl, sent⟩
    refine ⟨sent.kept, ?_, fun v hv => ?_⟩
    · have hall := sent.posted.add posted'
      rwa [zero_add, zero_add] at hall
    · show m₁.2.2.1 + m'.2.2.1 = 0
      rw [sent.quiet v hv, hsame, hquiet _ hout.symm, add_zero]
  · rintro e c' m' ⟨rfl, -, posted', -⟩
    exact ⟨hc, posted', fun _ => nofun⟩

theorem delivers_callAgent (account : Account) (id agent operation : String) (fields : Members) (key : Option String)
    (name : String) (hc : c.input = input) :
    Delivers env own input {.agent id agent operation fields key} id c
      (callAgent env account id agent operation fields name) := by
  intro store s rest hs
  refine (turn_call account id agent operation fields key hc hs).bind ?_ ?_
  · rintro ⟨payload, answer⟩ c' m ⟨rfl, pending, posted, hasked, -⟩ t rest' ht
    obtain ⟨rfl, hquiet⟩ := hasked _ rfl
    exact turn_settle account id name payload hc ht posted hquiet
  · rintro e c' m ⟨rfl, pending, posted, -, hnone⟩
    rw [hnone e rfl] at posted
    exact ⟨hc, posted, fun _ => nofun⟩

/-! Steps -/

theorem turn_noteStart_bind {α : Type} {goal : Except Failure α → Context → Traffic → Prop} {step : String}
    {g : Unit → Flow α} (hs : traffic.Holds m rest s)
    (hg : ∀ t, traffic.Holds (m + (0, {.started own step c s.world.store}, 0, 0)) rest t →
      Turn traffic goal rest (g ⟨⟩) c t) : Turn traffic goal rest (noteStart own step >>= g) c s :=
  hg _ (holds_note _ hs)

theorem sends_attempt (account : Account) (id : String) {body : Flow Output}
    (h : ∀ c, c.input = input → Delivers env own input budget id c body) :
    Sends env own input budget (attempt env own account id body) := by
  refine ⟨fun c hc s rest hs => ?_⟩
  have hfail {m : Traffic} {e : Failure} (hm : m.1 = 0) (ha : m.2.2.2 = 0) :
      Sent env own input budget (.error e : Except Failure StepResult) c m := ⟨hc, posted_of_none hm ha, fun _ => nofun⟩
  refine Mute.before hs (fun _ s rest hs => ?_) fun e refused => hfail rfl rfl
  refine Mute.before hs (fun r s rest hs => ?_) fun e refused => hfail rfl rfl
  refine turn_noteStart_bind hs fun t ht => ?_
  rw [zero_add] at ht
  refine Mute.before ht (fun _ t rest ht => ?_) fun e refused => hfail rfl rfl
  refine Mute.before ht (fun now t rest ht => ?_) fun e refused => hfail rfl rfl
  refine Mute.before ht (fun _ t rest ht => ?_) fun e refused => hfail rfl rfl
  refine Mute.before ht (fun before t rest ht => ?_) fun e refused => hfail rfl rfl
  refine (h c hc s.world.store t rest ht).outcome_bind ?_
  rintro (f | output) c m sent t rest ht
  · rw [conclude]
    split_ifs
    · exact turn_done rfl ht sent.error
    -- the failure of the body is thrown again, whether its record could be finished or not
    have hthrow {m : Traffic} {e : Failure} (refused : Multiset Failure) (hm : Posted env own input budget 0 m) :
        Sent env own input budget (.error e : Except Failure StepResult) c (m + (0, 0, refused, 0)) :=
      ⟨sent.kept, hm.add_none rfl rfl, fun _ => nofun⟩
    refine Mute.before ht (fun total t rest ht => ?_) fun e refused => hthrow refused sent.posted
    refine Mute.before ht (fun _ t rest ht => ?_) fun e refused => hthrow refused sent.posted
    exact turn_done rfl ht sent.error
  · refine (Mute.turn c m rest t ht).mono ?_
    rintro out c' _ ⟨rfl, refused, rfl, hnone⟩
    refine ⟨sent.kept, sent.posted.add_none rfl rfl, fun v hv => ?_⟩
    show m.2.2.1 + refused = 0
    rw [sent.quiet output rfl, hnone v hv, add_zero]

theorem sends_recorded (account : Account) (id : String) {body : Flow Output}
    (h : ∀ c, c.input = input → Delivers env own input budget id c body) :
    Sends env own input budget (recorded env own account id body) := by
  have hattempt : Sends env own input budget (attempt env own account id body) := sends_attempt account id h
  refine ⟨fun c hc s rest hs => (hattempt.turn c hc s rest hs).handling (fun _ _ _ sent => sent)
    (fun _ _ _ _ sent => sent) ?_⟩
  intro e c m _ sent t rest ht
  exact turn_done rfl (holds_note (.failed own id e) ht) ⟨sent.kept, sent.posted.add_none rfl rfl, fun _ => nofun⟩

theorem sends_settled (account : Account) (id : String) {body : Flow Output}
    (h : ∀ c, ∃ out c', Settles body c out c' ∧ c'.input = c.input) :
    Sends env own input budget (recorded env own account id body) :=
  sends_recorded account id fun _ => delivers_of_sends ((sends_settles h).mono (Multiset.zero_le _))

/-- What branches come to that have nothing when they begin. -/
def Dispatched (env : Setting) (own : String) (input : Json) (budget : Multiset Step) (ends : List BranchEnd) (m : Traffic) : Prop :=
  Posted env own input budget 0 m ∧ ((∀ b ∈ ends, ∃ result, b.outcome = .ok result) → m.2.2.1 = 0)

theorem owns_dispatched {fork : Context} {step : Step} {action : Flow StepResult}
    (h : Sends env own input budget action) (hfork : fork.input = input) :
    Round.Owns traffic (fun b m => Dispatched env own input budget [b] m) (.go (onFork fork step action)) 0 := by
  refine Round.owns_go.2 fun s rest hs => ?_
  refine Round.OwnsTurn.bind (h.turn fork hfork s rest hs) (fun out m sent t rest' ht => ?_) fun _ _ => trivial
  refine Round.ownsTurn_iff.2 fun _ => ⟨m, ht, Round.owns_done.2 ⟨sent.posted, fun hok => ?_⟩⟩
  obtain ⟨result, hresult⟩ := hok _ (List.mem_singleton_self _)
  exact sent.quiet result hresult

mutual

/-- Whatever happens, a step makes calls for agent steps among itself and those that it holds alone, and at most one
for each of them. -/
theorem sends_step (account : Account) (step : Step) :
    Sends env own input step.flat (Run.step env own account step) := by
  cases step with
  | agent id agent operation fields key =>
    rw [Run.step]
    exact sends_recorded account id fun c hc => delivers_callAgent account id agent operation fields key _ hc
  | condition id test whenTrue whenFalse =>
    have htrue := sends_sequence account [] whenTrue
    have hfalse := sends_sequence account [] whenFalse
    rw [Run.step, Step.flat]
    refine sends_recorded account id fun c hc => delivers_of_sends ?_ hc
    refine Sends.after fun v => Sends.after fun holds => ?_
    split
    · refine Sends.mono (Sends.after fun _ => htrue.before) (Multiset.coe_le.2 ?_)
      exact ((List.sublist_append_left _ _).cons _).subperm
    · refine Sends.mono (Sends.after fun _ => hfalse.before) (Multiset.coe_le.2 ?_)
      exact ((List.sublist_append_right _ _).cons _).subperm
  | parallel id steps =>
    rw [Run.step, Step.flat]
    refine sends_recorded account id fun c hc => delivers_of_sends (Sends.after fun first => ?_) hc
    refine ⟨fun c hc s rest hs => ?_⟩
    have howns : Round.Owns traffic (Dispatched env own input (Step.flatAll steps)) (Round.all
        ((branches env own c.fork account first steps).map Round.go)) 0 := owns_dispatched_branches account first steps hc
    show Turn traffic _ rest ((liftM (Process.all (branches env own c.fork account first steps)) :
      Flow (List BranchEnd)) >>= fun ends => joinAll id ends) c s
    have hall : Turn traffic (fun out c' m => ∃ ends, out = .ok ends ∧ c' = c ∧
        Dispatched env own input (Step.flatAll steps) ends m) rest
        (liftM (Process.all (branches env own c.fork account first steps))) c s :=
      turn_lift (Process.ownsTurn_all howns hs) fun ends m sent => ⟨ends, rfl, rfl, sent⟩
    refine hall.bind ?_ ?_
    · rintro ends c' m ⟨_, ⟨⟩, rfl, posted, hquiet⟩ t rest' ht
      obtain ⟨out, c'', hjoin, hkept, hall⟩ := settles_joining id ends c'
      refine turn_done (hjoin t) ht ⟨hkept.trans hc, posted.mono (Multiset.le_cons_self ..), ?_⟩
      exact fun output hout => hquiet (hall output hout)
    · rintro e c' m ⟨_, he, -⟩
      cases he
  | aggregate id sources how key =>
    rw [Run.step]
    exact sends_settled account id fun c => ⟨_, _, settles_aggregate id sources how _, input_published ..⟩
  | transform id fields key =>
    rw [Run.step]
    exact sends_settled account id fun c => ⟨_, _, settles_transform id fields _, input_published ..⟩
  | validate id rules =>
    rw [Run.step]
    exact sends_settled account id fun c => ⟨_, _, settles_validate id rules, rfl⟩

theorem sends_sequence (account : Account) (outputs : Assoc Output) (steps : List Step) :
    Sends env own input (Step.flatAll steps) (sequence env own account outputs steps) := by
  cases steps with
  | nil =>
    rw [sequence]
    exact inferInstanceAs (Sends env own input 0 (pure outputs : Flow (Assoc Output)))
  | cons first rest =>
    rw [sequence, Step.flatAll, ← Multiset.coe_add]
    exact (sends_step account first).bind fun result => sends_sequence account _ rest

theorem owns_dispatched_branches {fork : Context} (account : Account) (n : Nat) (steps : List Step) (hfork : fork.input = input) :
    Round.Owns traffic (Dispatched env own input (Step.flatAll steps))
      (Round.all ((branches env own fork account n steps).map Round.go)) 0 := by
  cases steps with
  | nil =>
    rw [branches]
    exact Round.owns_done.2 ⟨posted_of_none rfl rfl, fun _ => rfl⟩
  | cons first rest =>
    rw [branches, Step.flatAll, ← Multiset.coe_add]
    have hfirst : Round.Owns traffic _ (.go (onFork fork first (Run.step env own (n :: account) first))) 0 :=
      owns_dispatched (sends_step (n :: account) first) hfork
    have hrest := owns_dispatched_branches account (n + 1) rest hfork
    have hboth := hfirst.both hrest (Round.safe_free _) (Round.safe_free _)
    rw [add_zero] at hboth
    refine Round.Owns.map (hboth.mono ?_)
    rintro ⟨b, ends⟩ _ ⟨m₁, m₂, rfl, ⟨posted, hquiet⟩, posted', hquiet'⟩
    refine ⟨posted.add posted', fun hok => ?_⟩
    show m₁.2.2.1 + m₂.2.2.1 = 0
    rw [hquiet fun b' hb => hok b' (by simp_all), hquiet' fun b' hb => hok b' (List.mem_cons_of_mem _ hb), add_zero]

end

instance (steps : List Step) : Sends env own input (Step.flatAll steps) (Engine.runSteps env own steps) := by
  induction steps with
  | nil => exact inferInstanceAs (Sends env own input 0 (pure ⟨⟩ : Flow Unit))
  | cons step rest ih =>
    have hstep : Sends env own input step.flat (Run.step env own [] step) := sends_step [] step
    rw [Engine.runSteps]
    refine Sends.after fun current => ?_
    split
    · exact Sends.mono inferInstance (Multiset.zero_le _)
    · rw [Step.flatAll, ← Multiset.coe_add]
      exact hstep.discard.bind fun _ => ih

end Run

end Conductor
