import Conductor.Proofs.Process.Course
import Conductor.Proofs.Run.Bill
import Conductor.Proofs.Run.Bodies

/-! The course that each step of a run takes. Where agents answer to nothing but their payloads, the calls that a step
makes in each of its turns, what it writes and how it ends hang on the context alone in which it is started. -/

namespace Conductor

/-- Agents whose answers hang on nothing but the payload, and that cancel no run. -/
def Setting.Steady (env : Setting) : Prop :=
  ∀ agent operation script, env.agents.get agent operation = .ok script → ∀ payload, ∃ outcome echoes, ∀ n,
    (script n payload).cancels = none ∧ (script n payload).outcome = outcome ∧ (script n payload).echoes = echoes

/-- Pauses that hang on nothing but the step and the moment. -/
def Setting.Even (env : Setting) : Prop :=
  ∀ turns account step moment, env.pauses turns account step moment = env.pauses 0 [] step moment

/-- How a call ends, unless it ends with an exit. -/
def Outcome.result (outcome : Outcome) (echoes : Bool) : Except Failure (Json × Bool) :=
  match outcome with
  | .fails e => .error (.raised e.message)
  | .replies envelope => .ok (envelope, echoes)

theorem Outcome.stays_result {outcome : Outcome} {echoes : Bool} {f : Failure} (h : outcome.result echoes = .error f) :
    f.isExit = false := by
  cases outcome <;> cases h
  rfl

namespace World

open Act

variable {α : Type} {env : Setting} {w : World}

theorem ok_of_reporting {action : Act World α} [hg : Act.Grows action]
    (hcalm : (reporting action w).2.refusals = w.refusals) : ∃ v, (reporting action w).1 = .ok v := by
  have hlater := hg.later w
  unfold reporting at hcalm ⊢
  rw [tryCatch_apply] at hcalm ⊢
  rcases hout : action w with ⟨f | v, t⟩
  · rw [hout] at hcalm hlater
    have hcons : f :: t.refusals = w.refusals := hcalm
    exact absurd (hcons ▸ hlater.refusals.length_le) (by simp)
  · exact ⟨v, rfl⟩

theorem invoke_result {agent operation : String} {script : Script} {payload : Json} {outcome : Outcome} {echoes : Bool}
    (h : ∀ n, (script n payload).cancels = none ∧ (script n payload).outcome = outcome ∧
      (script n payload).echoes = echoes)
    (hcalm : (invoke env agent operation script payload w).2.refusals.length ≤ w.refusals.length) :
    (invoke env agent operation script payload w).1 = outcome.result echoes := by
  have hcandid : Candid (invoke env agent operation script payload) := candid_invoke agent operation script payload
  have hcandid := hcandid w
  obtain ⟨n, mid, hanswer⟩ : ∃ n mid, invoke env agent operation script payload w = answer env (script n payload) mid := by
    rw [invoke_eq, bind_apply, show arrive env w = (.ok ⟨⟩, (arrive env w).2) from Prod.ext (arrive_ok env w) rfl]
    exact ⟨_, _, rfl⟩
  rw [hanswer] at hcalm hcandid ⊢
  obtain ⟨hcancels, houtcome, hechoes⟩ := h n
  unfold answer at hcalm hcandid ⊢
  rw [hcancels, houtcome, hechoes] at hcalm hcandid ⊢
  cases outcome with
  | replies envelope => rfl
  | fails e =>
    obtain ⟨message, exit⟩ := e
    cases exit with
    | false => rfl
    | true => exact absurd (hcandid (.raised ⟨message, true⟩) rfl rfl) (Nat.not_lt.2 hcalm)

end World

/-- What the work on a run has to do with agents: it makes a call, or takes up how one has ended. -/
inductive Dealing where
  | asks (call : Call)
  | takes (outcome : Except Failure (Json × Bool))

namespace Dealing

def call? : Dealing → Option Call
  | asks call => some call
  | takes _ => none

def cost? : Dealing → Option Float
  | asks _ => none
  | takes outcome => costOf outcome

end Dealing

/-- The calls among some dealings. -/
def callsOf (dealings : List Dealing) : List Call := dealings.filterMap Dealing.call?

/-- What some dealings cost, in their order. -/
def costsOf (dealings : List Dealing) : List Float := dealings.filterMap Dealing.cost?

namespace Ledger

variable {account other : Account} {dealings more : List Dealing} {l l' l'' : Ledger}

/-- A ledger in which an account, and each above it, has been charged for some dealings. What stands below the account may
be charged as well; all others are not. -/
structure Pays (account : Account) (dealings : List Dealing) (l l' : Ledger) : Prop where
  isOpen : ∀ {other}, l.isOpen other = true → l'.isOpen other = true
  total : ∀ {other}, l.isOpen other = true → other <:+ account → l'.total other = sum (costsOf dealings) (l.total other)
  apart : ∀ {other}, l.isOpen other = true → ¬ other <:+ account → ¬ account <:+ other → l'.total other = l.total other

theorem Pays.refl (account : Account) (l : Ledger) : l.Pays account [] l := ⟨id, fun _ _ => rfl, fun _ _ _ => rfl⟩

theorem Pays.trans (h : l.Pays account dealings l') (h' : l'.Pays account more l'') :
    l.Pays account (dealings ++ more) l'' where
  isOpen ho := h'.isOpen (h.isOpen ho)
  total ho hs := by rw [h'.total (h.isOpen ho) hs, h.total ho hs, costsOf, costsOf, costsOf, List.filterMap_append,
    sum_append]
  apart ho hs hb := (h'.apart (h.isOpen ho) hs hb).trans (h.apart ho hs hb)

/-- What an account pays for, those above it pay for as well. -/
theorem Pays.above {n : Nat} (h : l.Pays (n :: account) dealings l') : l.Pays account dealings l' where
  isOpen := h.isOpen
  total ho hs := h.total ho (hs.trans (List.suffix_cons n account))
  apart ho hs hb := by
    refine h.apart ho (fun hn => ?_) fun hn => hb ((List.suffix_cons n account).trans hn)
    rcases List.suffix_cons_iff.1 hn with rfl | hn
    · exact hb (List.suffix_cons n account)
    · exact hs hn

/-- Accounts beside each other do not pay for each other. -/
theorem Pays.beside {n m : Nat} (h : l.Pays (n :: account) dealings l') (hm : m ≠ n)
    (ho : l.isOpen (m :: account) = true) : l'.total (m :: account) = l.total (m :: account) := by
  refine h.apart ho (fun hs => ?_) fun hs => ?_
  · exact hm (List.cons.inj (hs.eq_of_length rfl)).1
  · exact hm (List.cons.inj (hs.eq_of_length rfl)).1.symm

theorem pays_settle (outcome : Except Failure (Json × Bool)) (l : Ledger) :
    l.Pays account [.takes outcome] (l.settle account outcome) := by
  unfold Ledger.settle
  cases hcost : costOf outcome with
  | none => exact ⟨id, fun _ _ => by simp [costsOf, Dealing.cost?, hcost, sum], fun _ _ _ => rfl⟩
  | some cost =>
    refine ⟨fun ho => by rwa [isOpen_charge], fun ho hs => ?_, fun ho hs _ => ?_⟩
    · rw [total_charge cost ho, if_pos hs]
      simp [costsOf, Dealing.cost?, hcost, sum]
    · rw [total_charge cost ho, if_neg hs]

theorem pays_asks (call : Call) (l : Ledger) : l.Pays account [.asks call] l := ⟨id, fun _ _ => rfl, fun _ _ _ => rfl⟩

theorem pays_forks (below : Account) (count : Nat) (l : Ledger) :
    l.Pays account [] ((List.range count).foldl (fun ledger _ => ledger.fork below) l) := by
  refine List.foldlRecOn (List.range count) _ (Pays.refl account l) fun l' h _ _ => ?_
  have hfork : l'.Pays account [] (l'.fork below) :=
    ⟨fun ho => (isOpen_fork below _).2 (.inl ho), fun ho _ => total_fork below ho, fun ho _ _ => total_fork below ho⟩
  exact h.trans hfork

end Ledger

theorem Stage.Later.failed_le (failed : Nat) {a b : Stage} (h : a.Later b) (hb : b.world.refusals.length ≤ failed) :
    a.world.refusals.length ≤ failed :=
  h.world.refusals.length_le.trans hb

/-- What turns add to a log, while no more requests have failed than at first. They are strict when pauses are even. -/
def chronicle {A : Type} (env : Setting) (failed : Nat) (adds : List A → Stage → Stage → Prop)
    (hnil : ∀ s, adds [] s s) (happend : ∀ {new more a b c}, adds new a b → adds more b c → adds (new ++ more) a c) :
    Chronicle Stage A where
  drift := drift
  drifts _ _ := trivial
  calm s := s.world.refusals.length ≤ failed
  calm_of_drift := @Stage.Later.failed_le failed
  strict := env.Even
  fit s := failed ≤ s.world.refusals.length
  adds := adds
  adds_nil := hnil
  adds_append := happend

/-- The turns in which a branch waits, as long as it does at first. -/
def Setting.resting (env : Setting) (step : String) (moment : Moment) : Course Dealing :=
  ⟨[], List.replicate (env.pauses 0 [] step moment) []⟩

theorem Setting.alike_resting (env : Setting) (turns : Nat) (account : Account) (step : String) (moment : Moment) :
    Course.Alike env.Even (⟨[], List.replicate (env.pauses turns account step moment) []⟩ : Course Dealing).turns
      (env.resting step moment).turns where
  perm := by simp [Setting.resting, Course.turns]
  same heven := by rw [heven turns account step moment, Setting.resting]

/-- A stage after some dealings, for which an account pays. -/
structure Stage.Pays (account : Account) (dealings : List Dealing) (s t : Stage) : Prop where
  calls : t.world.calls = s.world.calls ++ callsOf dealings
  ledger : s.ledger.Pays account dealings t.ledger

theorem Stage.Pays.refl (account : Account) (s : Stage) : s.Pays account [] s :=
  ⟨(List.append_nil _).symm, .refl account s.ledger⟩

theorem Stage.Pays.trans {account : Account} {dealings more : List Dealing} {s t u : Stage}
    (h : s.Pays account dealings t) (h' : t.Pays account more u) : s.Pays account (dealings ++ more) u where
  calls := by rw [h'.calls, h.calls, callsOf, callsOf, callsOf, List.filterMap_append, List.append_assoc]
  ledger := h.ledger.trans h'.ledger

/-- What is done for an account. -/
def dealLog (env : Setting) (account : Account) (failed : Nat) : Chronicle Stage Dealing :=
  chronicle env failed (Stage.Pays account) (.refl account) .trans

namespace Flow

open Round

variable {α β : Type}

/-- Work that takes a course and ends as it is meant to. -/
def Pursues (K : Chronicle Stage Dealing) (aim : Except Failure α → Context → Prop) (f : Flow α) (c : Context)
    (k : Course Dealing) : Prop :=
  ∀ s, K.Opens s → PursuesTurn K (fun out => aim out.1 out.2) k s (f c s)

variable {env : Setting} {account : Account} {failed : Nat} {aim aim' : Except Failure α → Context → Prop}
  {goal : Except Failure β → Context → Prop} {c : Context} {k k' : Course Dealing}

theorem Pursues.mono {f : Flow α} (h : Pursues (dealLog env account failed) aim f c k)
    (ha : ∀ out c', aim out c' → aim' out c') : Pursues (dealLog env account failed) aim' f c k :=
  fun s hs => (h s hs).mono fun _ => ha _ _

theorem pursues_out {out : Except Failure α} (h : aim out c) :
    Pursues (dealLog env account failed) aim (fun c s => (.done (out, c), s)) c {} :=
  fun _ hs => pursuesTurn_done hs h

theorem pursues_settles {f : Flow α} {out : Except Failure α} {c' : Context} (h : Settles f c out c') :
    Pursues (dealLog env account failed) (fun o c'' => o = out ∧ c'' = c') f c {} := by
  intro s hs
  rw [h s]
  exact pursuesTurn_done hs ⟨rfl, rfl⟩

theorem Pursues.bind {p : α → Context → Prop} {f : Flow α} {g : α → Flow β} [∀ v, Grows (g v)]
    (h : Pursues (dealLog env account failed) (fun out c' => ∃ v, out = .ok v ∧ p v c') f c k)
    (hg : ∀ v c', p v c' → Pursues (dealLog env account failed) goal (g v) c' k') :
    Pursues (dealLog env account failed) goal (f >>= g) c (k ++ k') := by
  intro s hs
  rw [bind_apply]
  refine (h s hs).bind (fun out ho t ht => ?_) fun out t => ?_
  · obtain ⟨out, c'⟩ := out
    obtain ⟨v, rfl, hv⟩ := ho
    exact hg v c' hv t ht
  · obtain ⟨e | v, c'⟩ := out
    · exact drift.guar_refl t
    · exact Grows.turn (g v) c' t

theorem Pursues.fail {p : Failure → Context → Prop} {f : Flow α} {g : α → Flow β} [∀ v, Grows (g v)]
    (h : Pursues (dealLog env account failed) (fun out c' => ∃ e, out = .error e ∧ p e c') f c k)
    (hg : ∀ e c', p e c' → goal (.error e) c') : Pursues (dealLog env account failed) goal (f >>= g) c k := by
  intro s hs
  rw [bind_apply, ← Course.append_nil k]
  refine (h s hs).bind (fun out ho t ht => ?_) fun out t => ?_
  · obtain ⟨out, c'⟩ := out
    obtain ⟨e, rfl, he⟩ := ho
    exact pursuesTurn_done ht (hg e c' he)
  · obtain ⟨e | v, c'⟩ := out
    · exact drift.guar_refl t
    · exact Grows.turn (g v) c' t

theorem Pursues.outcome {f : Flow α} (h : Pursues (dealLog env account failed) aim f c k) :
    Pursues (dealLog env account failed) (fun out c' => ∃ o, out = .ok o ∧ aim o c') (Failure.outcome f) c k := by
  intro s hs
  rw [outcome_apply, ← Course.append_nil k]
  refine (h s hs).bind (fun out ho t ht => ?_) fun out t => drift.guar_refl t
  exact pursuesTurn_done ht ⟨out.1, rfl, ho⟩

/-- A handler has nothing to let pass where work does not fail with an exit. -/
theorem Pursues.handling {f : Flow α} {handle : Failure → Flow α} [∀ e, Grows (handle e)]
    (h : Pursues (dealLog env account failed) aim f c k) (hv : ∀ v c', aim (.ok v) c' → aim' (.ok v) c')
    (hh : ∀ e c', aim (.error e) c' →
      e.isExit = false ∧ Pursues (dealLog env account failed) aim' (handle e) c' {}) :
    Pursues (dealLog env account failed) aim' (Failure.handling f handle) c k := by
  intro s hs
  rw [Failure.handling, tryCatch_apply, ← Course.append_nil k]
  refine (h s hs).bind (fun out ho t ht => ?_) fun out t => ?_
  · obtain ⟨e | v, c'⟩ := out
    · obtain ⟨hstays, hhandled⟩ := hh e c' ho
      dsimp only
      rw [if_neg (Bool.eq_false_iff.1 hstays)]
      exact hhandled t ht
    · exact pursuesTurn_done ht (hv v c' ho)
  · obtain ⟨e | v, c'⟩ := out
    · dsimp only
      exact Grows.turn (if e.isExit = true then throw e else handle e) c' t
    · exact drift.guar_refl t

theorem pursues_lift {p : Process Stage α} {ends : α → Prop}
    (h : ∀ s, (dealLog env account failed).Opens s → PursuesTurn (dealLog env account failed) ends k s (p s)) :
    Pursues (dealLog env account failed) (fun out c' => ∃ v, out = .ok v ∧ ends v ∧ c' = c) (liftM p) c k := by
  intro s hs
  have hstate : PursuesTurn (dealLog env account failed) (fun out : α × Context => ends out.1 ∧ out.2 = c)
      (k ++ ({} : Course _)) s ((StateT.lift p : StateT Context (Process Stage) α) c s) :=
    (h s hs).bind (fun v hv t ht => pursuesTurn_done ht ⟨hv, rfl⟩) fun v t => drift.guar_refl t
  rw [← Course.append_nil k, ← Course.append_nil (k ++ _)]
  refine hstate.bind (fun out ho t ht => ?_) fun out t => drift.guar_refl t
  exact pursuesTurn_done ht ⟨out.1, rfl, ho.1, ho.2⟩

/-! Work that makes no calls, whose value may hang on the state -/

/-- Gives some value, and stays in its context. -/
def Stays (c : Context) (out : Except Failure α) (c' : Context) : Prop := ∃ v, out = .ok v ∧ c' = c

theorem Pursues.after {f : Flow α} {g : α → Flow β} [∀ v, Grows (g v)]
    (h : Pursues (dealLog env account failed) (Stays c) f c {})
    (hg : ∀ v, Pursues (dealLog env account failed) goal (g v) c k) :
    Pursues (dealLog env account failed) goal (f >>= g) c k := by
  refine Pursues.bind h fun v c' hc => ?_
  obtain rfl : c' = c := hc
  exact hg v

theorem pursues_onLedger {action : Act Stage α} (hw : ∀ s : Stage, (action s).2.world = s.world)
    (hok : ∀ s, ∃ v, (action s).1 = .ok v) (hpays : ∀ s : Stage, s.ledger.Pays account [] (action s).2.ledger) :
    Pursues (dealLog env account failed) (Stays c) (Run.onStage action) c {} := by
  intro s hs
  obtain ⟨v, hv⟩ := hok s
  refine Round.pursuesTurn_of fun _ => ⟨?_, ⟨?_, hpays s⟩, Round.pursues_done.2 ⟨.refl _, v, hv, rfl⟩⟩
  · show failed ≤ (action s).2.world.refusals.length
    rw [hw]
    exact hs.fit
  · show (action s).2.world.calls = _
    rw [hw]
    exact (List.append_nil _).symm

theorem pursues_onWorld {action : Act World α} [ha : Act.Idles action]
    (hok : ∀ w, (action w).2.refusals = w.refusals → ∃ v, (action w).1 = .ok v) :
    Pursues (dealLog env account failed) (Stays c) (Run.onWorld action) c {} := by
  intro s hs
  refine Round.pursuesTurn_of fun hcalm => ?_
  have hcalm' : (action s.world).2.refusals.length ≤ failed := hcalm
  have hidle := ha.within s.world
  -- as many requests have failed as before, and so the same ones
  have hsame := hidle.refusals.eq_of_length (Nat.le_antisymm hidle.refusals.length_le (hcalm'.trans hs.fit))
  obtain ⟨v, hv⟩ := hok s.world hsame.symm
  refine ⟨?_, ⟨?_, .refl account s.ledger⟩, Round.pursues_done.2 ⟨.refl _, v, hv, rfl⟩⟩
  · show failed ≤ (action s.world).2.refusals.length
    rw [← hsame]
    exact hs.fit
  · show (action s.world).2.calls = _
    rw [hidle.calls]
    exact (List.append_nil _).symm

/-- However long a branch waits, it does nothing meanwhile. -/
theorem pursues_wait (other : Account) (step : String) (moment : Moment) :
    Pursues (dealLog env account failed) (Stays c) (Run.wait env other step moment) c (env.resting step moment) := by
  refine Pursues.after (pursues_onWorld fun w _ => ⟨w.turns, rfl⟩) fun turns => ?_
  have hrest := pursues_lift (c := c) fun s hs =>
    (Process.pursuesTurn_rest (K := dealLog env account failed) (env.pauses turns other step moment) hs).alike
      (env.alike_resting turns other step moment)
  refine hrest.mono ?_
  rintro out c' ⟨v, hout, -, hc⟩
  exact ⟨v, hout, hc⟩

theorem pursues_wait_bind {other : Account} {step : String} {moment : Moment} {g : Unit → Flow β} [∀ v, Grows (g v)]
    (h : Pursues (dealLog env account failed) goal (g ⟨⟩) c k) :
    Pursues (dealLog env account failed) goal (Run.wait env other step moment >>= g) c
      (env.resting step moment ++ k) := by
  refine Pursues.bind (pursues_wait other step moment) fun v c' hc => ?_
  obtain rfl : c' = c := hc
  exact h

theorem pursues_discard {f : Flow α} (h : Pursues (dealLog env account failed) (Stays c) f c {}) :
    Pursues (dealLog env account failed) (Stays c) (discard f) c {} := by
  intro s hs
  rw [discard_apply, ← Course.append_nil ({} : Course Dealing)]
  refine (h s hs).bind (fun out ho t ht => ?_) fun out t => drift.guar_refl t
  obtain ⟨out, c'⟩ := out
  obtain ⟨v, rfl, hc⟩ := ho
  exact pursuesTurn_done ht ⟨⟨⟩, rfl, hc⟩

end Flow

end Conductor
