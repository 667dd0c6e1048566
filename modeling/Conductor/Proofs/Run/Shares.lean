import Conductor.Proofs.Run.Frame
import Conductor.Proofs.Run.Turn
import Conductor.Proofs.World.Shares

/-! What the work on a run makes of its share, with one rule for each way of putting such work together.
It can be told whatever goes on beside it, as long as no request fails. -/

namespace Conductor

/-- What the work on a run owns. Things are calm while no more requests have failed than at first. -/
def estate (execution : String) (failed : Nat) : Estate Stage Share where
  drift := drift
  drifts _ _ := trivial
  calm s := s.world.refusals.length ≤ failed
  fit s := Run.Under execution s.world ∧ failed ≤ s.world.refusals.length
  whole s := s.world.share
  calm_of_drift h hb := h.world.refusals.length_le.trans hb

namespace Flow

open Round

variable {α β : Type} {execution : String} {failed : Nat}

/-- Work that starts with a share and ends as it is meant to. -/
def Makes (execution : String) (failed : Nat) (aim : Except Failure α → Context → Share → Prop) (f : Flow α)
    (c : Context) (own : Share) : Prop :=
  ∀ s rest, (estate execution failed).Holds own rest s →
    OwnsTurn (estate execution failed) (fun out m => aim out.1 out.2 m) rest (f c s)

variable {aim aim' : Except Failure α → Context → Share → Prop}
  {goal : Except Failure β → Context → Share → Prop} {c : Context} {own : Share}

theorem makes_iff {f : Flow α} : Makes execution failed aim f c own ↔
    ∀ s rest, (estate execution failed).Holds own rest s → Turn (estate execution failed) aim rest f c s := Iff.rfl

instance (f : Flow α) [h : Grows f] : Follows (estate execution failed).drift f := h

theorem Makes.mono {f : Flow α} (h : Makes execution failed aim f c own)
    (ha : ∀ out c m, aim out c m → aim' out c m) : Makes execution failed aim' f c own :=
  fun s rest hs => (makes_iff.1 h s rest hs).mono ha

theorem makes_done {out : Except Failure α} (h : aim out c own) :
    Makes execution failed aim (fun c s => (.done (out, c), s)) c own :=
  fun _ _ hs => ownsTurn_iff.2 fun _ => ⟨own, hs, owns_done.2 h⟩

theorem makes_pure {v : α} (h : aim (.ok v) c own) : Makes execution failed aim (pure v) c own := makes_done h

theorem makes_throw {f : Failure} (h : aim (.error f) c own) : Makes execution failed aim (throw f) c own :=
  makes_done h

theorem makes_ofExcept {ε : Type} {cause : ε → Failure} {result : Except ε α}
    (h : aim (result.mapError cause) c own) : Makes execution failed aim (Failure.ofExcept cause result) c own := by
  cases result <;> exact makes_done h

theorem makes_get {aim : Except Failure Context → Context → Share → Prop} (h : aim (.ok c) c own) :
    Makes execution failed aim get c own := makes_done h

theorem Makes.bind {f : Flow α} {g : α → Flow β} [∀ v, Grows (g v)] (h : Makes execution failed aim f c own)
    (hg : ∀ v c m, aim (.ok v) c m → Makes execution failed goal (g v) c m)
    (he : ∀ e c m, aim (.error e) c m → goal (.error e) c m) : Makes execution failed goal (f >>= g) c own :=
  fun s rest hs => (makes_iff.1 h s rest hs).bind (fun v c m ha => makes_iff.1 (hg v c m ha)) he

theorem Makes.discard {f : Flow α} {goal : Except Failure PUnit → Context → Share → Prop}
    (h : Makes execution failed (fun out => goal (out.map fun _ => ⟨⟩)) f c own) :
    Makes execution failed goal (discard f) c own := fun s rest hs => (makes_iff.1 h s rest hs).discard

theorem Makes.handling {f : Flow α} {handle : Failure → Flow α} [∀ e, Grows (handle e)]
    (h : Makes execution failed aim f c own) (hv : ∀ v c m, aim (.ok v) c m → aim' (.ok v) c m)
    (hexit : ∀ e c m, e.isExit = true → aim (.error e) c m → aim' (.error e) c m)
    (hh : ∀ e c m, e.isExit = false → aim (.error e) c m → Makes execution failed aim' (handle e) c m) :
    Makes execution failed aim' (Failure.handling f handle) c own :=
  fun s rest hs => (makes_iff.1 h s rest hs).handling hv hexit fun e c m hin ha => makes_iff.1 (hh e c m hin ha)

theorem makes_wait_bind {env : Setting} {account : Account} {step : String} {moment : Moment} {g : Unit → Flow β}
    [∀ v, Grows (g v)] (h : Makes execution failed goal (g ⟨⟩) c own) :
    Makes execution failed goal (Run.wait env account step moment >>= g) c own :=
  fun _ _ hs => turn_wait_bind hs (makes_iff.1 h)

theorem makes_lift {p : Process Stage α} {ends : α → Share → Prop}
    (h : ∀ s rest, (estate execution failed).Holds own rest s → OwnsTurn (estate execution failed) ends rest (p s))
    (ha : ∀ v m, ends v m → aim (.ok v) c m) : Makes execution failed aim (liftM p) c own :=
  fun s rest hs => turn_lift (h s rest hs) ha

theorem Makes.frame {f : Flow α} (h : Makes execution failed aim f c own) (more : Share) :
    Makes execution failed (fun out c m => ∃ m', m = m' + more ∧ aim out c m') f c (own + more) :=
  fun s rest hs => (makes_iff.1 h s (more + rest) ⟨hs.calm, hs.fit, by rw [hs.whole, add_assoc]⟩).frame

/-- What follows starts from what has been made, however that ended. -/
theorem Makes.outcome_bind {f : Flow α} {g : Except Failure α → Flow β} [∀ out, Grows (g out)]
    (h : Makes execution failed aim f c 0)
    (hg : ∀ out c m, aim out c m → Makes execution failed goal (g out) c (m + own)) :
    Makes execution failed goal (Failure.outcome f >>= g) c own := by
  have hframe := h.frame own
  rw [zero_add] at hframe
  intro s rest hs
  refine (makes_iff.1 hframe s rest hs).outcome_bind ?_
  rintro out c' _ ⟨m, rfl, ha⟩
  exact makes_iff.1 (hg out c' m ha)

/-- What follows starts with nothing of its own beside what has been made. -/
theorem Makes.andThen {f : Flow α} {g : α → Flow β} [∀ v, Grows (g v)] (h : Makes execution failed aim f c own)
    (hg : ∀ v c m, aim (.ok v) c m → Makes execution failed (fun out c' m' => goal out c' (m + m')) (g v) c 0)
    (he : ∀ e c m, aim (.error e) c m → goal (.error e) c m) : Makes execution failed goal (f >>= g) c own := by
  refine h.bind (fun v c m hv => ?_) he
  rw [← zero_add m]
  refine ((hg v c m hv).frame m).mono ?_
  rintro out c' _ ⟨m', rfl, h⟩
  rwa [add_comm m' m]

/-! Work that gives a value and stays in its context, and what follows it -/

def Gives (c : Context) (p : α → Share → Prop) (out : Except Failure α) (c' : Context) (m : Share) : Prop :=
  c' = c ∧ ∃ v, out = .ok v ∧ p v m

theorem Makes.after {p : α → Share → Prop} {f : Flow α} {g : α → Flow β} [∀ v, Grows (g v)]
    (h : Makes execution failed (Gives c p) f c own)
    (hg : ∀ v m, p v m → Makes execution failed goal (g v) c m) : Makes execution failed goal (f >>= g) c own := by
  refine h.bind ?_ ?_
  · rintro v c' m ⟨rfl, v', hv, hp⟩
    cases hv
    exact hg v m hp
  · rintro e c' m ⟨-, v, hv, -⟩
    cases hv

theorem gives_get : Makes execution failed (Gives c fun v m => v = c ∧ m = own) get c own :=
  makes_get ⟨rfl, c, rfl, rfl, rfl⟩

theorem gives_view : Makes execution failed (Gives c fun v m => v = c.view ∧ m = own) Run.view c own := by
  refine gives_get.after ?_
  rintro v m ⟨rfl, rfl⟩
  exact makes_pure ⟨rfl, v.view, rfl, rfl, rfl⟩

theorem gives_onLedger {action : Act Stage α} (hw : ∀ s, (action s).2.world = s.world)
    (hok : ∀ s, ∃ v, (action s).1 = .ok v) :
    Makes execution failed (Gives c fun _ m => m = own) (Run.onStage action) c own := by
  intro s rest hs
  obtain ⟨v, hv⟩ := hok s
  refine ownsTurn_iff.2 fun _ => ⟨own, ⟨?_, ?_, ?_⟩, owns_done.2 ⟨rfl, v, hv, rfl⟩⟩
  · show (action s).2.world.refusals.length ≤ failed
    rw [hw]
    exact hs.calm
  · show Run.Under execution (action s).2.world ∧ failed ≤ (action s).2.world.refusals.length
    rw [hw]
    exact hs.fit
  · show (action s).2.world.share = _
    rw [hw]
    exact hs.whole

theorem gives_spent (account : Account) :
    Makes execution failed (Gives c fun _ m => m = own) (Run.spent account) c own :=
  gives_onLedger (fun _ => rfl) fun _ => ⟨_, rfl⟩

theorem gives_charge (account : Account) (amount : Float) :
    Makes execution failed (Gives c fun _ m => m = own) (Run.charge account amount) c own :=
  gives_onLedger (fun _ => rfl) fun _ => ⟨_, rfl⟩

theorem gives_openAccounts (account : Account) (count : Nat) :
    Makes execution failed (Gives c fun _ m => m = own) (Run.openAccounts account count) c own :=
  gives_onLedger (fun _ => rfl) fun _ => ⟨_, rfl⟩

theorem makes_ofExcept_bind {ε : Type} {cause : ε → Failure} {result : Except ε α} {g : α → Flow β}
    [∀ v, Grows (g v)] (h : ∀ v, result = .ok v → Makes execution failed goal (g v) c own)
    (he : ∀ e, result = .error e → goal (.error (cause e)) c own) :
    Makes execution failed goal (Failure.ofExcept cause result >>= g) c own := by
  have hread : Makes execution failed (fun out c' m => out = result.mapError cause ∧ c' = c ∧ m = own)
      (Failure.ofExcept cause result) c own := makes_ofExcept ⟨rfl, rfl, rfl⟩
  refine hread.bind ?_ ?_
  · rintro v c' m ⟨hv, rfl, rfl⟩
    cases result with
    | error e => cases hv
    | ok v' =>
      cases hv
      exact h v rfl
  · rintro e c' m ⟨hv, rfl, rfl⟩
    cases result with
    | error e' =>
      cases hv
      exact he e' rfl
    | ok v' => cases hv

theorem makes_record_bind {step : String} {output : Output} {key : Option String} {g : Unit → Flow β}
    (h : Makes execution failed goal (g ⟨⟩) (c.record step output key) own) :
    Makes execution failed goal (Run.record step output key >>= g) c own := h

/-! Requests, notes and calls -/

section Requests

variable {env : Setting}

theorem makes_onWorld {action : Act World α} [ha : Act.Grows action]
    (h : ∀ w rest, Run.Under execution w → w.share = own + rest → (action w).2.refusals = w.refusals →
      Run.Under execution (action w).2 ∧ ∃ m, (action w).2.share = m + rest ∧ aim (action w).1 c m) :
    Makes execution failed aim (Run.onWorld action) c own := by
  intro s rest hs
  refine ownsTurn_iff.2 fun hcalm => ?_
  have hcalm' : (action s.world).2.refusals.length ≤ failed := hcalm
  -- as many requests have failed as before, and so the same ones
  have hsuffix := (ha.later s.world).refusals
  have hsame := hsuffix.eq_of_length (Nat.le_antisymm hsuffix.length_le (hcalm'.trans hs.fit.2))
  obtain ⟨hunder, m, hm, haim⟩ := h s.world rest hs.fit.1 hs.whole hsame.symm
  exact ⟨m, ⟨hcalm, ⟨hunder, hsame ▸ hs.fit.2⟩, hm⟩, owns_done.2 haim⟩

theorem under_of_works {scope : Scope} {a b : World} (h : World.Works scope a b) (ha : Run.Under execution a) :
    Run.Under execution b := Run.lasting_under scope execution a b h ha

theorem gives_now : Makes execution failed (Gives c fun _ m => m = own) (Run.onWorld World.now) c own :=
  makes_onWorld fun _ _ hu hw _ => ⟨hu, own, hw, rfl, _, rfl, rfl⟩

theorem gives_look (look : World → α) :
    Makes execution failed (Gives c fun _ m => m = own) (Run.onWorld do return look (← get)) c own :=
  makes_onWorld fun w _ hu hw _ => ⟨hu, own, hw, rfl, look w, rfl, rfl⟩

theorem gives_note (event : Event) :
    Makes execution failed (Gives c fun _ m => m = { events := {event} } + own) (Run.onWorld (World.note event))
      c own := by
  refine makes_onWorld fun w rest hu hw _ => ⟨?_, _, ?_, rfl, _, rfl, rfl⟩
  · exact under_of_works (@World.within_note .any _ trivial w) hu
  · rw [World.note_share, hw, add_assoc]

theorem gives_noteStart (step : String) :
    Makes execution failed
      (Gives c fun _ m => ∃ store, m = { events := {.started execution step c store} } + own)
      (Run.noteStart execution step) c own := by
  refine gives_get.after ?_
  rintro v m ⟨rfl, rfl⟩
  refine makes_onWorld fun w rest hu hw _ => ⟨?_, _, ?_, rfl, _, rfl, w.store, rfl⟩
  · exact under_of_works (@World.within_note .any _ trivial w) hu
  · show (World.note _ w).2.share = _
    rw [World.note_share, hw, add_assoc]

theorem gives_createStep (step : String) :
    Makes execution failed
      (Gives c fun r m => r = { id := r.id, execution, step } ∧ m = { records := {r} } + own)
      (Run.onWorld (World.createStep env execution step)) c own := by
  refine makes_onWorld fun w rest hu hw hcalm => ?_
  obtain ⟨r, hout, hr, hshare⟩ := World.createStep_share hu.1 hcalm
  refine ⟨?_, { records := {r} } + own, ?_, rfl, r, hout, hr, rfl⟩
  · exact under_of_works (World.works_createStep Scope.le_any trivial hu.2) hu
  · rw [hshare, hw, add_assoc]

theorem gives_updateStep {r : StepRecord} {p : StepPatch} (hr : r.execution = execution) :
    Makes execution failed (Gives c fun _ m => ∃ r', p.Wrote r r' ∧ m = { records := {r'} } + own)
      (Run.onWorld (World.updateStep env r.id (.ok p))) c ({ records := {r} } + own) := by
  refine makes_onWorld fun w rest hu hw hcalm => ?_
  rw [add_assoc] at hw
  obtain ⟨v, r', hout, hwrote, hshare⟩ := World.updateStep_share hu.1 hw hcalm
  have hmem : r ∈ w.store.records := by
    have hrecords : (w.store.records : Multiset StepRecord) = {r} + (own + rest).records :=
      congrArg Share.records hw
    rw [← Multiset.mem_coe, hrecords]
    exact Multiset.mem_add.2 (.inl (Multiset.mem_singleton_self r))
  have hholds : w.Holds r.id execution r.step := ⟨r, hmem, rfl, hr, rfl⟩
  refine ⟨?_, { records := {r'} } + own, ?_, rfl, v, hout, r', hwrote, rfl⟩
  · exact under_of_works (World.works_updateStep Scope.le_any p trivial hholds) hu
  · rw [hshare, ← add_assoc]

theorem gives_discard {p : Share → Prop} {f : Flow α} (h : Makes execution failed (Gives c fun _ => p) f c own) :
    Makes execution failed (Gives c fun _ => p) (discard f) c own := by
  refine (h.mono ?_).discard
  rintro out c' m ⟨rfl, v, rfl, hp⟩
  exact ⟨rfl, ⟨⟩, rfl, hp⟩

theorem makes_invoke {agent operation : String} {script : Script} {payload : Json} :
    Makes execution failed
      (fun out c' m => c' = c ∧ (∃ n, (script n payload).Ends out) ∧ (∀ f, out = .error f → f.isExit = false) ∧
        m = { calls := {⟨agent, operation, payload⟩} } + own)
      (Run.onWorld (World.invoke env agent operation script payload)) c own := by
  refine makes_onWorld fun w rest hu hw hcalm => ?_
  obtain ⟨hshare, n, hends⟩ := @World.invoke_share env w hu.1 agent operation script payload
  refine ⟨under_of_works (World.within_invoke Scope.le_any _ _ _ _ w) hu, _, ?_, rfl, ⟨n, hends⟩, fun f hf => ?_, rfl⟩
  · rw [hshare, hw, add_assoc]
  · -- an exit would have been reported
    refine Bool.eq_false_iff.2 fun hexit => ?_
    have hmore := World.candid_invoke agent operation script payload w f hf hexit
    rw [hcalm] at hmore
    exact Nat.lt_irrefl _ hmore

theorem makes_takeUp {answer : CallEnd} :
    Makes execution failed (fun out c' m => out = answer.outcome ∧ c' = c ∧ m = own)
      (Run.onWorld (World.takeUp answer)) c own := by
  refine makes_onWorld fun w rest hu hw _ => ?_
  exact ⟨under_of_works (@World.within_takeUp .any answer w) hu, own, by rw [World.takeUp_apply]; exact hw,
    by rw [World.takeUp_apply], rfl, rfl⟩

end Requests

theorem Makes.exec {f : Flow α} [hg : Grows f] {s : Stage} (h : Makes execution s.world.refusals.length aim f c 0)
    (hs : Run.Under execution s.world)
    (hcalm : (f.exec c s).2.world.refusals = s.world.refusals) :
    Run.Under execution (f.exec c s).2.world ∧
      ∃ m, (f.exec c s).2.world.share = m + s.world.share ∧ aim (f.exec c s).1.1 (f.exec c s).1.2 m := by
  have hholds : (estate execution s.world.refusals.length).Holds 0 s.world.share s :=
    ⟨Nat.le_refl _, ⟨hs, Nat.le_refl _⟩, (zero_add _).symm⟩
  obtain ⟨m, hm, ha⟩ := Process.ownsTurn_run (h s _ hholds) (hg.safe c s)
    (show (f.exec c s).2.world.refusals.length ≤ _ by rw [hcalm])
  exact ⟨hm.fit.1, m, hm.whole, ha⟩

end Flow

end Conductor
