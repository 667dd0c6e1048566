import Conductor.Run
import Conductor.Proofs.Act
import Conductor.Proofs.Process.Safety

/-! The work on a run beside other work: what holds of its outcome, its context and the stage when
it ends, with one rule for each way of putting such work together. -/

namespace Conductor

namespace Flow

variable {α β : Type}

/-- Keeps to the terms and ends as it is meant to. -/
def Safe (T : Terms Stage) (aim : Except Failure α → Context → Stage → Prop) (f : Flow α) (c : Context)
    (s : Stage) : Prop :=
  Round.SafeTurn T (fun out t => aim out.1 out.2 t) (f c s) s

variable {T : Terms Stage} {aim aim' : Except Failure α → Context → Stage → Prop}
  {goal : Except Failure β → Context → Stage → Prop} {c : Context} {s : Stage}

theorem Safe.mono {f : Flow α} (h : Safe T aim f c s) (ha : ∀ out c t, aim out c t → aim' out c t) :
    Safe T aim' f c s := by
  have h' := Round.safeTurn_iff.1 h
  exact Round.safeTurn_iff.2 ⟨h'.1, h'.2.mono (fun _ _ hr => hr) (fun _ _ hg => hg) fun out t => ha _ _ t⟩

theorem Safe.widen {U : Terms Stage} {f : Flow α} (h : Safe T aim f c s) (hr : ∀ a b, U.rely a b → T.rely a b)
    (hg : ∀ a b, T.guar a b → U.guar a b) : Safe U aim f c s := by
  have h' := Round.safeTurn_iff.1 h
  exact Round.safeTurn_iff.2 ⟨hg _ _ h'.1, h'.2.mono hr hg fun _ _ ha => ha⟩

theorem Safe.frame {keep : Stage → Prop} {f : Flow α} (h : Safe T aim f c s) (hr : T.Stable keep)
    (hg : ∀ a b, T.guar a b → keep a → keep b) (hs : keep s) :
    Safe T (fun out c t => aim out c t ∧ keep t) f c s := Round.SafeTurn.frame h hr hg hs

theorem safe_done {out : Except Failure α} (h : aim out c s) :
    Safe T aim (fun c s => (.done (out, c), s)) c s :=
  Round.safeTurn_iff.2 ⟨T.guar_refl s, Round.safe_done.2 h⟩

theorem safe_pure {v : α} (h : aim (.ok v) c s) : Safe T aim (pure v) c s := safe_done h

theorem safe_throw {f : Failure} (h : aim (.error f) c s) : Safe T aim (throw f) c s := safe_done h

theorem safe_of {result : Except Failure α} (h : aim result c s) : Safe T aim (Failure.of result) c s := by
  cases result <;> exact safe_done h

theorem safe_ofExcept {ε : Type} {cause : ε → Failure} {result : Except ε α}
    (h : aim (result.mapError cause) c s) : Safe T aim (Failure.ofExcept cause result) c s := by
  cases result <;> exact safe_done h

theorem safe_get {aim : Except Failure Context → Context → Stage → Prop} (h : aim (.ok c) c s) :
    Safe T aim get c s := safe_done h

theorem safe_modify {aim : Except Failure PUnit → Context → Stage → Prop} {change : Context → Context}
    (h : aim (.ok ⟨⟩) (change c) s) : Safe T aim (modify change) c s :=
  Round.safeTurn_iff.2 ⟨T.guar_refl s, Round.safe_done.2 h⟩

theorem safe_onStage {action : Act Stage α} (hg : T.guar s (action s).2)
    (ha : aim (action s).1 c (action s).2) : Safe T aim (Run.onStage action) c s :=
  Round.safeTurn_iff.2 ⟨hg, Round.safe_done.2 ha⟩

theorem safe_onWorld {action : Act World α} (hg : T.guar s { s with world := (action s.world).2 })
    (ha : aim (action s.world).1 c { s with world := (action s.world).2 }) :
    Safe T aim (Run.onWorld action) c s := safe_onStage hg ha

theorem onWorld_apply (action : Act World α) (c : Context) (s : Stage) :
    Run.onWorld action c s = (.done ((action s.world).1, c), { s with world := (action s.world).2 }) := rfl

/-- Goes on from where some work has ended, unless that failed. -/
def next (g : α → Flow β) (out : Except Failure α × Context) : Process Stage (Except Failure β × Context) :=
  match out.1 with
  | .ok v => g v out.2
  | .error f => pure (.error f, out.2)

theorem bind_apply (f : Flow α) (g : α → Flow β) (c : Context) (s : Stage) :
    (f >>= g) c s = Round.bindPair (next g) (f c s) := by
  show Round.bindPair _ (f c s) = _
  congr 1
  funext out
  obtain ⟨v | v, c'⟩ := out <;> rfl

theorem Safe.bind {f : Flow α} {g : α → Flow β} (h : Safe T aim f c s)
    (hg : ∀ v c t, aim (.ok v) c t → Safe T goal (g v) c t)
    (he : ∀ e c t, aim (.error e) c t → goal (.error e) c t) : Safe T goal (f >>= g) c s := by
  unfold Safe
  rw [bind_apply]
  refine Round.SafeTurn.bind h fun out t ho => ?_
  obtain ⟨v | v, c'⟩ := out
  · exact safe_done (he v c' t ho)
  · exact hg v c' t ho

theorem discard_apply (f : Flow α) (c : Context) (s : Stage) :
    (discard f : Flow PUnit) c s =
      Round.bindPair (fun out => pure (out.1.map fun _ => ⟨⟩, out.2)) (f c s) := by
  show Round.bindPair _ (f c s) = _
  congr 1
  funext out
  obtain ⟨v | v, c'⟩ := out <;> rfl

theorem Safe.discard {f : Flow α} {goal : Except Failure PUnit → Context → Stage → Prop}
    (h : Safe T (fun out => goal (out.map fun _ => ⟨⟩)) f c s) : Safe T goal (discard f) c s := by
  unfold Safe
  rw [discard_apply]
  exact Round.SafeTurn.bind h fun out t ho => safe_done ho

theorem tryCatch_apply (f : Flow α) (handle : Failure → Flow α) (c : Context) (s : Stage) :
    (tryCatch f handle : Flow α) c s = Round.bindPair (fun out => match out.1 with
      | .ok v => pure (.ok v, out.2)
      | .error e => handle e out.2) (f c s) := by
  show Round.bindPair _ (f c s) = _
  congr 1
  funext out
  obtain ⟨v | v, c'⟩ := out <;> rfl

theorem Safe.tryCatch {f : Flow α} {handle : Failure → Flow α} (h : Safe T aim f c s)
    (hv : ∀ v c t, aim (.ok v) c t → aim' (.ok v) c t)
    (hh : ∀ e c t, aim (.error e) c t → Safe T aim' (handle e) c t) :
    Safe T aim' (tryCatch f handle) c s := by
  unfold Safe
  rw [tryCatch_apply]
  refine Round.SafeTurn.bind h fun out t ho => ?_
  obtain ⟨v | v, c'⟩ := out
  · exact hh v c' t ho
  · exact safe_done (hv v c' t ho)

/-- A handler lets exits pass. -/
theorem Safe.handling {f : Flow α} {handle : Failure → Flow α} (h : Safe T aim f c s)
    (hv : ∀ v c t, aim (.ok v) c t → aim' (.ok v) c t)
    (he : ∀ e c t, e.isExit = true → aim (.error e) c t → aim' (.error e) c t)
    (hh : ∀ e c t, e.isExit = false → aim (.error e) c t → Safe T aim' (handle e) c t) :
    Safe T aim' (Failure.handling f handle) c s := by
  refine h.tryCatch hv fun e c t ho => ?_
  cases hexit : e.isExit with
  | false => exact hh e c t hexit ho
  | true => exact safe_throw (he e c t hexit ho)

theorem outcome_apply (f : Flow α) (c : Context) (s : Stage) :
    (Failure.outcome f : Flow _) c s = Round.bindPair (fun out => pure (.ok out.1, out.2)) (f c s) := rfl

theorem Safe.outcome {f : Flow α} {goal : Except Failure (Except Failure α) → Context → Stage → Prop}
    (h : Safe T (fun out => goal (.ok out)) f c s) : Safe T goal (Failure.outcome f) c s := by
  unfold Safe
  rw [outcome_apply]
  exact Round.SafeTurn.bind h fun out t ho => safe_done ho

theorem safe_lift {p : Process Stage α} {ends : α → Stage → Prop} (h : Round.SafeTurn T ends (p s) s)
    (ha : ∀ v t, ends v t → aim (.ok v) c t) : Safe T aim (liftM p) c s := by
  have hstate : Round.SafeTurn T (fun out t => aim (.ok out.1) out.2 t)
      ((StateT.lift p : StateT Context (Process Stage) α) c s) s :=
    h.bind fun v t hv => Round.safeTurn_iff.2 ⟨T.guar_refl t, Round.safe_done.2 (ha v t hv)⟩
  exact hstate.bind fun out t ho => safe_done ho

/-! Waiting -/

section Wait

variable {env : Setting} {account : Account} {step : String} {moment : Moment}

/-- Waiting changes nothing, whatever others do meanwhile. -/
theorem safe_wait : Safe T (fun out c' t => out = .ok ⟨⟩ ∧ c' = c ∧ T.rely s t) (Run.wait env account step moment) c s := by
  let aim (out : Except Failure Nat) (c' : Context) (t : Stage) : Prop := (∃ n, out = .ok n) ∧ c' = c ∧ t = s
  have hturns : Safe T aim (Run.onWorld do return (← get).turns) c s :=
    safe_onWorld (T.guar_refl s) ⟨⟨_, rfl⟩, rfl, rfl⟩
  refine hturns.bind ?_ ?_
  · rintro turns c' t ⟨-, rfl, rfl⟩
    exact safe_lift (Process.safeTurn_rest _ t) fun _ u hu => ⟨rfl, rfl, hu⟩
  · rintro e c' t ⟨⟨n, hn⟩, -⟩
    cases hn

theorem safe_wait_bind {g : Unit → Flow β} (h : ∀ t, T.rely s t → Safe T goal (g ⟨⟩) c t) :
    Safe T goal (Run.wait env account step moment >>= g) c s := by
  refine safe_wait.bind (fun _ c' t ho => ?_) fun e c' t ho => nomatch ho.1
  obtain ⟨-, rfl, ht⟩ := ho
  exact h t ht

end Wait

/-! What work yields when it does not fail -/

def Yields (p : α → Context → Stage → Prop) (out : Except Failure α) (c : Context) (s : Stage) : Prop :=
  ∀ v, out = .ok v → p v c s

section Yields

variable {p : α → Context → Stage → Prop} {q : β → Context → Stage → Prop} {f : Flow α} {g : α → Flow β}

theorem yields_bind (h : Safe T (Yields p) f c s) (hg : ∀ v c t, p v c t → Safe T (Yields q) (g v) c t) :
    Safe T (Yields q) (f >>= g) c s :=
  h.bind (fun v c t ho => hg v c t (ho v rfl)) fun _ _ _ _ _ => nofun

theorem yields_pure {v : α} (h : p v c s) : Safe T (Yields p) (pure v) c s :=
  safe_pure fun v' hv => by cases hv; exact h

theorem yields_throw {e : Failure} : Safe T (Yields p) (throw e) c s := safe_throw fun _ => nofun

theorem yields_discard {p : Context → Stage → Prop} (h : Safe T (Yields fun _ => p) f c s) :
    Safe T (Yields fun _ => p) (discard f) c s := by
  refine Safe.discard (h.mono fun out c t ho => ?_)
  cases out with
  | error e => exact fun _ => nofun
  | ok v => exact fun _ _ => ho v rfl

theorem yields_outcome {ends : Except Failure α → Context → Stage → Prop} (h : Safe T ends f c s) :
    Safe T (Yields ends) (Failure.outcome f) c s := by
  refine Safe.outcome (h.mono fun out c t ho v hv => ?_)
  cases hv
  exact ho

/-! Looking at the context, or failing, changes nothing. -/

theorem yields_get_bind {g : Context → Flow β} (h : Safe T (Yields q) (g c) c s) :
    Safe T (Yields q) (get >>= g) c s := by
  refine yields_bind (p := fun v c' t => v = c ∧ c' = c ∧ t = s) (safe_get fun v hv => ?_) ?_
  · cases hv
    exact ⟨rfl, rfl, rfl⟩
  · rintro v c' t ⟨rfl, rfl, rfl⟩
    exact h

theorem yields_ofExcept_bind {ε : Type} {cause : ε → Failure} {result : Except ε α}
    (h : ∀ v, result = .ok v → Safe T (Yields q) (g v) c s) :
    Safe T (Yields q) (Failure.ofExcept cause result >>= g) c s := by
  cases result with
  | error e => exact yields_bind (p := fun _ _ _ => False) yields_throw fun _ _ _ => False.elim
  | ok v =>
    refine yields_bind (p := fun v' c' t => v' = v ∧ c' = c ∧ t = s) (yields_pure ⟨rfl, rfl, rfl⟩) ?_
    rintro v' c' t ⟨rfl, rfl, rfl⟩
    exact h v' rfl

theorem yields_of_bind {result : Except Failure α} (h : ∀ v, result = .ok v → Safe T (Yields q) (g v) c s) :
    Safe T (Yields q) (Failure.of result >>= g) c s := yields_ofExcept_bind h

theorem yields_view_bind {g : View → Flow β} (h : Safe T (Yields q) (g c.view) c s) :
    Safe T (Yields q) (Run.view >>= g) c s := by
  have hview : Safe T (Yields fun v c' t => v = c.view ∧ c' = c ∧ t = s) Run.view c s :=
    yields_get_bind (yields_pure ⟨rfl, rfl, rfl⟩)
  refine yields_bind hview ?_
  rintro v c' t ⟨rfl, rfl, rfl⟩
  exact h

end Yields

/-! Work with nothing beside it -/

/-- The outcome, the context and the stage that work comes to. -/
def exec (f : Flow α) (c : Context) (s : Stage) : (Except Failure α × Context) × Stage := Process.run (f c) s

theorem Safe.exec {f : Flow α} (h : Safe T aim f c s) :
    T.guar s (f.exec c s).2 ∧ aim (f.exec c s).1.1 (f.exec c s).1.2 (f.exec c s).2 :=
  Process.safeTurn_run h

theorem exec_bind (f : Flow α) (g : α → Flow β) (c : Context) (s : Stage) :
    (f >>= g).exec c s = Process.run (next g (f.exec c s).1) (f.exec c s).2 := by
  unfold exec Process.run
  rw [bind_apply, Process.run_bindPair]
  rfl

theorem exec_bind_ok {f : Flow α} {g : α → Flow β} {c c' : Context} {s s' : Stage} {v : α}
    (h : f.exec c s = ((.ok v, c'), s')) : (f >>= g).exec c s = (g v).exec c' s' := by
  rw [exec_bind, h]
  rfl

theorem exec_bind_error {f : Flow α} {g : α → Flow β} {c c' : Context} {s s' : Stage} {e : Failure}
    (h : f.exec c s = ((.error e, c'), s')) : (f >>= g).exec c s = ((.error e, c'), s') := by
  rw [exec_bind, h]
  rfl

theorem exec_onWorld (action : Act World α) (c : Context) (s : Stage) :
    (Run.onWorld action).exec c s = (((action s.world).1, c), { s with world := (action s.world).2 }) := rfl

theorem exec_lift (p : Process Stage α) (c : Context) (s : Stage) :
    exec (liftM p) c s = ((.ok (p.run s).1, c), (p.run s).2) := by
  show Process.run ((p >>= fun v => pure (v, c)) >>= fun out => pure (Except.ok out.1, out.2)) s = _
  simp

theorem exec_wait (env : Setting) (account : Account) (step : String) (moment : Moment) (c : Context) (s : Stage) :
    exec (Run.wait env account step moment) c s = ((.ok ⟨⟩, c), s) := by
  refine (exec_bind_ok (exec_onWorld _ c s)).trans ?_
  rw [exec_lift, Process.run_rest]
  rfl

theorem exec_wait_bind {env : Setting} {account : Account} {step : String} {moment : Moment} (g : Unit → Flow β)
    (c : Context) (s : Stage) : (Run.wait env account step moment >>= g).exec c s = (g ⟨⟩).exec c s :=
  exec_bind_ok (exec_wait env account step moment c s)

theorem exec_outcome (f : Flow α) (c : Context) (s : Stage) :
    exec (Failure.outcome f) c s = ((.ok (f.exec c s).1.1, (f.exec c s).1.2), (f.exec c s).2) := by
  unfold exec Process.run
  rw [outcome_apply, Process.run_bindPair]
  rfl

theorem exec_discard (f : Flow α) (c : Context) (s : Stage) :
    exec (discard f) c s = (((f.exec c s).1.1.map fun _ => ⟨⟩, (f.exec c s).1.2), (f.exec c s).2) := by
  unfold exec Process.run
  rw [discard_apply, Process.run_bindPair]
  rfl

theorem exec_tryCatch (f : Flow α) (handle : Failure → Flow α) (c : Context) (s : Stage) :
    exec (tryCatch f handle) c s = match f.exec c s with
      | ((.ok v, c'), t) => ((.ok v, c'), t)
      | ((.error e, c'), t) => (handle e).exec c' t := by
  have happly : exec (tryCatch f handle) c s = Process.run (fun t => (match (f.exec c s).1.1 with
      | .ok v => pure (.ok v, (f.exec c s).1.2)
      | .error e => handle e (f.exec c s).1.2 : Process Stage (Except Failure α × Context)) t) (f.exec c s).2 := by
    unfold exec Process.run
    rw [tryCatch_apply, Process.run_bindPair]
    rfl
  rw [happly]
  rcases f.exec c s with ⟨⟨e | v, c'⟩, t⟩ <;> rfl

theorem exec_handling (f : Flow α) (handle : Failure → Flow α) (c : Context) (s : Stage) :
    exec (Failure.handling f handle) c s = match f.exec c s with
      | ((.ok v, c'), t) => ((.ok v, c'), t)
      | ((.error e, c'), t) => if e.isExit then ((.error e, c'), t) else (handle e).exec c' t := by
  refine (exec_tryCatch f _ c s).trans ?_
  rcases f.exec c s with ⟨⟨e | v, c'⟩, t⟩
  · show exec (if e.isExit then throw e else handle e) c' t =
      if e.isExit then ((.error e, c'), t) else (handle e).exec c' t
    split <;> rfl
  · rfl

end Flow

end Conductor
