import Conductor.Proofs.Process.Ownership
import Conductor.Proofs.Run.Growth

/-! One turn of the work on a run, by what it owns when it is over, with one rule for each way of putting such
work together. -/

namespace Conductor

/-- Terms that ask nothing of anyone. -/
def free : Terms Stage where
  rely _ _ := True
  guar _ _ := True
  rely_refl _ := trivial
  rely_trans _ _ := trivial
  guar_refl _ := trivial
  guar_trans _ _ := trivial

theorem Round.safe_free {α : Type} (r : Round Stage α) (s : Stage) : r.Safe free (fun _ _ => True) s := by
  induction r using Round.turnInduction generalizing s with
  | done value => exact safe_done.2 trivial
  | go next ih => exact safe_go.2 fun t _ => ⟨trivial, ih t _⟩

namespace Flow

open Round

instance {α : Type} (f : Flow α) : Follows free f := ⟨fun _ _ => safeTurn_iff.2 ⟨trivial, safe_free _ _⟩⟩

variable {M α β : Type} [AddCommMonoid M]

/-- A turn by its outcome, the context and the share that it ends with, when the rest was as it was. -/
def Turn (E : Estate Stage M) (aim : Except Failure α → Context → M → Prop) (rest : M) (f : Flow α) (c : Context)
    (s : Stage) : Prop := OwnsTurn E (fun out m => aim out.1 out.2 m) rest (f c s)

variable {E : Estate Stage M} {aim aim' : Except Failure α → Context → M → Prop}
  {goal : Except Failure β → Context → M → Prop} {rest m : M} {f : Flow α} {g : α → Flow β} {c : Context} {s : Stage}

theorem Turn.mono (h : Turn E aim rest f c s) (ha : ∀ out c m, aim out c m → aim' out c m) :
    Turn E aim' rest f c s := OwnsTurn.mono h fun out => ha out.1 out.2

theorem turn_done {out : Except Failure α} {c' : Context} {t : Stage} (hf : f c s = (.done (out, c'), t))
    (ht : E.Holds m rest t) (h : aim out c' m) : Turn E aim rest f c s := by
  rw [Turn, hf]
  exact ownsTurn_iff.2 fun _ => ⟨m, ht, owns_done.2 h⟩

theorem Turn.bind [hg : ∀ v, Follows E.drift (g v)] (h : Turn E aim rest f c s)
    (hok : ∀ v c m, aim (.ok v) c m → ∀ t rest, E.Holds m rest t → Turn E goal rest (g v) c t)
    (he : ∀ e c m, aim (.error e) c m → goal (.error e) c m) : Turn E goal rest (f >>= g) c s := by
  rw [Turn, bind_apply]
  refine OwnsTurn.bind h (fun out m ho t rest' ht => ?_) fun out t => ?_
  · obtain ⟨e | v, c'⟩ := out
    · exact ownsTurn_iff.2 fun _ => ⟨m, ht, owns_done.2 (he e c' m ho)⟩
    · exact hok v c' m ho t rest' ht
  · obtain ⟨e | v, c'⟩ := out
    · exact E.drift.guar_refl t
    · exact (safeTurn_iff.1 ((hg v).safe c' t)).1

theorem turn_view_bind {g : View → Flow β} (h : Turn E goal rest (g c.view) c s) :
    Turn E goal rest (Run.view >>= g) c s := h

theorem turn_ofExcept_bind {ε : Type} {cause : ε → Failure} {result : Except ε α} (hs : E.Holds m rest s)
    (h : ∀ v, result = .ok v → Turn E goal rest (g v) c s) (he : ∀ e, result = .error e → goal (.error (cause e)) c m) :
    Turn E goal rest (Failure.ofExcept cause result >>= g) c s := by
  cases result with
  | error e => exact turn_done rfl hs (he e rfl)
  | ok v => exact h v rfl

theorem Turn.discard {goal : Except Failure PUnit → Context → M → Prop}
    (h : Turn E (fun out => goal (out.map fun _ => ⟨⟩)) rest f c s) : Turn E goal rest (discard f) c s := by
  rw [Turn, discard_apply]
  exact OwnsTurn.bind h (fun out m ho t rest' ht => ownsTurn_iff.2 fun _ => ⟨m, ht, owns_done.2 ho⟩)
    fun _ t => E.drift.guar_refl t

theorem Turn.outcome {goal : Except Failure (Except Failure α) → Context → M → Prop}
    (h : Turn E (fun out => goal (.ok out)) rest f c s) : Turn E goal rest (Failure.outcome f) c s := by
  rw [Turn, outcome_apply]
  exact OwnsTurn.bind h (fun out m ho t rest' ht => ownsTurn_iff.2 fun _ => ⟨m, ht, owns_done.2 ho⟩)
    fun _ t => E.drift.guar_refl t

theorem Turn.outcome_bind {g : Except Failure α → Flow β} [∀ out, Follows E.drift (g out)] (h : Turn E aim rest f c s)
    (hg : ∀ out c m, aim out c m → ∀ t rest, E.Holds m rest t → Turn E goal rest (g out) c t) :
    Turn E goal rest (Failure.outcome f >>= g) c s := by
  have houtcome : Turn E (fun result c' m => ∃ out, result = .ok out ∧ aim out c' m) rest (Failure.outcome f) c s :=
    (h.mono fun out c' m ha => ⟨out, rfl, ha⟩).outcome
  refine houtcome.bind ?_ ?_
  · rintro out c' m ⟨_, ⟨⟩, ha⟩ t rest' ht
    exact hg out c' m ha t rest' ht
  · rintro e c' m ⟨_, he, -⟩
    cases he

theorem Turn.tryCatch {handle : Failure → Flow α} [hh : ∀ e, Follows E.drift (handle e)] (h : Turn E aim rest f c s)
    (hv : ∀ v c m, aim (.ok v) c m → aim' (.ok v) c m)
    (he : ∀ e c m, aim (.error e) c m → ∀ t rest, E.Holds m rest t → Turn E aim' rest (handle e) c t) :
    Turn E aim' rest (tryCatch f handle) c s := by
  rw [Turn, tryCatch_apply]
  refine OwnsTurn.bind h (fun out m ho t rest' ht => ?_) fun out t => ?_
  · obtain ⟨e | v, c'⟩ := out
    · exact he e c' m ho t rest' ht
    · exact ownsTurn_iff.2 fun _ => ⟨m, ht, owns_done.2 (hv v c' m ho)⟩
  · obtain ⟨e | v, c'⟩ := out
    · exact (safeTurn_iff.1 ((hh e).safe c' t)).1
    · exact E.drift.guar_refl t

theorem turn_lift {p : Process Stage α} {ends : α → M → Prop} (h : OwnsTurn E ends rest (p s))
    (ha : ∀ v m, ends v m → aim (.ok v) c m) : Turn E aim rest (liftM p) c s := by
  have hstate : OwnsTurn E (fun out m => aim (.ok out.1) out.2 m) rest
      ((StateT.lift p : StateT Context (Process Stage) α) c s) :=
    h.bind (fun v m hv t rest' ht => ownsTurn_iff.2 fun _ => ⟨m, ht, owns_done.2 (ha v m hv)⟩)
      fun _ t => E.drift.guar_refl t
  exact hstate.bind (fun out m ho t rest' ht => ownsTurn_iff.2 fun _ => ⟨m, ht, owns_done.2 ho⟩)
    fun _ t => E.drift.guar_refl t

theorem Turn.handling {handle : Failure → Flow α} [hh : ∀ e, Follows E.drift (handle e)] (h : Turn E aim rest f c s)
    (hv : ∀ v c m, aim (.ok v) c m → aim' (.ok v) c m)
    (hexit : ∀ e c m, e.isExit = true → aim (.error e) c m → aim' (.error e) c m)
    (he : ∀ e c m, e.isExit = false → aim (.error e) c m → ∀ t rest, E.Holds m rest t →
      Turn E aim' rest (handle e) c t) :
    Turn E aim' rest (Failure.handling f handle) c s := by
  have hpass (e : Failure) : Follows E.drift (if e.isExit then throw e else handle e) := by
    split <;> infer_instance
  refine h.tryCatch hv fun e c m ha t rest' ht => ?_
  split_ifs with hout
  · exact turn_done rfl ht (hexit e c m hout ha)
  · exact he e c m (Bool.eq_false_iff.2 hout) ha t rest' ht

section Wait

variable {env : Setting} {account : Account} {step : String} {moment : Moment}

/-- Waiting changes nothing of one's own. -/
theorem turn_wait (hs : E.Holds m rest s) :
    Turn E (fun out c' m' => out = .ok ⟨⟩ ∧ c' = c ∧ m' = m) rest (Run.wait env account step moment) c s := by
  have hturns : Turn E (fun out c' m' => (∃ n, out = .ok n) ∧ c' = c ∧ m' = m) rest
      (Run.onWorld do return (← get).turns) c s := turn_done rfl hs ⟨⟨_, rfl⟩, rfl, rfl⟩
  refine hturns.bind ?_ ?_
  · rintro n c' m' ⟨-, rfl, rfl⟩ t rest' ht
    exact turn_lift (Process.ownsTurn_rest _ ht) fun _ _ hm => ⟨rfl, rfl, hm⟩
  · rintro e c' m' ⟨⟨n, hn⟩, -⟩
    cases hn

theorem turn_wait_bind {g : Unit → Flow β} [hg : ∀ v, Follows E.drift (g v)] (hs : E.Holds m rest s)
    (h : ∀ t rest, E.Holds m rest t → Turn E goal rest (g ⟨⟩) c t) :
    Turn E goal rest (Run.wait env account step moment >>= g) c s := by
  refine (turn_wait hs).bind ?_ ?_
  · rintro _ c' m' ⟨-, rfl, rfl⟩ t rest' ht
    exact h t rest' ht
  · rintro e c' m' ⟨he, -⟩
    cases he

end Wait

theorem Turn.frame {more : M} (h : Turn E aim (more + rest) f c s) :
    Turn E (fun out c m => ∃ m', m = m' + more ∧ aim out c m') rest f c s := by
  have hturn := ownsTurn_iff.1 h
  refine ownsTurn_iff.2 fun hcalm => ?_
  obtain ⟨own, ht, hr⟩ := hturn hcalm
  exact ⟨own + more, ⟨ht.calm, ht.fit, by rw [ht.whole, add_assoc]⟩, hr.frame more⟩

end Flow

end Conductor
