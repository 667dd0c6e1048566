import Conductor.Failure
import Mathlib.Order.Defs.Unbundled

/-! Operations as functions of the state: how each way of putting them together acts on it, and what
they leave within a relation between states. -/

namespace Conductor

namespace Act

variable {σ α β : Type}

@[simp] theorem pure_apply (a : α) (s : σ) : (pure a : Act σ α) s = (.ok a, s) := rfl

@[simp] theorem throw_apply (f : Failure) (s : σ) : (throw f : Act σ α) s = (.error f, s) := rfl

/-- Goes on from what an operation has left, unless it failed. -/
def andThen (out : Except Failure α × σ) (next : α → Act σ β) : Except Failure β × σ :=
  match out.1 with
  | .ok a => next a out.2
  | .error f => (.error f, out.2)

@[simp] theorem andThen_ok (a : α) (s : σ) (next : α → Act σ β) :
    andThen (.ok a, s) next = next a s := rfl

@[simp] theorem andThen_error (f : Failure) (s : σ) (next : α → Act σ β) :
    andThen (.error f, s) next = (.error f, s) := rfl

@[simp] theorem bind_apply (a : Act σ α) (next : α → Act σ β) (s : σ) :
    (a >>= next) s = andThen (a s) next := by
  show ExceptT.bindCont next (a s).1 (a s).2 = _
  unfold andThen
  cases (a s).1 <;> rfl

theorem bind_ok {a : Act σ α} {next : α → Act σ β} {s t : σ} {b : β} (h : (a >>= next) s = (.ok b, t)) :
    ∃ v u, a s = (.ok v, u) ∧ next v u = (.ok b, t) := by
  rw [bind_apply] at h
  rcases hout : a s with ⟨f | v, u⟩
  · rw [hout] at h
    cases h
  · rw [hout] at h
    exact ⟨v, u, rfl, h⟩

@[simp] theorem get_apply (s : σ) : (get : Act σ σ) s = (.ok s, s) := rfl

@[simp] theorem modify_apply (change : σ → σ) (s : σ) :
    (modify change : Act σ PUnit) s = (.ok ⟨⟩, change s) := rfl

@[simp] theorem of_apply (result : Except Failure α) (s : σ) :
    (Failure.of result : Act σ α) s = (result, s) := by
  cases result <;> rfl

theorem ofExcept_apply {ε : Type} (cause : ε → Failure) (result : Except ε α) (s : σ) :
    (Failure.ofExcept cause result : Act σ α) s = (result.mapError cause, s) := by
  cases result <;> rfl

theorem ofExcept_ok {ε : Type} {cause : ε → Failure} {result : Except ε α} {s t : σ} {v : α}
    (h : (Failure.ofExcept cause result : Act σ α) s = (.ok v, t)) : result = .ok v ∧ s = t := by
  rw [ofExcept_apply] at h
  cases result with
  | error e => cases h
  | ok v' =>
    cases h
    exact ⟨rfl, rfl⟩

@[simp] theorem outcome_apply (a : Act σ α) (s : σ) :
    (Failure.outcome a : Act σ _) s = (.ok (a s).1, (a s).2) := rfl

@[simp] theorem discard_apply (a : Act σ α) (s : σ) :
    (discard a : Act σ PUnit) s = ((a s).1.map fun _ => ⟨⟩, (a s).2) := by
  simp only [discard, Functor.mapConst, Function.comp, ExceptT.map, ExceptT.mk, bind, StateT.bind]
  rcases a s with ⟨_ | _, _⟩ <;> rfl

theorem tryCatch_apply (a : Act σ α) (handle : Failure → Act σ α) (s : σ) :
    (tryCatch a handle : Act σ α) s =
      match (a s).1 with
      | .ok v => (.ok v, (a s).2)
      | .error f => handle f (a s).2 := by
  simp only [tryCatch, tryCatchThe, MonadExceptOf.tryCatch, ExceptT.tryCatch, ExceptT.mk, bind,
    StateT.bind]
  rcases a s with ⟨_ | _, _⟩ <;> rfl

theorem handling_apply (a : Act σ α) (handle : Failure → Act σ α) (s : σ) :
    (Failure.handling a handle : Act σ α) s =
      match (a s).1 with
      | .ok v => (.ok v, (a s).2)
      | .error f => if f.isExit then (.error f, (a s).2) else handle f (a s).2 := by
  rw [Failure.handling, tryCatch_apply]
  rcases a s with ⟨f | v, t⟩
  · dsimp only
    split <;> rfl
  · rfl

/-- Whether it fails or not, an operation leads from every state to a related one. -/
def Within (R : σ → σ → Prop) (a : Act σ α) : Prop := ∀ s, R s (a s).2

section Within

variable {R : σ → σ → Prop} {a : Act σ α} {next : α → Act σ β}

theorem Within.bind [IsTrans σ R] (ha : Within R a) (hn : ∀ v, Within R (next v)) :
    Within R (a >>= next) := by
  intro s
  have hs := ha s
  rw [bind_apply]
  rcases h : a s with ⟨f | v, t⟩
  · rwa [h] at hs
  · rw [h] at hs
    exact IsTrans.trans _ _ _ hs (hn v t)

theorem Within.discard (ha : Within R a) : Within R (discard a) := by
  intro s
  rw [discard_apply]
  exact ha s

theorem Within.outcome (ha : Within R a) : Within R (Failure.outcome a) := ha

theorem within_modify {change : σ → σ} (h : ∀ s, R s (change s)) : Within R (modify change) := h

variable [Std.Refl R]

theorem within_pure (v : α) : Within R (pure v : Act σ α) := fun s => Std.Refl.refl s

theorem within_throw (f : Failure) : Within R (throw f : Act σ α) := fun s => Std.Refl.refl s

theorem within_throw_bind (f : Failure) : Within R (throw f >>= next) := fun s => Std.Refl.refl s

theorem within_get : Within R (get : Act σ σ) := fun s => Std.Refl.refl s

theorem within_of (result : Except Failure α) : Within R (Failure.of result : Act σ α) := by
  intro s
  rw [of_apply]
  exact Std.Refl.refl s

theorem within_ofExcept {ε : Type} (cause : ε → Failure) (result : Except ε α) :
    Within R (Failure.ofExcept cause result : Act σ α) := by
  intro s
  rw [ofExcept_apply]
  exact Std.Refl.refl s

theorem within_forM [IsTrans σ R] {γ : Type} {items : List γ} {each : γ → Act σ PUnit}
    (h : ∀ item, Within R (each item)) : Within R (items.forM each) := by
  induction items with
  | nil => exact within_pure _
  | cons item rest ih => exact (h item).bind fun _ => ih

end Within

end Act

end Conductor
