import Mathlib.Data.List.Forall2

/-! What the outcome of a computation that may fail tells of its parts. -/

namespace Conductor

variable {ε α β : Type}

theorem ok_of_toOption {x : Except ε α} {a : α} (h : x.toOption = some a) : x = .ok a := by
  cases x with
  | error e => exact absurd h nofun
  | ok b => exact congrArg Except.ok (Option.some.inj h)

theorem map_eq_error {x : Except ε α} {f : α → β} {e : ε} (h : x.map f = .error e) : x = .error e := by
  cases x with
  | error e' => exact congrArg Except.error (Except.error.inj h)
  | ok a => cases h

theorem map_eq_ok {x : Except ε α} {f : α → β} {b : β} (h : x.map f = .ok b) : ∃ a, x = .ok a ∧ f a = b := by
  cases x with
  | error e => cases h
  | ok a => exact ⟨a, rfl, Except.ok.inj h⟩

theorem bind_eq_ok {x : Except ε α} {f : α → Except ε β} {b : β} (h : x >>= f = .ok b) :
    ∃ a, x = .ok a ∧ f a = .ok b := by
  cases x with
  | error e => cases h
  | ok a => exact ⟨a, rfl, h⟩

theorem bind_eq_error {x : Except ε α} {f : α → Except ε β} {e : ε} (h : x >>= f = .error e) :
    x = .error e ∨ ∃ a, x = .ok a ∧ f a = .error e := by
  cases x with
  | error e' => exact .inl (congrArg Except.error (Except.error.inj h))
  | ok a => exact .inr ⟨a, rfl, h⟩

theorem forM_eq_ok {f : α → Except ε Unit} {items : List α} (h : items.forM f = .ok ()) :
    ∀ item ∈ items, f item = .ok () := by
  induction items with
  | nil => exact fun item hi => by cases hi
  | cons first rest ih =>
    obtain ⟨_, hfirst, hrest⟩ := bind_eq_ok h
    intro item hi
    rcases List.mem_cons.1 hi with rfl | hi
    · exact hfirst
    · exact ih hrest item hi

theorem ok_of_forM {f : α → Except ε Unit} {items : List α} (h : ∀ item ∈ items, f item = .ok ()) :
    items.forM f = .ok () := by
  induction items with
  | nil => rfl
  | cons first rest ih =>
    change (f first >>= fun _ => rest.forM f) = .ok ()
    rw [h first List.mem_cons_self]
    exact ih fun item hi => h item (List.mem_cons_of_mem _ hi)

theorem mapError_eq_ok {ε' : Type} {x : Except ε α} {f : ε → ε'} {a : α} (h : x.mapError f = .ok a) : x = .ok a := by
  cases x with
  | error e => cases h
  | ok v => exact congrArg Except.ok (Except.ok.inj h)

theorem mapError_eq_error {ε' : Type} {x : Except ε α} {f : ε → ε'} {e' : ε'} (h : x.mapError f = .error e') :
    ∃ e, x = .error e ∧ f e = e' := by
  cases x with
  | error e => exact ⟨e, rfl, Except.error.inj h⟩
  | ok v => cases h

theorem foldlM_eq_error {f : β → α → Except ε β} {items : List α} {acc : β} {e : ε}
    (h : items.foldlM f acc = .error e) : ∃ acc, ∃ item ∈ items, f acc item = .error e := by
  induction items generalizing acc with
  | nil => cases h
  | cons first rest ih =>
    rw [List.foldlM_cons] at h
    rcases bind_eq_error h with hfirst | ⟨_, -, hrest⟩
    · exact ⟨acc, first, List.mem_cons_self, hfirst⟩
    · obtain ⟨acc, item, hitem, hfails⟩ := ih hrest
      exact ⟨acc, item, List.mem_cons_of_mem _ hitem, hfails⟩

theorem forall₂_of_mapM {f : α → Except ε β} {items : List α} {out : List β}
    (h : items.mapM f = .ok out) : List.Forall₂ (fun a b => f a = .ok b) items out := by
  induction items generalizing out with
  | nil =>
    cases h
    exact .nil
  | cons first rest ih =>
    rw [List.mapM_cons] at h
    obtain ⟨b, hb, h⟩ := bind_eq_ok h
    obtain ⟨bs, hbs, h⟩ := bind_eq_ok h
    cases h
    exact .cons hb (ih hbs)

theorem mapM_of_forall₂ {f : α → Except ε β} {items : List α} {out : List β}
    (h : List.Forall₂ (fun a b => f a = .ok b) items out) : items.mapM f = .ok out := by
  induction h with
  | nil => rfl
  | cons hb _ ih =>
    rw [List.mapM_cons, hb, ih]
    rfl

theorem ok_of_mapM {f : α → Except ε β} {items : List α} {out : List β} (h : items.mapM f = .ok out) :
    ∀ a ∈ items, ∃ b, f a = .ok b := by
  have hall := forall₂_of_mapM h
  clear h
  induction hall with
  | nil => nofun
  | cons hb _ ih => exact List.forall_mem_cons.2 ⟨⟨_, hb⟩, ih⟩

theorem exists_mapM {f : α → Except ε β} {items : List α} (h : ∀ a ∈ items, ∃ b, f a = .ok b) :
    ∃ out, items.mapM f = .ok out := by
  induction items with
  | nil => exact ⟨[], rfl⟩
  | cons first rest ih =>
    obtain ⟨⟨b, hb⟩, hrest⟩ := List.forall_mem_cons.1 h
    obtain ⟨bs, hbs⟩ := ih hrest
    exact ⟨b :: bs, mapM_of_forall₂ (.cons hb (forall₂_of_mapM hbs))⟩

theorem mapM_eq_error {f : α → Except ε β} {items : List α} {e : ε} : items.mapM f = .error e ↔
    ∃ before item after, items = before ++ item :: after ∧ (∀ a ∈ before, ∃ b, f a = .ok b) ∧ f item = .error e := by
  constructor
  · intro h
    induction items with
    | nil => cases h
    | cons first rest ih =>
      rw [List.mapM_cons] at h
      rcases bind_eq_error h with hfirst | ⟨b, hb, h⟩
      · exact ⟨[], first, rest, rfl, nofun, hfirst⟩
      · rcases bind_eq_error h with hrest | ⟨_, _, hdone⟩
        · obtain ⟨before, item, after, rfl, hbefore, hitem⟩ := ih hrest
          exact ⟨first :: before, item, after, rfl, List.forall_mem_cons.2 ⟨⟨b, hb⟩, hbefore⟩, hitem⟩
        · cases hdone
  · rintro ⟨before, item, after, rfl, hbefore, hitem⟩
    obtain ⟨out, hout⟩ := exists_mapM hbefore
    rw [List.mapM_append, hout, List.mapM_cons, hitem]
    rfl

end Conductor
