/-! Tables kept in order of first insertion: the members of an object, the steps of a run, the entries
of a price list. A write to a name that is present keeps its place. -/

namespace Conductor

abbrev Assoc (α : Type) := List (String × α)

namespace Assoc

variable {α : Type}

def get? (t : Assoc α) (name : String) : Option α :=
  match t with
  | [] => none
  | (k, v) :: rest => if k = name then some v else get? rest name

def has (t : Assoc α) (name : String) : Bool :=
  (t.get? name).isSome

def names (t : Assoc α) : List String :=
  t.map Prod.fst

def put (t : Assoc α) (name : String) (value : α) : Assoc α :=
  match t with
  | [] => [(name, value)]
  | (k, v) :: rest => if k = name then (k, value) :: rest else (k, v) :: put rest name value

/-- Writes every entry of `top` in order; where both name something, `top` wins. -/
def overlay (t top : Assoc α) : Assoc α :=
  top.foldl (fun acc entry => acc.put entry.1 entry.2) t

/-- Reads a list of entries; of two entries with one name the last counts, in the place of the first. -/
def ofEntries (entries : List (String × α)) : Assoc α :=
  overlay [] entries

@[simp] theorem get?_nil (name : String) : get? ([] : Assoc α) name = none := rfl

@[simp] theorem get?_put (t : Assoc α) (name other : String) (value : α) :
    (t.put name value).get? other = if name = other then some value else t.get? other := by
  induction t with
  | nil => simp [put, get?]
  | cons entry rest ih =>
    obtain ⟨k, v⟩ := entry
    by_cases hk : k = name
    · subst hk
      by_cases ho : k = other <;> simp [put, get?, ho]
    · by_cases ho : k = other
      · subst ho
        simp [put, get?, hk, Ne.symm hk]
      · simp [put, get?, hk, ho, ih]

theorem put_of_get?_eq_none {t : Assoc α} {name : String} (h : t.get? name = none) (value : α) :
    t.put name value = t ++ [(name, value)] := by
  induction t with
  | nil => rfl
  | cons entry rest ih =>
    obtain ⟨k, v⟩ := entry
    by_cases hk : k = name
    · simp [get?, hk] at h
    · simp only [get?, hk, if_false] at h
      simp [put, hk, ih h]

theorem mem_of_get?_eq_some {t : Assoc α} {name : String} {value : α} (h : t.get? name = some value) :
    (name, value) ∈ t := by
  induction t with
  | nil => simp at h
  | cons entry rest ih =>
    obtain ⟨k, v⟩ := entry
    by_cases hk : k = name
    · simp only [get?, hk, if_true, Option.some.injEq] at h
      simp [hk, h]
    · simp only [get?, hk, if_false] at h
      exact List.mem_cons_of_mem _ (ih h)

theorem get?_overlay (t top : Assoc α) (name : String) :
    (t.overlay top).get? name =
      ((top.reverse.find? (fun entry => entry.1 = name)).map Prod.snd).or (t.get? name) := by
  induction top generalizing t with
  | nil => simp [overlay]
  | cons entry rest ih =>
    obtain ⟨k, v⟩ := entry
    have step : t.overlay ((k, v) :: rest) = (t.put k v).overlay rest := rfl
    rw [step, ih, List.reverse_cons, List.find?_append, get?_put]
    cases List.find? (fun entry => decide (entry.1 = name)) rest.reverse with
    | some found => simp
    | none => by_cases h : k = name <;> simp [h]

end Assoc

end Conductor
