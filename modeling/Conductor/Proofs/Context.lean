import Conductor.Context
import Mathlib.Data.List.Nodup

/-! What a context says of one step. The levels of a context name each step once, so that the table
that expressions see says the same as the nearest level that knows the step; and work that is to
write for some steps leaves what is said of all others. -/

namespace Conductor

namespace Assoc

variable {α : Type}

theorem mem_names_put {t : Assoc α} {name other : String} {value : α} :
    other ∈ (t.put name value).names ↔ other = name ∨ other ∈ t.names := by
  induction t with
  | nil => simp [put, names]
  | cons entry rest ih =>
    obtain ⟨k, v⟩ := entry
    simp only [names, List.map_cons, List.mem_cons] at ih ⊢
    by_cases hk : k = name
    · subst hk
      simp [put]
    · simp only [put, if_neg hk, List.map_cons, List.mem_cons, ih]
      exact or_left_comm

theorem names_put_of_mem {t : Assoc α} {name : String} (h : name ∈ t.names) (value : α) :
    (t.put name value).names = t.names := by
  induction t with
  | nil => simp [names] at h
  | cons entry rest ih =>
    obtain ⟨k, v⟩ := entry
    by_cases hk : k = name
    · simp [put, hk, names]
    · have hrest : name ∈ names rest := (List.mem_cons.1 h).resolve_left (Ne.symm hk)
      simpa [put, hk, names] using ih hrest

theorem nodup_names_put {t : Assoc α} (h : t.names.Nodup) (name : String) (value : α) :
    (t.put name value).names.Nodup := by
  induction t with
  | nil => simp [put, names]
  | cons entry rest ih =>
    obtain ⟨k, v⟩ := entry
    rw [names, List.map_cons, List.nodup_cons] at h
    by_cases hk : k = name
    · simpa [put, hk, names] using h
    · rw [put, if_neg hk, names, List.map_cons, List.nodup_cons]
      refine ⟨fun hm => ?_, ih h.2⟩
      rcases mem_names_put.1 hm with he | hm
      · exact hk he
      · exact h.1 hm

theorem nodup_names_overlay {t : Assoc α} (h : t.names.Nodup) (top : Assoc α) :
    (t.overlay top).names.Nodup := by
  induction top generalizing t with
  | nil => exact h
  | cons entry rest ih => exact ih (nodup_names_put h _ _)

theorem get?_eq_none_of_not_mem {t : Assoc α} {name : String} (h : name ∉ t.names) : t.get? name = none := by
  cases hg : t.get? name with
  | none => rfl
  | some value => exact absurd (List.mem_map.2 ⟨_, mem_of_get?_eq_some hg, rfl⟩) h

theorem mem_names_iff {t : Assoc α} {name : String} : name ∈ t.names ↔ ∃ value, t.get? name = some value := by
  rw [← not_iff_not, not_exists]
  constructor
  · intro hnot value hget
    exact hnot (List.mem_map.2 ⟨_, mem_of_get?_eq_some hget, rfl⟩)
  · intro hnone hm
    induction t with
    | nil => cases hm
    | cons entry rest ih =>
      obtain ⟨k, v⟩ := entry
      by_cases hk : k = name
      · exact hnone v (if_pos hk)
      · have hrest : name ∈ names rest := (List.mem_cons.1 hm).resolve_left (Ne.symm hk)
        exact ih (fun value hget => hnone value ((if_neg hk).trans hget)) hrest

theorem get?_of_mem_of_nodup {t : Assoc α} {name : String} {value : α} (h : t.names.Nodup)
    (hm : (name, value) ∈ t) : t.get? name = some value := by
  induction t with
  | nil => cases hm
  | cons entry rest ih =>
    obtain ⟨k, v⟩ := entry
    rw [names, List.map_cons, List.nodup_cons] at h
    rcases List.mem_cons.1 hm with he | hm
    · cases he
      exact if_pos rfl
    · have hne : k ≠ name := fun he => h.1 (List.mem_map.2 ⟨_, hm, he.symm⟩)
      rw [get?, if_neg hne]
      exact ih h.2 hm

theorem get?_overlay_of_nodup {t top : Assoc α} (h : top.names.Nodup) (name : String) :
    (t.overlay top).get? name = (top.get? name).or (t.get? name) := by
  induction top generalizing t with
  | nil => rfl
  | cons entry rest ih =>
    obtain ⟨k, v⟩ := entry
    rw [names, List.map_cons, List.nodup_cons] at h
    have hstep : t.overlay ((k, v) :: rest) = (t.put k v).overlay rest := rfl
    rw [hstep, ih h.2, get?_put, get?]
    by_cases hk : k = name
    · have hnone : get? rest name = none := get?_eq_none_of_not_mem (hk ▸ h.1)
      simp [hk, hnone]
    · simp [hk]

/-- Writes to names that are not there are added at the end. -/
theorem overlay_of_nodup {t top : Assoc α} (h : (t.names ++ top.names).Nodup) : t.overlay top = t ++ top := by
  induction top generalizing t with
  | nil => exact (List.append_nil t).symm
  | cons entry rest ih =>
    obtain ⟨name, value⟩ := entry
    have hnames : names (t ++ [(name, value)]) ++ names rest = t.names ++ names ((name, value) :: rest) := by
      simp [names]
    have hfresh : name ∉ t.names := fun hm =>
      (List.nodup_append.1 h).2.2 name hm name (by simp [names]) rfl
    have hput : t.overlay ((name, value) :: rest) = (t ++ [(name, value)]).overlay rest := by
      rw [← put_of_get?_eq_none (get?_eq_none_of_not_mem hfresh)]
      rfl
    rw [hput, ih (hnames ▸ h), List.append_assoc]
    rfl

end Assoc

namespace Context

variable {c c' c'' : Context} {ids more : List String}

/-- Every level names each step once. -/
def Kempt (c : Context) : Prop := ∀ layer ∈ c.layers, layer.steps.names.Nodup

theorem get?_foldr_absorb {layers : List Layer} (h : ∀ layer ∈ layers, layer.steps.names.Nodup)
    (step : String) :
    (layers.foldr (fun top acc => Layer.absorb acc top) {}).steps.get? step =
      layers.findSome? (·.steps.get? step) := by
  induction layers with
  | nil => rfl
  | cons layer rest ih =>
    have hrest := ih fun other ho => h other (by simp [ho])
    rw [List.foldr_cons, Layer.absorb, Assoc.get?_overlay_of_nodup (h layer (by simp)), hrest,
      List.findSome?_cons]
    cases Assoc.get? layer.steps step <;> rfl

theorem get?_flatten (h : c.Kempt) (step : String) : c.flatten.steps.get? step = c.stepOutput? step :=
  get?_foldr_absorb h step

theorem stepOutput?_eq (c : Context) (step : String) :
    c.stepOutput? step = (c.own.steps.get? step).or (c.outer.findSome? (·.steps.get? step)) := by
  rw [stepOutput?, layers, List.findSome?_cons]
  cases Assoc.get? c.own.steps step <;> rfl

theorem Kempt.fork (h : c.Kempt) : c.fork.Kempt := by
  intro layer hl
  rcases List.mem_cons.1 hl with rfl | hl
  · exact List.nodup_nil
  · exact h layer hl

/-- The second context says no less than the first one, and the same of all steps but some. -/
structure Extends (ids : List String) (c c' : Context) : Prop where
  outer : c'.outer = c.outer
  same : ∀ id, id ∉ ids → c'.own.steps.get? id = c.own.steps.get? id
  kempt : c.Kempt → c'.Kempt

theorem Extends.refl (ids : List String) (c : Context) : Extends ids c c := ⟨rfl, fun _ _ => rfl, id⟩

theorem Extends.mono (h : Extends ids c c') (hm : ∀ id ∈ ids, id ∈ more) : Extends more c c' :=
  ⟨h.outer, fun id hn => h.same id fun hi => hn (hm id hi), h.kempt⟩

theorem Extends.trans (h : Extends ids c c') (h' : Extends ids c' c'') : Extends ids c c'' :=
  ⟨h'.outer.trans h.outer, fun id hn => (h'.same id hn).trans (h.same id hn), fun hk => h'.kempt (h.kempt hk)⟩

theorem Extends.stepOutput?_eq (h : Extends ids c c') {id : String} (hn : id ∉ ids) :
    c'.stepOutput? id = c.stepOutput? id := by
  rw [Context.stepOutput?_eq, Context.stepOutput?_eq, h.same id hn, h.outer]

theorem extends_record (c : Context) (step : String) (output : Output) (key : Option String) :
    Extends [step] c (c.record step output key) := by
  have hsteps : (c.record step output key).own.steps = c.own.steps.put step output := by
    cases key <;> rfl
  refine ⟨rfl, fun id hn => ?_, fun hk layer hl => ?_⟩
  · rw [hsteps, Assoc.get?_put, if_neg fun he => hn (by simp [he])]
  · rcases List.mem_cons.1 hl with rfl | hl
    · rw [hsteps]
      exact Assoc.nodup_names_put (hk c.own (List.mem_cons_self ..)) _ _
    · exact hk layer (List.mem_cons_of_mem _ hl)

theorem stepOutput?_record (c : Context) (step : String) (output : Output) (key : Option String) :
    (c.record step output key).stepOutput? step = some output := by
  have hsteps : (c.record step output key).own.steps = c.own.steps.put step output := by
    cases key <;> rfl
  rw [stepOutput?_eq, hsteps, Assoc.get?_put, if_pos rfl]
  rfl

theorem extends_absorb {top : Layer} (hn : top.steps.names.Nodup)
    (ht : ∀ id, id ∉ ids → top.steps.get? id = none) :
    Extends ids c { c with own := c.own.absorb top } := by
  refine ⟨rfl, fun id hi => ?_, fun hk layer hl => ?_⟩
  · show (c.own.steps.overlay top.steps).get? id = _
    rw [Assoc.get?_overlay_of_nodup hn, ht id hi]
    rfl
  · rcases List.mem_cons.1 hl with rfl | hl
    · exact Assoc.nodup_names_overlay (hk c.own (List.mem_cons_self ..)) _
    · exact hk layer (List.mem_cons_of_mem _ hl)

theorem stepOutput?_absorb {top : Layer} (hn : top.steps.names.Nodup) (step : String) :
    ({ c with own := c.own.absorb top } : Context).stepOutput? step =
      (top.steps.get? step).or (c.stepOutput? step) := by
  rw [stepOutput?_eq, stepOutput?_eq]
  show ((c.own.steps.overlay top.steps).get? step).or _ = _
  rw [Assoc.get?_overlay_of_nodup hn, Option.or_assoc]

end Context

end Conductor
