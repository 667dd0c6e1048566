import Conductor.Proofs.Context
import Conductor.Template

/-! What a context shows. Writing one layer onto another is associative, entries and their order alike,
once every layer names each entry once; so what a level writes can be moved down to the level below it
and nothing is seen of it. -/

namespace Conductor

namespace Assoc

variable {α : Type} {t top : Assoc α} {name other : String} {value : α}

theorem mem_names_overlay : other ∈ (t.overlay top).names ↔ other ∈ t.names ∨ other ∈ top.names := by
  induction top generalizing t with
  | nil => simp [overlay, names]
  | cons entry rest ih =>
    obtain ⟨k, v⟩ := entry
    have hstep : t.overlay ((k, v) :: rest) = (t.put k v).overlay rest := rfl
    have hcons : names ((k, v) :: rest) = k :: names rest := rfl
    rw [hstep, ih, mem_names_put, hcons, List.mem_cons]
    exact or_assoc.trans or_left_comm

theorem put_put (t : Assoc α) (name : String) (first second : α) :
    (t.put name first).put name second = t.put name second := by
  induction t with
  | nil => simp [put]
  | cons entry rest ih =>
    obtain ⟨k, v⟩ := entry
    by_cases hk : k = name
    · simp [put, hk]
    · simp [put, hk, ih]

/-- A name that is present keeps its place, so a write to it may come before or after another. -/
theorem put_comm (h : name ∈ t.names) (hne : other ≠ name) (value value' : α) :
    (t.put name value).put other value' = (t.put other value').put name value := by
  induction t with
  | nil => simp [names] at h
  | cons entry rest ih =>
    obtain ⟨k, v⟩ := entry
    by_cases hk : k = name
    · subst hk
      simp [put, hne.symm]
    · by_cases ho : k = other
      · subst ho
        simp [put, hk]
      · have hrest : name ∈ names rest := (List.mem_cons.1 h).resolve_left (Ne.symm hk)
        simp [put, hk, ho, ih hrest]

theorem put_overlay_comm (h : name ∈ t.names) (hn : name ∉ top.names) (value : α) :
    (t.put name value).overlay top = (t.overlay top).put name value := by
  induction top generalizing t with
  | nil => rfl
  | cons entry rest ih =>
    obtain ⟨k, v⟩ := entry
    have hk : k ≠ name := fun he => hn (he ▸ List.mem_cons_self ..)
    have hrest : name ∉ names rest := fun hm => hn (List.mem_cons_of_mem _ hm)
    calc (t.put name value).overlay ((k, v) :: rest)
        = ((t.put name value).put k v).overlay rest := rfl
      _ = ((t.put k v).put name value).overlay rest := by rw [put_comm h hk]
      _ = ((t.put k v).overlay rest).put name value := ih (mem_names_put.2 (.inr h)) hrest

theorem put_overlay (t : Assoc α) (h : top.names.Nodup) (name : String) (value : α) :
    (t.overlay top).put name value = t.overlay (top.put name value) := by
  induction top generalizing t with
  | nil => rfl
  | cons entry rest ih =>
    obtain ⟨k, v⟩ := entry
    rw [names, List.map_cons, List.nodup_cons] at h
    by_cases hk : k = name
    · subst hk
      have hput : put ((k, v) :: rest) k value = (k, value) :: rest := by simp [put]
      calc (t.overlay ((k, v) :: rest)).put k value
          = ((t.put k v).overlay rest).put k value := rfl
        _ = ((t.put k v).put k value).overlay rest :=
            (put_overlay_comm (mem_names_put.2 (.inl rfl)) h.1 value).symm
        _ = (t.put k value).overlay rest := by rw [put_put]
        _ = t.overlay (put ((k, v) :: rest) k value) := by rw [hput]; rfl
    · have hput : put ((k, v) :: rest) name value = (k, v) :: put rest name value := by simp [put, hk]
      rw [hput]
      exact ih (t.put k v) h.2

theorem overlay_assoc (t : Assoc α) {mid : Assoc α} (h : mid.names.Nodup) (top : Assoc α) :
    (t.overlay mid).overlay top = t.overlay (mid.overlay top) := by
  induction top generalizing mid with
  | nil => rfl
  | cons entry rest ih =>
    obtain ⟨k, v⟩ := entry
    calc (t.overlay mid).overlay ((k, v) :: rest)
        = ((t.overlay mid).put k v).overlay rest := rfl
      _ = (t.overlay (mid.put k v)).overlay rest := by rw [put_overlay t h]
      _ = t.overlay ((mid.put k v).overlay rest) := ih (nodup_names_put h k v)

end Assoc

namespace Layer

variable {l mid top : Layer} {id : String}

/-- Every table of the layer names each entry once. -/
structure Tidy (l : Layer) : Prop where
  steps : l.steps.names.Nodup
  outputs : l.outputs.names.Nodup
  keys : l.keys.names.Nodup

theorem tidy_empty : ({} : Layer).Tidy := ⟨List.nodup_nil, List.nodup_nil, List.nodup_nil⟩

theorem Tidy.record (h : l.Tidy) (step : String) (output : Output) (key : Option String) :
    (l.record step output key).Tidy := by
  cases key with
  | none => exact ⟨Assoc.nodup_names_put h.steps _ _, h.outputs, h.keys⟩
  | some key =>
    exact ⟨Assoc.nodup_names_put h.steps _ _, Assoc.nodup_names_put h.outputs _ _,
      Assoc.nodup_names_put h.keys _ _⟩

theorem Tidy.absorb (h : l.Tidy) (top : Layer) : (l.absorb top).Tidy :=
  ⟨Assoc.nodup_names_overlay h.steps _, Assoc.nodup_names_overlay h.outputs _,
    Assoc.nodup_names_overlay h.keys _⟩

theorem absorb_assoc (l : Layer) (h : mid.Tidy) (top : Layer) :
    (l.absorb mid).absorb top = l.absorb (mid.absorb top) := by
  simp only [absorb, Assoc.overlay_assoc _ h.steps, Assoc.overlay_assoc _ h.outputs,
    Assoc.overlay_assoc _ h.keys]

theorem record_absorb (l : Layer) (h : top.Tidy) (step : String) (output : Output) (key : Option String) :
    (l.absorb top).record step output key = l.absorb (top.record step output key) := by
  cases key with
  | none => simp only [absorb, record, Assoc.put_overlay _ h.steps]
  | some key =>
    simp only [absorb, record, Assoc.put_overlay _ h.steps, Assoc.put_overlay _ h.outputs,
      Assoc.put_overlay _ h.keys]

/-- The first layer has an entry for every step and key that the second one has. -/
structure Covers (l l' : Layer) : Prop where
  steps : ∀ id ∈ l'.steps.names, id ∈ l.steps.names
  outputs : ∀ id ∈ l'.outputs.names, id ∈ l.outputs.names

theorem Covers.refl (l : Layer) : l.Covers l := ⟨fun _ h => h, fun _ h => h⟩

theorem Covers.trans {l' l'' : Layer} (h : l'.Covers l) (h' : l''.Covers l') : l''.Covers l :=
  ⟨fun id hi => h'.steps id (h.steps id hi), fun id hi => h'.outputs id (h.outputs id hi)⟩

theorem covers_record (l : Layer) (step : String) (output : Output) (key : Option String) :
    (l.record step output key).Covers l := by
  cases key with
  | none => exact ⟨fun id hi => Assoc.mem_names_put.2 (.inr hi), fun id hi => hi⟩
  | some key => exact ⟨fun id hi => Assoc.mem_names_put.2 (.inr hi), fun id hi => Assoc.mem_names_put.2 (.inr hi)⟩

theorem covers_absorb (l top : Layer) : (l.absorb top).Covers l :=
  ⟨fun _ hi => Assoc.mem_names_overlay.2 (.inl hi), fun _ hi => Assoc.mem_names_overlay.2 (.inl hi)⟩

theorem Covers.absorb {l' top' : Layer} (h : l'.Covers l) (ht : top'.Covers top) :
    (l'.absorb top').Covers (l.absorb top) := by
  refine ⟨fun id hi => ?_, fun id hi => ?_⟩
  · exact Assoc.mem_names_overlay.2 ((Assoc.mem_names_overlay.1 hi).imp (h.steps id) (ht.steps id))
  · exact Assoc.mem_names_overlay.2 ((Assoc.mem_names_overlay.1 hi).imp (h.outputs id) (ht.outputs id))

end Layer

namespace Context

variable {c c' : Context}

/-- Every level names each of its entries once. -/
def Tidy (c : Context) : Prop := ∀ layer ∈ c.layers, layer.Tidy

theorem Tidy.own (h : c.Tidy) : c.own.Tidy := h c.own (List.mem_cons_self ..)

theorem Tidy.of_own (h : c.Tidy) (hown : c'.own.Tidy) (houter : c'.outer = c.outer) : c'.Tidy := by
  intro layer hl
  rcases List.mem_cons.1 hl with rfl | hl
  · exact hown
  · exact h layer (List.mem_cons_of_mem _ (houter ▸ hl))

theorem flatten_eq (c : Context) :
    c.flatten = (c.outer.foldr (fun top acc => Layer.absorb acc top) {}).absorb c.own := rfl

/-- Writes onto the nearest level are writes onto all that is visible. -/
theorem flatten_absorb (h : c.Tidy) (top : Layer) :
    ({ c with own := c.own.absorb top } : Context).flatten = c.flatten.absorb top := by
  rw [flatten_eq, flatten_eq, Layer.absorb_assoc _ h.own]

theorem flatten_record (h : c.Tidy) (step : String) (output : Output) (key : Option String) :
    (c.record step output key).flatten = c.flatten.record step output key := by
  rw [flatten_eq, flatten_eq, Layer.record_absorb _ h.own]
  rfl

theorem get?_keys_foldr_absorb {layers : List Layer} (h : ∀ layer ∈ layers, layer.Tidy) (step : String) :
    (layers.foldr (fun top acc => Layer.absorb acc top) {}).keys.get? step =
      layers.findSome? (·.keys.get? step) := by
  induction layers with
  | nil => rfl
  | cons layer rest ih =>
    have hrest := ih fun other ho => h other (by simp [ho])
    rw [List.foldr_cons, Layer.absorb, Assoc.get?_overlay_of_nodup (h layer (by simp)).keys, hrest,
      List.findSome?_cons]
    cases Assoc.get? layer.keys step <;> rfl

theorem keyFor_eq (h : c.Tidy) (step : String) :
    c.keyFor step = (c.flatten.keys.get? step).getD step := by
  rw [keyFor, flatten, get?_keys_foldr_absorb h]

theorem levels_foldr (layers : List Layer) :
    ((layers.map (·.steps)).foldr (fun top acc => Assoc.overlay acc top) []) =
      (layers.foldr (fun top acc => Layer.absorb acc top) {}).steps := by
  induction layers with
  | nil => rfl
  | cons layer rest ih =>
    rw [List.map_cons, List.foldr_cons, List.foldr_cons, ih]
    rfl

theorem tables_view (c : Context) : c.view.tables = [] :: (Output.table c.flatten.steps).tables := by
  have hfold := levels_foldr c.layers
  rw [View.tables, if_neg (by simp [view, levels, layers])]
  exact congrArg (fun entries => [] :: (Output.table entries).tables) hfold

/-- An expression reads no more than the input and the visible steps. -/
theorem expression_eq (hinput : c.input = c'.input) (hflatten : c.flatten = c'.flatten) (e : Expression) :
    Template.checked c.view e = Template.checked c'.view e ∧ e.output c.view = e.output c'.view := by
  have hsteps : c.view.steps = c'.view.steps := by
    rw [view, view, stepsView, stepsView, steps, steps, hflatten]
  have htables : c.view.tables = c'.view.tables := by rw [tables_view, tables_view, hflatten]
  have hread (source : Source) : c.view.read source = c'.view.read source := by
    cases source with
    | input => exact hinput
    | steps => exact hsteps
    | subject => rfl
  have hvalue (o : Operand) : o.evaluate c.view = o.evaluate c'.view := by
    cases o with
    | literal value => rfl
    | path source accessors => simp only [Operand.evaluate, hread]
  have hlong (o : Operand) : o.longMember? c.view = o.longMember? c'.view := by
    cases o with
    | literal value => rfl
    | path source accessors => simp only [Operand.longMember?, hread]
  have htable (o : Operand) : o.tables c.view = o.tables c'.view := by
    cases o with
    | literal value => rfl
    | path source accessors => cases source <;> simp only [Operand.tables, htables]
  have hevaluate : e.evaluate c.view = e.evaluate c'.view := by
    cases e <;> simp only [Expression.evaluate, hvalue]
  refine ⟨?_, ?_⟩
  · have hlongs : e.longMember? c.view = e.longMember? c'.view := by
      cases e <;> simp only [Expression.longMember?, hlong]
    rw [Template.checked, Template.checked, hlongs, hevaluate]
  · have hplaces : e.tables c.view = e.tables c'.view := by
      cases e <;> simp only [Expression.tables, htable]
    rw [Expression.output, Expression.output, hevaluate, hplaces]

end Context

end Conductor
