import Conductor.Proofs.Except
import Conductor.Proofs.Template.Dependence

/-! Which texts of a document are read for the names of steps, when they can be read, and which names
they give. -/

namespace Conductor

variable {ε α β : Type}

/-- `found` is all that `read` finds in the texts, and there is nothing to find when one of them
cannot be read. -/
structure Gathers (read : β → Except ε (List α)) (texts : β → Prop) (found : Except ε (List α)) : Prop where
  readable : (∃ names, found = .ok names) ↔ ∀ s, texts s → ∃ names, read s = .ok names
  names : ∀ {names}, found = .ok names →
    ∀ name, name ∈ names ↔ ∃ s, texts s ∧ ∃ own, read s = .ok own ∧ name ∈ own

namespace Gathers

variable {read : β → Except ε (List α)} {texts more : β → Prop} {found others : Except ε (List α)}

theorem none (h : ∀ s, ¬ texts s) : Gathers read texts (.ok []) where
  readable := ⟨fun _ s hs => absurd hs (h s), fun _ => ⟨[], rfl⟩⟩
  names he name := by
    cases he
    exact ⟨nofun, fun ⟨s, hs, _⟩ => absurd hs (h s)⟩

theorem one (s : β) : Gathers read (· = s) (read s) where
  readable := ⟨fun h other ho => ho ▸ h, fun h => h s rfl⟩
  names h name := by
    constructor
    · exact fun hn => ⟨s, rfl, _, h, hn⟩
    · rintro ⟨other, rfl, own, ho, hn⟩
      cases h.symm.trans ho
      exact hn

theorem congr (h : Gathers read texts found) (hiff : ∀ s, more s ↔ texts s) : Gathers read more found := by
  obtain rfl : more = texts := funext fun s => propext (hiff s)
  exact h

theorem append (hf : Gathers read texts found) (ho : Gathers read more others) :
    Gathers read (fun s => texts s ∨ more s) (do
      let a ← found
      let b ← others
      return a ++ b) where
  readable := by
    constructor
    · rintro ⟨names, h⟩ s (hs | hs)
      · obtain ⟨a, ha, _⟩ := bind_eq_ok h
        exact hf.readable.1 ⟨a, ha⟩ s hs
      · obtain ⟨a, _, h⟩ := bind_eq_ok h
        obtain ⟨b, hb, _⟩ := bind_eq_ok h
        exact ho.readable.1 ⟨b, hb⟩ s hs
    · intro h
      obtain ⟨a, rfl⟩ := hf.readable.2 fun s hs => h s (.inl hs)
      obtain ⟨b, rfl⟩ := ho.readable.2 fun s hs => h s (.inr hs)
      exact ⟨a ++ b, rfl⟩
  names {names} h name := by
    obtain ⟨a, ha, h⟩ := bind_eq_ok h
    obtain ⟨b, hb, h⟩ := bind_eq_ok h
    cases h
    rw [List.mem_append, hf.names ha, ho.names hb]
    constructor
    · rintro (⟨s, hs, hown⟩ | ⟨s, hs, hown⟩)
      · exact ⟨s, .inl hs, hown⟩
      · exact ⟨s, .inr hs, hown⟩
    · rintro ⟨s, hs | hs, hown⟩
      · exact .inl ⟨s, hs, hown⟩
      · exact .inr ⟨s, hs, hown⟩

end Gathers

/-- A text that a document holds at any depth; the names of members are not among them. -/
inductive Json.Holds (s : String) : Json → Prop
  | text : Holds s (.str s)
  | item {doc : Json} {items : List Json} : doc ∈ items → Holds s doc → Holds s (.arr items)
  | member {name : String} {doc : Json} {members : List (String × Json)} :
    (name, doc) ∈ members → Holds s doc → Holds s (.obj members)

namespace Template

/-- A text with a placeholder has to compile; any other stands for itself. -/
def Parses (s : String) : Prop := hasHole s = true → ∃ t, compile s = .ok t

/-- A condition, or the field of a rule: without a placeholder it is one expression, unless it is blank. -/
def ParsesBare (s : String) : Prop :=
  Parses s ∧ (hasHole s = false → trim s ≠ "" → ∃ e, Expression.parse (trim s) = .ok e)

/-- A placeholder of the text reads the step of that id. -/
def Names (s id : String) : Prop :=
  hasHole s = true ∧ ∃ t, compile s = .ok t ∧ ∃ e ∈ t.expressions, id ∈ e.references

/-- The same of a text that is an expression when it has no placeholder. -/
def NamesBare (s id : String) : Prop :=
  Names s id ∨ hasHole s = false ∧ ∃ e, Expression.parse (trim s) = .ok e ∧ id ∈ e.references

theorem textReferences_readable {s : String} : (∃ names, textReferences s = .ok names) ↔ Parses s := by
  rw [textReferences, Parses]
  by_cases hs : hasHole s = true
  · rw [if_pos hs]
    cases compile s with
    | error e => simp [Except.map, hs]
    | ok t => simp [Except.map]
  · simp [hs]

theorem mem_textReferences {s id : String} :
    (∃ names, textReferences s = .ok names ∧ id ∈ names) ↔ Names s id := by
  rw [textReferences, Names]
  by_cases hs : hasHole s = true
  · rw [if_pos hs]
    cases compile s with
    | error e => simp [Except.map]
    | ok t => simp [Except.map, hs]
  · simp [hs]

theorem bareReferences_readable {s : String} : (∃ names, bareReferences s = .ok names) ↔ ParsesBare s := by
  rw [bareReferences, ParsesBare]
  by_cases hs : hasHole s = true
  · rw [if_pos hs, textReferences_readable]
    simp [hs]
  · have hplain : Parses s := fun h => absurd h hs
    rw [if_neg hs]
    by_cases hblank : trim s = ""
    · simp [hblank, hplain]
    · rw [if_neg hblank]
      cases Expression.parse (trim s) with
      | error e => simp [Except.map, hs, hblank]
      | ok e => simp [Except.map, hplain]

theorem mem_bareReferences {s id : String} :
    (∃ names, bareReferences s = .ok names ∧ id ∈ names) ↔ NamesBare s id := by
  rw [bareReferences, NamesBare]
  by_cases hs : hasHole s = true
  · rw [if_pos hs, mem_textReferences]
    simp [hs]
  · have hnames : ¬ Names s id := fun h => hs h.1
    rw [if_neg hs]
    by_cases hblank : trim s = ""
    · simp [hblank, hnames, parse_empty]
    · rw [if_neg hblank]
      cases Expression.parse (trim s) with
      | error e => simp [Except.map, hnames]
      | ok e => simp [Except.map, hnames, hs]

mutual

theorem gathers_references (doc : Json) :
    Gathers textReferences (Json.Holds · doc) (references doc) := by
  cases doc with
  | str s =>
    refine (Gathers.one s).congr fun other => ⟨fun h => ?_, fun h => h ▸ .text⟩
    cases h
    rfl
  | arr items =>
    refine (gathers_itemReferences items).congr fun s => ⟨fun h => ?_, fun ⟨doc, hd, h⟩ => .item hd h⟩
    cases h with
    | item hd h => exact ⟨_, hd, h⟩
  | obj members =>
    refine (gathers_memberReferences members).congr fun s =>
      ⟨fun h => ?_, fun ⟨name, doc, hd, h⟩ => .member hd h⟩
    cases h with
    | member hd h => exact ⟨_, _, hd, h⟩
  | null => exact .none nofun
  | bool b => exact .none nofun
  | num n => exact .none nofun

theorem gathers_itemReferences (items : List Json) :
    Gathers textReferences (fun s => ∃ doc ∈ items, Json.Holds s doc) (itemReferences items) := by
  cases items with
  | nil => exact .none (by simp)
  | cons doc rest =>
    rw [itemReferences]
    refine ((gathers_references doc).append (gathers_itemReferences rest)).congr fun s => ?_
    simp

theorem gathers_memberReferences (members : List (String × Json)) :
    Gathers textReferences (fun s => ∃ name doc, (name, doc) ∈ members ∧ Json.Holds s doc)
      (memberReferences members) := by
  match members with
  | [] => exact .none (by simp)
  | (name, doc) :: rest =>
    rw [memberReferences]
    refine ((gathers_references doc).append (gathers_memberReferences rest)).congr fun s => ?_
    constructor
    · rintro ⟨other, held, hm, h⟩
      rcases List.mem_cons.1 hm with he | hm
      · cases he
        exact .inl h
      · exact .inr ⟨other, held, hm, h⟩
    · rintro (h | ⟨other, held, hm, h⟩)
      · exact ⟨name, doc, List.mem_cons_self, h⟩
      · exact ⟨other, held, List.mem_cons_of_mem _ hm, h⟩

end

end Template

end Conductor
