import Conductor.Output
import Mathlib.Data.List.Nodup

/-! Outputs with their tables closed. A table in a list of entries is closed where it stands, so that closing a
list is closing its entries. -/

namespace Conductor

namespace Place

theorem below_append (name : String) (first second : List Place) :
    below name (first ++ second) = below name first ++ below name second := List.filterMap_append

theorem below_within_self (name : String) (places : List Place) : below name (within name places) = places := by
  have hpart : (fun place : Place => if place.head? = some name then some place.tail else none) ∘ (name :: ·) =
      some := funext fun _ => if_pos rfl
  rw [below, within, List.filterMap_map, hpart, List.filterMap_some]

theorem below_within_of_ne {name other : String} (h : other ≠ name) (places : List Place) :
    below name (within other places) = [] := by
  simp [below, within, h]

theorem nil_not_mem_within (name : String) (places : List Place) : [] ∉ within name places := by
  simp [within]

end Place

namespace Json

mutual

theorem fillAt_nil (text : String) (doc : Json) : fillAt text [] doc = doc := by
  cases doc with
  | arr items => rw [fillAt, if_neg List.not_mem_nil, fillItems_nil]
  | obj members => rw [fillAt, if_neg List.not_mem_nil, fillMembers_nil]
  | _ => rfl

theorem fillItems_nil (text : String) (n : Nat) (items : List Json) : fillItems text [] n items = items := by
  cases items with
  | nil => rfl
  | cons doc rest =>
    rw [fillItems, fillItems_nil text (n + 1) rest]
    exact congrArg (· :: rest) (fillAt_nil text doc)

theorem fillMembers_nil (text : String) (members : List (String × Json)) : fillMembers text [] members = members := by
  cases members with
  | nil => rfl
  | cons entry rest =>
    obtain ⟨name, doc⟩ := entry
    rw [fillMembers, fillMembers_nil text rest]
    exact congrArg (fun filled => (name, filled) :: rest) (fillAt_nil text doc)

end

end Json

namespace Output

variable {levels : List (Assoc Output)}

theorem closed_of_not_open {output : Output} (h : output.isOpen = false) : output.closed levels = output.value := by
  rw [closed, h]
  rfl

theorem closed_eq_fillAt (output : Output) :
    output.closed levels = output.value.fillAt (tableText levels) output.tables := by
  cases h : output.isOpen with
  | true => rw [closed, if_pos h]
  | false =>
    have hnone : output.tables = [] := by simpa [isOpen] using h
    rw [closed_of_not_open h, hnone, Json.fillAt_nil]

theorem stored_snapshot (output : Output) : (output.snapshot levels).stored = output.closed levels := by
  unfold snapshot Snapshot.stored closed
  cases output.isOpen <;> rfl

def tablesOf (entries : Assoc Output) : List Place := entries.flatMap fun entry => Place.within entry.1 entry.2.tables

theorem below_tablesOf_of_not_mem {entries : Assoc Output} {name : String} (h : name ∉ entries.names) :
    Place.below name (tablesOf entries) = [] := by
  induction entries with
  | nil => rfl
  | cons entry rest ih =>
    simp only [Assoc.names, List.map_cons, List.mem_cons, not_or] at h
    rw [tablesOf, List.flatMap_cons, Place.below_append, Place.below_within_of_ne (Ne.symm h.1), List.nil_append]
    exact ih h.2

/-- Places that lead through other names do not count. -/
theorem fillMembers_tablesOf {text : String} {entries : Assoc Output} (h : entries.names.Nodup) (places : List Place)
    (hplaces : ∀ name ∈ entries.names, Place.below name places = []) :
    Json.fillMembers text (places ++ tablesOf entries) (entries.map fun entry => (entry.1, entry.2.value)) =
      entries.map fun entry => (entry.1, entry.2.value.fillAt text entry.2.tables) := by
  induction entries generalizing places with
  | nil => rfl
  | cons entry rest ih =>
    obtain ⟨name, output⟩ := entry
    rw [Assoc.names, List.map_cons, List.nodup_cons] at h
    have hfirst : Place.below name (places ++ tablesOf ((name, output) :: rest)) = output.tables := by
      rw [Place.below_append, hplaces name (List.mem_cons_self ..), List.nil_append, tablesOf, List.flatMap_cons,
        Place.below_append, Place.below_within_self]
      exact (congrArg _ (below_tablesOf_of_not_mem h.1)).trans (List.append_nil _)
    have hrest := ih h.2 (places ++ Place.within name output.tables) fun other ho => by
      rw [Place.below_append, hplaces other (List.mem_cons_of_mem _ ho), List.nil_append]
      exact Place.below_within_of_ne (fun he : name = other => h.1 (he ▸ ho)) _
    rw [List.append_assoc] at hrest
    rw [List.map_cons, Json.fillMembers, hfirst]
    exact congrArg (_ :: ·) hrest

theorem closed_ofEntries {entries : Assoc Output} (h : entries.names.Nodup) :
    (ofEntries entries).closed levels = .obj (entries.map fun entry => (entry.1, entry.2.closed levels)) := by
  have hroot : [] ∉ tablesOf entries := by
    rw [tablesOf, List.mem_flatMap]
    rintro ⟨entry, -, hm⟩
    exact Place.nil_not_mem_within _ _ hm
  rw [closed_eq_fillAt]
  show Json.fillAt (tableText levels) (tablesOf entries) (.obj (entries.map fun entry => (entry.1, entry.2.value))) = _
  rw [Json.fillAt, if_neg hroot]
  simp only [closed_eq_fillAt]
  exact congrArg Json.obj (fillMembers_tablesOf h [] fun _ _ => rfl)

end Output

end Conductor
