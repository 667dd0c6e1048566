import Conductor.Json.Order
import Conductor.Proofs.Context
import Conductor.Proofs.Number.Value

/-! What documents are worth, and equality of documents. Two documents are told apart by what they are worth but
for one thing: below the top a truth value passes for the number that it counts as. -/

namespace Conductor

namespace Json

/-- A document up to the order of members and the kind of numbers. -/
inductive Value where
  | null
  | truth (b : Bool)
  | number (worth : Option Number.Worth)
  | text (s : String)
  | list (items : List Value)
  | table (members : String → Option Value)

/-- A truth value as the number that it counts as. -/
def Value.count (b : Bool) : Value := .number (Number.whole (if b then 1 else 0)).worth?

mutual

/-- What a document is worth, with truth values taken as told. -/
def value (truth : Bool → Value) : Json → Value
  | .null => .null
  | .bool b => truth b
  | .num n => .number n.worth?
  | .str s => .text s
  | .arr items => .list (valueItems truth items)
  | .obj members => .table (valueMembers truth members)

def valueItems (truth : Bool → Value) : List Json → List Value
  | [] => []
  | doc :: rest => value truth doc :: valueItems truth rest

def valueMembers (truth : Bool → Value) : List (String × Json) → String → Option Value
  | [], _ => none
  | (k, doc) :: rest, name => if k = name then some (value truth doc) else valueMembers truth rest name

end

theorem valueItems_eq (truth : Bool → Value) (items : List Json) :
    valueItems truth items = items.map (value truth) := by
  induction items with
  | nil => rfl
  | cons doc rest ih => rw [valueItems, ih, List.map_cons]

theorem valueMembers_eq (truth : Bool → Value) (members : Members) (name : String) :
    valueMembers truth members name = (members.get? name).map (value truth) := by
  induction members with
  | nil => rfl
  | cons entry rest ih =>
    obtain ⟨k, doc⟩ := entry
    rw [valueMembers, Assoc.get?, ih]
    split_ifs <;> rfl

/-- Every number in the document is one, and its objects name each member once. -/
inductive Definite : Json → Prop
  | null : Definite .null
  | bool (b : Bool) : Definite (.bool b)
  | num {n : Number} (h : n.isNaN = false) : Definite (.num n)
  | str (s : String) : Definite (.str s)
  | arr {items : List Json} (h : ∀ doc ∈ items, doc.Definite) : Definite (.arr items)
  | obj {members : Members} (hnames : members.names.Nodup) (h : ∀ entry ∈ members, entry.2.Definite) :
    Definite (.obj members)

namespace Definite

attribute [simp] Definite.null Definite.bool Definite.str

@[simp] theorem num_iff {n : Number} : Definite (.num n) ↔ n.isNaN = false :=
  ⟨fun | .num h => h, .num⟩

@[simp] theorem arr_iff {items : List Json} : Definite (.arr items) ↔ ∀ doc ∈ items, doc.Definite :=
  ⟨fun | .arr h => h, .arr⟩

@[simp] theorem obj_iff {members : Members} :
    Definite (.obj members) ↔ members.names.Nodup ∧ ∀ entry ∈ members, entry.2.Definite :=
  ⟨fun | .obj hnames h => ⟨hnames, h⟩, fun h => .obj h.1 h.2⟩

end Definite

/-- At the same place one document has a truth value and the other a number. -/
inductive Clash : Json → Json → Prop
  | left (b : Bool) (n : Number) : Clash (.bool b) (.num n)
  | right (n : Number) (b : Bool) : Clash (.num n) (.bool b)
  | item {xs ys : List Json} {i : Nat} {x y : Json} (hx : xs[i]? = some x) (hy : ys[i]? = some y) (h : Clash x y) :
    Clash (.arr xs) (.arr ys)
  | member {xs ys : Members} {name : String} {x y : Json} (hx : xs.get? name = some x) (hy : ys.get? name = some y)
    (h : Clash x y) : Clash (.obj xs) (.obj ys)

variable {x y z : Json}

theorem exists_worth {n : Number} (h : n.isNaN = false) : ∃ a, n.worth? = some a := by
  cases n with
  | whole k => exact ⟨_, rfl⟩
  | real r =>
    apply Option.ne_none_iff_exists'.1
    intro hnone
    have hnan : r.isNaN = true := Number.isNaN_iff.2 hnone
    exact Bool.false_ne_true (h.symm.trans hnan)

/-! Equality that takes truth values as numbers -/

theorem compare?_eq_iff {m n : Number} (hm : m.isNaN = false) :
    Number.compare? m n = some .eq ↔ m.worth? = n.worth? := by
  obtain ⟨a, ha⟩ := exists_worth hm
  rw [Number.compare?_eq, ha, Option.bind_some]
  cases n.worth? with
  | none => simp
  | some b => simp

theorem sameItems_iff {xs ys : List Json} (hys : ∀ y ∈ ys, y.Definite)
    (ih : ∀ x ∈ xs, ∀ y : Json, y.Definite → (same x y = true ↔ x.value .count = y.value .count)) :
    sameItems xs ys = true ↔ valueItems .count xs = valueItems .count ys := by
  induction xs generalizing ys with
  | nil => cases ys <;> simp [sameItems, valueItems]
  | cons x xs ihx =>
    cases ys with
    | nil => simp [sameItems, valueItems]
    | cons y ys =>
      have hhead := ih x List.mem_cons_self y (hys y List.mem_cons_self)
      have htail := ihx (fun y' h => hys y' (List.mem_cons_of_mem _ h)) fun x' h => ih x' (List.mem_cons_of_mem _ h)
      rw [sameItems, Bool.and_eq_true, hhead, htail, valueItems, valueItems, List.cons.injEq]

theorem sameMembers_iff_forall {xs ys : Members} :
    sameMembers xs ys = true ↔ ∀ entry ∈ xs, ∃ y, ys.get? entry.1 = some y ∧ same entry.2 y = true := by
  induction xs with
  | nil => simp [sameMembers]
  | cons entry xs ih =>
    obtain ⟨name, x⟩ := entry
    rw [sameMembers, Bool.and_eq_true, ih, List.forall_mem_cons]
    cases ys.get? name <;> simp

theorem sameMembers_iff {xs ys : Members} (hx : xs.names.Nodup) (hy : ys.names.Nodup)
    (hys : ∀ entry ∈ ys, entry.2.Definite)
    (ih : ∀ entry ∈ xs, ∀ y : Json, y.Definite → (same entry.2 y = true ↔ entry.2.value .count = y.value .count)) :
    (xs.length = ys.length ∧ sameMembers xs ys = true) ↔ valueMembers .count xs = valueMembers .count ys := by
  rw [sameMembers_iff_forall]
  constructor
  · rintro ⟨hlength, hall⟩
    have hsub : xs.names ⊆ ys.names := by
      intro name hm
      obtain ⟨entry, hentry, rfl⟩ := List.mem_map.1 hm
      obtain ⟨y, hget, -⟩ := hall entry hentry
      exact Assoc.mem_names_iff.2 ⟨y, hget⟩
    -- as many names on both sides, and none of them twice
    have hperm : xs.names.Perm ys.names :=
      (hx.subperm hsub).perm_of_length_le (by simp [Assoc.names, hlength])
    funext name
    rw [valueMembers_eq, valueMembers_eq]
    cases hget : xs.get? name with
    | none =>
      have hnot : name ∉ ys.names := by
        rw [← hperm.mem_iff, Assoc.mem_names_iff, hget]
        simp
      rw [Assoc.get?_eq_none_of_not_mem hnot]
    | some x =>
      obtain ⟨y, hgety, hsame⟩ := hall _ (Assoc.mem_of_get?_eq_some hget)
      have hvalue := (ih _ (Assoc.mem_of_get?_eq_some hget) y (hys _ (Assoc.mem_of_get?_eq_some hgety))).1 hsame
      rw [hgety, Option.map_some, Option.map_some, hvalue]
  · intro hvalues
    have hmap : ∀ name, (xs.get? name).map (value .count) = (ys.get? name).map (value .count) := by
      intro name
      rw [← valueMembers_eq, ← valueMembers_eq, hvalues]
    have hperm : xs.names.Perm ys.names := by
      rw [List.perm_ext_iff_of_nodup hx hy]
      intro name
      have hsome := congrArg Option.isSome (hmap name)
      rw [Option.isSome_map, Option.isSome_map] at hsome
      rw [Assoc.mem_names_iff, Assoc.mem_names_iff, ← Option.isSome_iff_exists, hsome, Option.isSome_iff_exists]
    refine ⟨by simpa [Assoc.names] using hperm.length_eq, fun entry hentry => ?_⟩
    have hentryy := hmap entry.1
    rw [Assoc.get?_of_mem_of_nodup hx hentry, Option.map_some] at hentryy
    obtain ⟨y, hget, hvalue⟩ := Option.map_eq_some_iff.1 hentryy.symm
    exact ⟨y, hget, (ih entry hentry y (hys _ (Assoc.mem_of_get?_eq_some hget))).2 hvalue.symm⟩

/-- Equality is equality of what documents are worth when truth values count as numbers. -/
theorem same_iff (hx : x.Definite) (hy : y.Definite) : same x y = true ↔ x.value .count = y.value .count := by
  induction hx generalizing y with
  | null => cases hy <;> simp [same, value, Value.count]
  | bool a =>
    cases hy with
    | bool b => cases a <;> cases b <;> simp [same, value, Value.count, Number.worth?]
    | num h => simp [same, value, Value.count, compare?_eq_iff (m := .whole _) rfl]
    | _ => simp [same, value, Value.count]
  | num hn =>
    cases hy with
    | bool b => simp [same, value, Value.count, compare?_eq_iff hn]
    | num h => simp [same, sameNumber, value, hn, compare?_eq_iff hn]
    | _ => simp [same, value]
  | str s => cases hy <;> simp [same, value, Value.count]
  | arr _ ih =>
    cases hy with
    | arr hys =>
      rw [same, value, value, Value.list.injEq]
      exact sameItems_iff hys fun x hx y hy => ih x hx hy
    | _ => simp [same, value, Value.count]
  | obj hnames _ ih =>
    cases hy with
    | obj hnamesy hys =>
      rw [same, value, value, Value.table.injEq, Bool.and_eq_true, decide_eq_true_iff]
      exact sameMembers_iff hnames hnamesy hys fun entry hentry y hy => ih entry hentry hy
    | _ => simp [same, value, Value.count]

/-! Truth values below the top -/

theorem map_eq_map_iff {o p : Option Json}
    (h : ∀ x ∈ o, ∀ y ∈ p, x.value .truth = y.value .truth ↔ x.value .count = y.value .count ∧ ¬ Clash x y) :
    o.map (value .truth) = p.map (value .truth) ↔
      o.map (value .count) = p.map (value .count) ∧ ∀ x ∈ o, ∀ y ∈ p, ¬ Clash x y := by
  cases o with
  | none => cases p <;> simp
  | some x =>
    cases p with
    | none => simp
    | some y => simpa using h x rfl y rfl

theorem clash_arr_iff {xs ys : List Json} :
    Clash (.arr xs) (.arr ys) ↔ ∃ i : Nat, ∃ x ∈ xs[i]?, ∃ y ∈ ys[i]?, Clash x y := by
  constructor
  · intro h
    cases h with
    | item hx hy h => exact ⟨_, _, hx, _, hy, h⟩
  · rintro ⟨i, x, hx, y, hy, h⟩
    exact .item hx hy h

theorem clash_obj_iff {xs ys : Members} :
    Clash (.obj xs) (.obj ys) ↔ ∃ name, ∃ x ∈ xs.get? name, ∃ y ∈ ys.get? name, Clash x y := by
  constructor
  · intro h
    cases h with
    | member hx hy h => exact ⟨_, _, hx, _, hy, h⟩
  · rintro ⟨name, x, hx, y, hy, h⟩
    exact .member hx hy h

theorem value_eq_iff (hx : x.Definite) : x.value .truth = y.value .truth ↔
    x.value .count = y.value .count ∧ ¬ Clash x y := by
  induction hx generalizing y with
  | null =>
    have hno : ¬ Clash .null y := nofun
    cases y <;> simp [value, Value.count, hno]
  | bool a =>
    cases y with
    | bool b =>
      have hno : ¬ Clash (.bool a) (.bool b) := nofun
      cases a <;> cases b <;> simp [value, Value.count, Number.worth?, hno]
    | num n => simp [value, Clash.left a n]
    | _ => simp [value, Value.count]
  | @num n hn =>
    cases y with
    | bool b => simp [value, Clash.right n b]
    | num m =>
      have hno : ¬ Clash (.num n) (.num m) := nofun
      simp [value, hno]
    | _ => simp [value]
  | str s =>
    have hno : ¬ Clash (.str s) y := nofun
    cases y <;> simp [value, Value.count, hno]
  | @arr xs _ ih =>
    cases y with
    | arr ys =>
      have hplace : ∀ i : Nat, ∀ x ∈ xs[i]?, ∀ y ∈ ys[i]?, _ := fun i x hx y _ =>
        ih x (List.mem_of_getElem? hx) (y := y)
      simp only [value, Value.list.injEq, valueItems_eq, List.ext_getElem?_iff, List.getElem?_map, clash_arr_iff,
        not_exists, not_and, map_eq_map_iff (hplace _), forall_and]
    | _ => simp [value, Value.count]
  | @obj xs hnames _ ih =>
    cases y with
    | obj ys =>
      have hplace : ∀ name, ∀ x ∈ Assoc.get? xs name, ∀ y ∈ Assoc.get? ys name, _ := fun name x hx y _ =>
        ih (name, x) (Assoc.mem_of_get?_eq_some hx) (y := y)
      simp only [value, Value.table.injEq, funext_iff, valueMembers_eq, clash_obj_iff, not_exists, not_and,
        map_eq_map_iff (hplace _), forall_and]
    | _ => simp [value, Value.count]

/-- Two documents that only a truth value below the top tells apart. -/
def Confused (x y : Json) : Prop := x.isTruth = y.isTruth ∧ x.value .count = y.value .count ∧ Clash x y

theorem isTruth_eq_of_value_eq (h : x.value .truth = y.value .truth) : x.isTruth = y.isTruth := by
  cases x <;> cases y <;> simp [value] at h <;> rfl

theorem identical_iff (hx : x.Definite) (hy : y.Definite) :
    identical x y = true ↔ x.isTruth = y.isTruth ∧ x.value .count = y.value .count := by
  have hnan : x.isNaN = false := by
    cases x with
    | num n => exact Definite.num_iff.1 hx
    | _ => rfl
  simp [identical, hnan, same_iff hx hy]

/-- Documents are held to be the same when they are equal, and also when they are confused. -/
theorem same_but_for_nested_truths (hx : x.Definite) (hy : y.Definite) :
    (compareBy .same x y = true ↔ x.value .truth = y.value .truth ∨ Confused x y) ∧
      (Confused x y → x.value .truth ≠ y.value .truth) ∧ compareBy .differs x y = !compareBy .same x y := by
  refine ⟨?_, fun hconfused hequal => ((value_eq_iff hx).1 hequal).2 hconfused.2.2, rfl⟩
  show identical x y = true ↔ _
  rw [identical_iff hx hy]
  constructor
  · rintro ⟨htruth, hcount⟩
    by_cases hclash : Clash x y
    · exact .inr ⟨htruth, hcount, hclash⟩
    · exact .inl ((value_eq_iff hx).2 ⟨hcount, hclash⟩)
  · rintro (hequal | ⟨htruth, hcount, -⟩)
    · exact ⟨isTruth_eq_of_value_eq hequal, ((value_eq_iff hx).1 hequal).1⟩
    · exact ⟨htruth, hcount⟩

example : compareBy .same (.arr [.bool true]) (.arr [.int 1]) = true := by decide

theorem same_but_for_nested_truths_of_members :
    compareBy .same (.obj [("n", .arr [.int 1, .null]), ("t", .bool true)])
      (.obj [("t", .bool true), ("n", .arr [.real 1.0, .null])]) = true := by
  have hone : (Number.real 1.0).isNaN = false := by decide
  have hx : (Json.obj [("n", .arr [.int 1, .null]), ("t", .bool true)]).Definite := by
    simp [Assoc.names, Json.int, Number.isNaN]
  have hy : (Json.obj [("t", .bool true), ("n", .arr [.real 1.0, .null])]).Definite := by
    simp [Assoc.names, Json.real, hone]
  apply (same_but_for_nested_truths hx hy).1.2
  left
  have hworth : (Number.whole 1).worth? = (Number.real 1.0).worth? := (compare?_eq_iff rfl).1 (by decide)
  have htables : ∀ name, valueMembers .truth [("n", .arr [.int 1, .null]), ("t", .bool true)] name =
      valueMembers .truth [("t", .bool true), ("n", .arr [.real 1.0, .null])] name := by
    intro name
    simp only [valueMembers, value, valueItems, Json.int, Json.real, hworth]
    by_cases hn : "n" = name
    · subst hn
      rfl
    · simp [hn]
  exact congrArg Value.table (funext htables)

end Json

end Conductor
