import Conductor.Proofs.Json.Equality

/-! The order of documents. It is one of what documents are worth when truth values count as numbers: numbers and
texts are in order, and lists by the first place where they differ. -/

namespace Conductor

namespace Json

namespace Value

open Classical in
mutual

/-- How two values compare, where they are in order. -/
noncomputable def order? : Value → Value → Option Ordering
  | .number a, .number b => a.bind fun a => b.map (compare a)
  | .text s, .text t => some (compare s t)
  | .list xs, .list ys => orderItems? xs ys
  | _, _ => none

noncomputable def orderItems? : List Value → List Value → Option Ordering
  | [], [] => some .eq
  | [], _ :: _ => some .lt
  | _ :: _, [] => some .gt
  | x :: xs, y :: ys => if x = y then orderItems? xs ys else order? x y

end

mutual

theorem order?_swap (x y : Value) : y.order? x = (x.order? y).map Ordering.swap := by
  cases x with
  | number a =>
    cases y with
    | number b =>
      cases a with
      | none => cases b <;> rfl
      | some a =>
        cases b with
        | none => rfl
        | some b => exact congrArg some Std.OrientedCmp.eq_swap
    | _ => rfl
  | text s =>
    cases y with
    | text t => exact congrArg some Std.OrientedCmp.eq_swap
    | _ => rfl
  | list xs =>
    cases y with
    | list ys => exact orderItems?_swap xs ys
    | _ => rfl
  | _ => cases y <;> rfl

theorem orderItems?_swap (xs ys : List Value) : orderItems? ys xs = (orderItems? xs ys).map Ordering.swap := by
  cases xs with
  | nil => cases ys <;> rfl
  | cons x xs =>
    cases ys with
    | nil => rfl
    | cons y ys =>
      rw [orderItems?, orderItems?]
      by_cases h : x = y
      · rw [if_pos h, if_pos h.symm, orderItems?_swap xs ys]
      · rw [if_neg h, if_neg (Ne.symm h), order?_swap x y]

end

mutual

theorem eq_of_order? {x y : Value} (h : x.order? y = some .eq) : x = y := by
  cases x with
  | number a =>
    cases y with
    | number b =>
      obtain ⟨a, rfl, hb⟩ := Option.bind_eq_some_iff.1 h
      obtain ⟨b, rfl, hab⟩ := Option.map_eq_some_iff.1 hb
      rw [compare_eq_iff_eq.1 hab]
    | _ => cases h
  | text s =>
    cases y with
    | text t => rw [compare_eq_iff_eq.1 (Option.some.inj h)]
    | _ => cases h
  | list xs =>
    cases y with
    | list ys => rw [eq_of_orderItems? h]
    | _ => cases h
  | _ => cases y <;> cases h

theorem eq_of_orderItems? {xs ys : List Value} (h : orderItems? xs ys = some .eq) : xs = ys := by
  cases xs with
  | nil =>
    cases ys with
    | nil => rfl
    | cons y ys => cases h
  | cons x xs =>
    cases ys with
    | nil => cases h
    | cons y ys =>
      rw [orderItems?] at h
      by_cases he : x = y
      · rw [if_pos he] at h
        rw [he, eq_of_orderItems? h]
      · rw [if_neg he] at h
        exact absurd (eq_of_order? h) he

end

theorem order?_self {x : Value} {o : Ordering} (h : x.order? x = some o) : o = .eq := by
  have hswap := order?_swap x x
  rw [h] at hswap
  cases o <;> cases hswap
  rfl

theorem order?_asymm {x y : Value} (h : x.order? y = some .lt) : y.order? x ≠ some .lt := by
  rw [order?_swap x y, h]
  nofun

mutual

theorem order?_trans {x y z : Value} (hxy : x.order? y = some .lt) (hyz : y.order? z = some .lt) :
    x.order? z = some .lt := by
  cases x with
  | number a =>
    cases y with
    | number b =>
      cases z with
      | number c =>
        obtain ⟨a, rfl, hb⟩ := Option.bind_eq_some_iff.1 hxy
        obtain ⟨b, rfl, hab⟩ := Option.map_eq_some_iff.1 hb
        obtain ⟨c, rfl, hbc⟩ := Option.map_eq_some_iff.1 hyz
        have hac := (compare_lt_iff_lt.1 hab).trans (compare_lt_iff_lt.1 hbc)
        exact congrArg some (compare_lt_iff_lt.2 hac)
      | _ => cases hyz
    | _ => cases hxy
  | text s =>
    cases y with
    | text t =>
      cases z with
      | text u =>
        have hac := (compare_lt_iff_lt.1 (Option.some.inj hxy)).trans (compare_lt_iff_lt.1 (Option.some.inj hyz))
        exact congrArg some (compare_lt_iff_lt.2 hac)
      | _ => cases hyz
    | _ => cases hxy
  | list xs =>
    cases y with
    | list ys =>
      cases z with
      | list zs => exact orderItems?_trans hxy hyz
      | _ => cases hyz
    | _ => cases hxy
  | _ => cases y <;> cases hxy

theorem orderItems?_trans {xs ys zs : List Value} (hxy : orderItems? xs ys = some .lt)
    (hyz : orderItems? ys zs = some .lt) : orderItems? xs zs = some .lt := by
  cases zs with
  | nil => cases ys <;> cases hyz
  | cons z zs =>
    cases xs with
    | nil => rfl
    | cons x xs =>
      cases ys with
      | nil => cases hxy
      | cons y ys =>
        rw [orderItems?] at hxy hyz ⊢
        -- the lists `xs` and `zs` differ first where the earlier of the two pairs does
        by_cases hx : x = y
        · rw [if_pos hx] at hxy
          by_cases hy : y = z
          · rw [if_pos hy] at hyz
            rw [if_pos (hx.trans hy)]
            exact orderItems?_trans hxy hyz
          · rw [if_neg hy] at hyz
            rw [if_neg (hx ▸ hy), hx]
            exact hyz
        · rw [if_neg hx] at hxy
          by_cases hy : y = z
          · rw [if_neg (hy ▸ hx), ← hy]
            exact hxy
          · rw [if_neg hy] at hyz
            have hne : x ≠ z := fun he => order?_asymm hxy (he ▸ hyz)
            rw [if_neg hne]
            exact order?_trans hxy hyz

end

end Value

variable {x y z : Json}

theorem compare_text (s t : String) : (if s < t then .lt else if t < s then .gt else .eq) = compare s t := by
  rcases lt_trichotomy s t with h | rfl | h
  · rw [if_pos h, compare_lt_iff_lt.2 h]
  · simp
  · rw [if_neg h.not_gt, if_pos h, compare_gt_iff_gt.2 h]

theorem orderedItems_eq {c : Comparison} {xs ys : List Json} (hxs : ∀ x ∈ xs, x.Definite) (hys : ∀ y ∈ ys, y.Definite)
    (ih : ∀ x ∈ xs, ∀ y : Json, y.Definite →
      ordered c x y = (((x.value .count).order? (y.value .count)).map c.admits).getD false) :
    orderedItems c xs ys =
      ((Value.orderItems? (valueItems .count xs) (valueItems .count ys)).map c.admits).getD false := by
  induction xs generalizing ys with
  | nil => cases ys <;> rfl
  | cons x xs ihxs =>
    cases ys with
    | nil => rfl
    | cons y ys =>
      rw [List.forall_mem_cons] at hxs hys ih
      rw [orderedItems, valueItems, valueItems, Value.orderItems?]
      by_cases hsame : same x y = true
      · rw [if_pos hsame, if_pos ((same_iff hxs.1 hys.1).1 hsame), ihxs hxs.2 hys.2 ih.2]
      · rw [if_neg hsame, if_neg (mt (same_iff hxs.1 hys.1).2 hsame), ih.1 y hys.1]

theorem ordered_eq (c : Comparison) (hx : x.Definite) (hy : y.Definite) :
    ordered c x y = (((x.value .count).order? (y.value .count)).map c.admits).getD false := by
  induction hx generalizing y with
  | null => cases hy <;> rfl
  | bool a =>
    cases hy with
    | bool b =>
      show _ = (((Number.whole _).worth?.bind fun _ => (Number.whole _).worth?.map _).map c.admits).getD false
      rw [← Number.compare?_eq]
      cases a <;> cases b <;> rfl
    | num h =>
      rw [ordered, Number.compare?_eq]
      rfl
    | _ => rfl
  | num hn =>
    cases hy with
    | bool b =>
      rw [ordered, Number.compare?_eq]
      rfl
    | num h =>
      rw [ordered, Number.compare?_eq]
      rfl
    | _ => rfl
  | str s =>
    cases hy with
    | str t =>
      rw [ordered, compare_text]
      rfl
    | _ => rfl
  | arr hxs ih =>
    cases hy with
    | arr hys => exact orderedItems_eq hxs hys fun x hx y hy => ih x hx hy
    | _ => rfl
  | obj _ _ _ => cases hy <;> rfl

/-- What an ordering comparison says is a matter of how the documents compare. -/
theorem compareBy_eq {c : Comparison} (hc : c ≠ .same ∧ c ≠ .differs) (hx : x.Definite) (hy : y.Definite) :
    compareBy c x y = (((x.value .count).order? (y.value .count)).map c.admits).getD false := by
  have hboth : compareBy c x y = (!x.isNull && !y.isNull && ordered c x y) := by
    cases c with
    | same => exact absurd rfl hc.1
    | differs => exact absurd rfl hc.2
    | _ => rfl
  rw [hboth, ← ordered_eq c hx hy]
  cases x <;> cases y <;> simp [isNull, ordered]

theorem compareBy_iff {c : Comparison} (hc : c ≠ .same ∧ c ≠ .differs) (hx : x.Definite) (hy : y.Definite) :
    compareBy c x y = true ↔ ∃ o, (x.value .count).order? (y.value .count) = some o ∧ c.admits o = true := by
  rw [compareBy_eq hc hx hy]
  cases (x.value .count).order? (y.value .count) <;> simp

theorem below_iff (hx : x.Definite) (hy : y.Definite) :
    compareBy .below x y = true ↔ (x.value .count).order? (y.value .count) = some .lt := by
  simp [compareBy_iff (c := .below) (by simp) hx hy, Comparison.admits]

theorem same_iff_value_eq (hx : x.Definite) (hy : y.Definite) :
    compareBy .same x y = true ↔ x.isTruth = y.isTruth ∧ x.value .count = y.value .count :=
  identical_iff hx hy

/-- A comparison turned around. -/
def mirror : Comparison → Comparison
  | .below => .above
  | .above => .below
  | .atMost => .atLeast
  | .atLeast => .atMost
  | c => c

theorem admits_mirror (c : Comparison) (o : Ordering) : (mirror c).admits o.swap = c.admits o := by
  cases c <;> cases o <;> decide

theorem compareBy_mirror {c : Comparison} (hc : c ≠ .same ∧ c ≠ .differs) (hx : x.Definite) (hy : y.Definite) :
    compareBy c x y = compareBy (mirror c) y x := by
  have hm : mirror c ≠ .same ∧ mirror c ≠ .differs := by
    cases c <;> simp_all [mirror]
  rw [compareBy_eq hc hx hy, compareBy_eq hm hy hx, Value.order?_swap (x.value .count), Option.map_map]
  congr 2
  funext o
  exact (admits_mirror c o).symm

/-- Two numbers, or two texts. -/
inductive Alike : Json → Json → Prop
  | numbers (m n : Number) : Alike (.num m) (.num n)
  | texts (s t : String) : Alike (.str s) (.str t)

theorem Alike.exists_order (h : Alike x y) (hx : x.Definite) (hy : y.Definite) :
    ∃ o, (x.value .count).order? (y.value .count) = some o := by
  cases h with
  | texts s t => exact ⟨_, rfl⟩
  | numbers m n =>
    obtain ⟨a, ha⟩ := exists_worth (Definite.num_iff.1 hx)
    obtain ⟨b, hb⟩ := exists_worth (Definite.num_iff.1 hy)
    exact ⟨compare a b, by simp [value, Value.order?, ha, hb]⟩

theorem Alike.isTruth_eq (h : Alike x y) : x.isTruth = y.isTruth := by
  cases h <;> rfl

/-- Of two numbers or two texts one is below the other or they are the same, and not more than one of these. -/
theorem Alike.trichotomy (h : Alike x y) (hx : x.Definite) (hy : y.Definite) :
    ∃! c, c ∈ [Comparison.below, .same, .above] ∧ compareBy c x y = true := by
  obtain ⟨o, ho⟩ := h.exists_order hx hy
  have hbelow : compareBy .below x y = true ↔ o = .lt := by
    simp [compareBy_iff (c := .below) (by simp) hx hy, ho, Comparison.admits]
  have habove : compareBy .above x y = true ↔ o = .gt := by
    simp [compareBy_iff (c := .above) (by simp) hx hy, ho, Comparison.admits]
  have hsame : compareBy .same x y = true ↔ o = .eq := by
    rw [same_iff_value_eq hx hy, and_iff_right h.isTruth_eq]
    constructor
    · intro he
      exact Value.order?_self (he ▸ ho)
    · intro he
      exact Value.eq_of_order? (he ▸ ho)
  cases o with
  | lt => exact ⟨.below, by simp [hbelow], by simp [hbelow, habove, hsame]⟩
  | eq => exact ⟨.same, by simp [hsame], by simp [hbelow, habove, hsame]⟩
  | gt => exact ⟨.above, by simp [habove], by simp [hbelow, habove, hsame]⟩

/-- The comparisons agree with each other as those of an order do, over documents of any kinds. -/
theorem comparisons_are_consistent (hx : x.Definite) (hy : y.Definite) (hz : z.Definite) :
    compareBy .same x x = true ∧
      (compareBy .same x y = true → compareBy .same y x = true) ∧
      (compareBy .same x y = true → compareBy .same y z = true → compareBy .same x z = true) ∧
      compareBy .below x y = compareBy .above y x ∧ compareBy .atMost x y = compareBy .atLeast y x ∧
      compareBy .below x x = false ∧
      (compareBy .below x y = true → compareBy .below y z = true → compareBy .below x z = true) ∧
      (compareBy .below x y = true → compareBy .atMost x y = true ∧ compareBy .same x y = false) ∧
      (Alike x y → ∃! c, c ∈ [Comparison.below, .same, .above] ∧ compareBy c x y = true) := by
  refine ⟨?_, ?_, ?_, compareBy_mirror (by simp) hx hy, compareBy_mirror (by simp) hx hy, ?_, ?_, ?_,
    fun h => h.trichotomy hx hy⟩
  · exact (same_iff_value_eq hx hx).2 ⟨rfl, rfl⟩
  · intro hxy
    obtain ⟨htruth, hvalue⟩ := (same_iff_value_eq hx hy).1 hxy
    exact (same_iff_value_eq hy hx).2 ⟨htruth.symm, hvalue.symm⟩
  · intro hxy hyz
    obtain ⟨htruth, hvalue⟩ := (same_iff_value_eq hx hy).1 hxy
    obtain ⟨htruth', hvalue'⟩ := (same_iff_value_eq hy hz).1 hyz
    exact (same_iff_value_eq hx hz).2 ⟨htruth.trans htruth', hvalue.trans hvalue'⟩
  · rw [Bool.eq_false_iff]
    intro hxx
    have hlt := Value.order?_self ((below_iff hx hx).1 hxx)
    cases hlt
  · intro hxy hyz
    exact (below_iff hx hz).2 (Value.order?_trans ((below_iff hx hy).1 hxy) ((below_iff hy hz).1 hyz))
  · intro hxy
    have hlt := (below_iff hx hy).1 hxy
    constructor
    · exact (compareBy_iff (by simp) hx hy).2 ⟨.lt, hlt, rfl⟩
    · rw [Bool.eq_false_iff]
      intro hsame
      have hvalue := ((same_iff_value_eq hx hy).1 hsame).2
      have heq := Value.order?_self (hvalue ▸ hlt)
      cases heq

theorem comparisons_are_consistent_of_lists :
    compareBy .below (.arr [.arr [.int 1], .bool false]) (.arr [.arr [.int 2]]) = true := by
  have hx : (Json.arr [.arr [.int 1], .bool false]).Definite := by simp [Json.int, Number.isNaN]
  have hy : (Json.arr [.arr [.bool true], .int 2]).Definite := by simp [Json.int, Number.isNaN]
  have hz : (Json.arr [.arr [.int 2]]).Definite := by simp [Json.int, Number.isNaN]
  obtain ⟨-, -, -, -, -, -, htrans, -, -⟩ := comparisons_are_consistent hx hy hz
  exact htrans (by decide) (by decide)

end Json

end Conductor
