import Conductor.Number
import Conductor.Proofs.Number.Zero

/-! What numbers are worth. Whole numbers and doubles of any kind compare as what they are worth does, and
so without any rounding. -/

namespace Conductor

namespace Number

open Float.Model UnpackedFloat

/-- The rational numbers between the two infinities. -/
abbrev Worth := WithBot (WithTop ℚ)

def Worth.ofRat (q : ℚ) : Worth := ((q : WithTop ℚ) : WithBot (WithTop ℚ))

@[simp] theorem Worth.ofRat_lt_ofRat {p q : ℚ} : Worth.ofRat p < Worth.ofRat q ↔ p < q := by
  simp [Worth.ofRat]

@[simp] theorem Worth.ofRat_inj {p q : ℚ} : Worth.ofRat p = Worth.ofRat q ↔ p = q := by
  simp [Worth.ofRat]

@[simp] theorem Worth.ofRat_lt_top (q : ℚ) : Worth.ofRat q < ⊤ :=
  WithBot.coe_lt_coe.2 (WithTop.coe_lt_top q)

@[simp] theorem Worth.bot_lt_ofRat (q : ℚ) : ⊥ < Worth.ofRat q := WithBot.bot_lt_coe _

/-- What the parts of a double are worth. -/
def partsWorth? : UnpackedFloat → Option Worth
  | .notANumber => none
  | .infinity .positive => some ⊤
  | .infinity .negative => some ⊥
  | .zero _ => some (.ofRat 0)
  | .finite s m e _ => some (.ofRat (s.apply m * 2 ^ e))

/-- What a number is worth; nothing is the worth of what is not a number. -/
def worth? : Number → Option Worth
  | .whole n => some (.ofRat n)
  | .real x => partsWorth? x.toModel.unpack

/-! The parts of a double -/

def isNegative : Sign → Bool
  | .negative => true
  | .positive => false

theorem isNegative_unpackSign (b : BitVec 64) :
    isNegative (Sign.ofBitVec (@unpackSign .binary64 b)) = (b.toNat / Nat.pow 2 63 == 1) := by
  have hsmall : b.toNat / 2 ^ 63 < 2 := by omega
  have hsign : (@unpackSign .binary64 b).toNat = b.toNat / 2 ^ 63 := by
    unfold unpackSign
    simp [BitVec.extractLsb_toNat, Format.binary64, Nat.shiftRight_eq_div_pow]
    omega
  show _ = (b.toNat / 2 ^ 63 == 1)
  unfold Sign.ofBitVec
  by_cases hzero : @unpackSign .binary64 b = 0#1
  · rw [if_pos hzero, ← hsign, hzero]
    rfl
  · have hne : b.toNat / 2 ^ 63 ≠ 0 := fun h => hzero (BitVec.toNat_inj.1 (hsign.trans h))
    rw [if_neg hzero, show b.toNat / 2 ^ 63 = 1 by omega]
    rfl

theorem toNat_unpackExponent (b : BitVec 64) :
    (@unpackExponent .binary64 b).toNat = b.toNat / Nat.pow 2 52 % Nat.pow 2 11 := by
  unfold unpackExponent
  simp [BitVec.extractLsb_toNat, Format.binary64, Nat.shiftRight_eq_div_pow]

theorem toNat_unpackMantissa (b : BitVec 64) :
    (@unpackMantissa .binary64 b).toNat = b.toNat % Nat.pow 2 52 := by
  unfold unpackMantissa
  simp [BitVec.extractLsb_toNat, Format.binary64]

/-- What the parts are as a whole number times a power of two. -/
def dyad? : UnpackedFloat → Option Dyad
  | .notANumber | .infinity _ => none
  | .zero s => some ⟨isNegative s, 0, -1074⟩
  | .finite s m e _ => some ⟨isNegative s, m, e⟩

/-- A double has no other parts: its mantissa is as long as it can be, unless the exponent is the least. -/
def Parts : UnpackedFloat → Prop
  | .finite _ m e _ => m < 2 ^ 53 ∧ -1074 ≤ e ∧ (2 ^ 52 ≤ m ∨ e = -1074)
  | _ => True

theorem unpackExponent_eq (b : BitVec 64) :
    (@unpackExponent .binary64 b = -1#11 ↔ (@unpackExponent .binary64 b).toNat = 2047) ∧
      (@unpackExponent .binary64 b = 0#11 ↔ (@unpackExponent .binary64 b).toNat = 0) :=
  ⟨BitVec.toNat_inj.symm, BitVec.toNat_inj.symm⟩

theorem ofFloat?_eq (x : Float) : Dyad.ofFloat? x = dyad? x.toModel.unpack := by
  unfold Dyad.ofFloat? Float.Model.unpack UnpackedFloat.unpack
  dsimp only [Float.toBits]
  rw [UInt64.toNat, ← isNegative_unpackSign, ← toNat_unpackExponent, ← toNat_unpackMantissa]
  obtain ⟨hmax, hmin⟩ := unpackExponent_eq x.toModel.toBits.toBitVec
  by_cases hspecial : (@unpackExponent .binary64 x.toModel.toBits.toBitVec).toNat = 2047
  · rw [if_pos hspecial, if_pos (hmax.2 hspecial)]
    split_ifs <;> rfl
  rw [if_neg hspecial, if_neg (mt hmax.1 hspecial)]
  by_cases hsmall : (@unpackExponent .binary64 x.toModel.toBits.toBitVec).toNat = 0
  · rw [if_pos hsmall, if_pos (hmin.2 hsmall)]
    split_ifs with hzero
    · simp [dyad?, hzero]
    · simp [dyad?, hsmall]
      rfl
  · rw [if_neg hsmall, if_neg (mt hmin.1 hsmall)]
    simp only [dyad?, toNat_implicit]
    rfl

theorem parts_unpack (x : Float.Model) : Parts x.unpack := by
  have hfits := fits_unpack x
  revert hfits
  unfold Float.Model.unpack UnpackedFloat.unpack
  dsimp only
  split_ifs with hspecial hzero hsmall hnone
  · exact fun _ => trivial
  · exact fun _ => trivial
  · exact fun _ => trivial
  · intro hfits
    refine ⟨hfits.1, hfits.2, .inr ?_⟩
    rw [hsmall]
    rfl
  · intro hfits
    refine ⟨hfits.1, hfits.2, .inl ?_⟩
    rw [toNat_implicit]
    exact Nat.le_add_right _ _

/-! What doubles are worth -/

section

variable {α β : Type} [LinearOrder α] [LinearOrder β] {f : α → β}

theorem compare_map (hf : StrictMono f) (a b : α) : compare (f a) (f b) = compare a b := by
  rcases lt_trichotomy a b with h | rfl | h
  · rw [compare_lt_iff_lt.2 h, compare_lt_iff_lt.2 (hf h)]
  · rw [compare_eq_iff_eq.2 rfl, compare_eq_iff_eq.2 rfl]
  · rw [compare_gt_iff_gt.2 h, compare_gt_iff_gt.2 (hf h)]

theorem compare_map_anti (hf : StrictAnti f) (a b : α) : compare (f a) (f b) = (compare a b).swap := by
  rcases lt_trichotomy a b with h | rfl | h
  · rw [compare_lt_iff_lt.2 h, compare_gt_iff_gt.2 (hf h)]
    rfl
  · rw [compare_eq_iff_eq.2 rfl, compare_eq_iff_eq.2 rfl]
    rfl
  · rw [compare_gt_iff_gt.2 h, compare_lt_iff_lt.2 (hf h)]
    rfl

end

theorem Worth.strictMono_ofRat : StrictMono Worth.ofRat := fun _ _ => Worth.ofRat_lt_ofRat.2

theorem worth_lt_of_exponent_lt {m n : Nat} {d e : Int} (hm : m < 2 ^ 53) (hn : 2 ^ 52 ≤ n) (h : d < e) :
    (m : ℚ) * 2 ^ d < n * 2 ^ e := by
  have hm' : (m : ℚ) < 2 ^ 53 := by exact_mod_cast hm
  have hn' : (2 : ℚ) ^ 52 ≤ n := by exact_mod_cast hn
  have hd : (0 : ℚ) < 2 ^ d := by positivity
  calc (m : ℚ) * 2 ^ d < 2 ^ 53 * 2 ^ d := mul_lt_mul_of_pos_right hm' hd
    _ = 2 ^ 52 * 2 ^ (d + 1) := by rw [zpow_add_one₀ two_ne_zero]; ring
    _ ≤ 2 ^ 52 * 2 ^ e := by
      have hpow : (2 : ℚ) ^ (d + 1) ≤ 2 ^ e := zpow_le_zpow_right₀ one_le_two h
      exact mul_le_mul_of_nonneg_left hpow (by positivity)
    _ ≤ n * 2 ^ e := mul_le_mul_of_nonneg_right hn' (by positivity)

theorem compare_magnitudes {m n : Nat} {d e : Int} (hm : m < 2 ^ 53) (hn : n < 2 ^ 53)
    (hd : -1074 ≤ d ∧ (2 ^ 52 ≤ m ∨ d = -1074)) (he : -1074 ≤ e ∧ (2 ^ 52 ≤ n ∨ e = -1074)) :
    (compare d e).then (compare m n) = compare ((m : ℚ) * 2 ^ d) (n * 2 ^ e) := by
  rcases lt_trichotomy d e with h | rfl | h
  · have hlong : 2 ^ 52 ≤ n := by omega
    rw [compare_lt_iff_lt.2 h, compare_lt_iff_lt.2 (worth_lt_of_exponent_lt hm hlong h)]
    rfl
  · have hmono : StrictMono fun n : Nat => (n : ℚ) * 2 ^ d :=
      Nat.strictMono_cast.mul_const (by positivity)
    rw [compare_eq_iff_eq.2 rfl, ← compare_map hmono]
    rfl
  · have hlong : 2 ^ 52 ≤ m := by omega
    rw [compare_gt_iff_gt.2 h, compare_gt_iff_gt.2 (worth_lt_of_exponent_lt hn hlong h)]
    rfl

theorem apply_pos {m : Nat} (hm : 0 < m) (e : Int) : (0 : ℚ) < Sign.positive.apply m * 2 ^ e := by
  simp only [Sign.apply, Int.cast_natCast]
  positivity

theorem apply_neg {m : Nat} (hm : 0 < m) (e : Int) : (Sign.negative.apply m : ℚ) * 2 ^ e < 0 := by
  have hpos := apply_pos hm e
  simp only [Sign.apply, Int.cast_neg, neg_mul, Left.neg_neg_iff] at hpos ⊢
  exact hpos

theorem compare_finite {s t : Sign} {m n : Nat} {d e : Int} (hm : 0 < m) (hn : 0 < n)
    (hu : Parts (.finite s m d hm)) (hv : Parts (.finite t n e hn)) :
    UnpackedFloat.compare (.finite s m d hm) (.finite t n e hn) =
      some (compare ((s.apply m : ℚ) * 2 ^ d) (t.apply n * 2 ^ e)) := by
  have hcompare := compare_magnitudes hu.1 hv.1 hu.2 hv.2
  cases s with
  | positive =>
    cases t with
    | positive => exact congrArg some hcompare
    | negative =>
      have hgt := compare_gt_iff_gt.2 ((apply_neg hn e).trans (apply_pos hm d))
      exact congrArg some hgt.symm
  | negative =>
    cases t with
    | positive =>
      have hlt := compare_lt_iff_lt.2 ((apply_neg hm d).trans (apply_pos hn e))
      exact congrArg some hlt.symm
    | negative =>
      simp only [UnpackedFloat.compare, Sign.apply, Int.cast_neg, Int.cast_natCast, neg_mul, hcompare]
      rw [compare_map_anti (fun _ _ => neg_lt_neg)]

theorem compare_parts {u v : UnpackedFloat} (hu : Parts u) (hv : Parts v) :
    u.compare v = (partsWorth? u).bind fun a => (partsWorth? v).map (compare a) := by
  cases u with
  | notANumber => cases v <;> rfl
  | infinity s =>
    cases v with
    | infinity t => cases s <;> cases t <;> rfl
    | _ => cases s <;> rfl
  | zero s =>
    cases v with
    | notANumber => rfl
    | infinity t => cases t <;> rfl
    | zero t => rfl
    | finite t n e hn =>
      show _ = some (compare (Worth.ofRat 0) (.ofRat _))
      rw [compare_map Worth.strictMono_ofRat]
      cases t with
      | positive => exact congrArg some (compare_lt_iff_lt.2 (apply_pos hn e)).symm
      | negative => exact congrArg some (compare_gt_iff_gt.2 (apply_neg hn e)).symm
  | finite s m d hm =>
    cases v with
    | notANumber => rfl
    | infinity t => cases t <;> rfl
    | zero t =>
      show _ = some (compare (Worth.ofRat _) (.ofRat 0))
      rw [compare_map Worth.strictMono_ofRat]
      cases s with
      | positive => exact congrArg some (compare_gt_iff_gt.2 (apply_pos hm d)).symm
      | negative => exact congrArg some (compare_lt_iff_lt.2 (apply_neg hm d)).symm
    | finite t n e hn =>
      show _ = some (compare (Worth.ofRat _) (.ofRat _))
      rw [compare_map Worth.strictMono_ofRat, compare_finite hm hn hu hv]

/-! Comparing numbers -/

variable {x y : Float}

theorem compare_unpack (x y : Float) : x.toModel.unpack.compare y.toModel.unpack =
    (real x).worth?.bind fun a => (real y).worth?.map (compare a) :=
  compare_parts (parts_unpack _) (parts_unpack _)

theorem lt_iff_compare : x < y ↔ x.toModel.unpack.compare y.toModel.unpack = some .lt := by
  show x.lt y = true ↔ _
  rw [Float.lt, decide_eq_true_iff]
  exact beq_iff_eq

theorem beq_iff_compare : (x == y) = true ↔ x.toModel.unpack.compare y.toModel.unpack = some .eq :=
  beq_iff_eq (a := x.toModel.unpack.compare y.toModel.unpack)

theorem isNaN_iff : x.isNaN = true ↔ (real x).worth? = none := by
  show x.toModel.unpack.isNaN = true ↔ partsWorth? x.toModel.unpack = none
  rcases x.toModel.unpack with (_ | _) | _ | _ | _ <;> simp [UnpackedFloat.isNaN, partsWorth?]

theorem isInf_iff : x.isInf = true ↔ (real x).worth? = some ⊤ ∨ (real x).worth? = some ⊥ := by
  show x.toModel.unpack.isInf = true ↔ partsWorth? x.toModel.unpack = some ⊤ ∨ partsWorth? x.toModel.unpack = some ⊥
  rcases x.toModel.unpack with (_ | _) | _ | _ | _ <;>
    simp [UnpackedFloat.isInf, partsWorth?, (Worth.ofRat_lt_top _).ne, (Worth.bot_lt_ofRat _).ne']

theorem isFinite_of_worth {q : ℚ} (h : (real x).worth? = some (.ofRat q)) : x.isNaN = false ∧ x.isInf = false := by
  rw [Bool.eq_false_iff, Bool.eq_false_iff, ne_eq, ne_eq, isNaN_iff, isInf_iff, h]
  simp [(Worth.ofRat_lt_top q).ne, (Worth.bot_lt_ofRat q).ne']

theorem compareReal_eq (x y : Float) :
    compare? (.real x) (.real y) = (real x).worth?.bind fun a => (real y).worth?.map (compare a) := by
  simp only [compare?, lt_iff_compare, beq_iff_compare, compare_unpack]
  cases ha : (real x).worth? with
  | none => simp
  | some a =>
    cases hb : (real y).worth? with
    | none => simp
    | some b =>
      simp only [Option.bind_some, Option.map_some, Option.some.injEq]
      rcases lt_trichotomy a b with h | rfl | h
      · rw [if_pos (compare_lt_iff_lt.2 h), compare_lt_iff_lt.2 h]
      · simp
      · rw [if_neg (mt compare_lt_iff_lt.1 h.not_gt), if_pos (compare_lt_iff_lt.2 h), compare_gt_iff_gt.2 h]

theorem numerator_eq (s : Sign) (m : Nat) (e : Int) : ((Dyad.mk (isNegative s) m e).numerator : ℚ) =
    s.apply m * 2 ^ e * (Dyad.mk (isNegative s) m e).denominator := by
  have hmagnitude : ((m * Nat.pow 2 e.toNat : Nat) : ℚ) = m * 2 ^ e * (Nat.pow 2 (-e).toNat : Nat) := by
    rcases Int.le_total 0 e with h | h
    · obtain ⟨k, rfl⟩ := Int.eq_ofNat_of_zero_le h
      simp
    · obtain ⟨k, hk⟩ := Int.eq_ofNat_of_zero_le (Int.neg_nonneg_of_nonpos h)
      obtain rfl : e = -(k : Int) := by omega
      simp
  unfold Dyad.numerator Dyad.magnitude Dyad.denominator
  cases s with
  | positive => simpa [isNegative, Sign.apply] using hmagnitude
  | negative => simpa [isNegative, Sign.apply] using congrArg Neg.neg hmagnitude

theorem compare_numerator (n : Int) (s : Sign) (m : Nat) (e : Int) :
    compare (n * ((Dyad.mk (isNegative s) m e).denominator : Int)) (Dyad.mk (isNegative s) m e).numerator =
      compare (Worth.ofRat n) (.ofRat (s.apply m * 2 ^ e)) := by
  have hden : (0 : ℚ) < (Dyad.mk (isNegative s) m e).denominator := by
    rw [Dyad.denominator]
    exact Nat.cast_pos.2 (Nat.two_pow_pos _)
  have hmul : StrictMono fun q : ℚ => q * (Dyad.mk (isNegative s) m e).denominator :=
    strictMono_id.mul_const hden
  have hcast : StrictMono fun k : Int => (k : ℚ) := Int.cast_strictMono
  rw [compare_map Worth.strictMono_ofRat, ← compare_map hmul, ← numerator_eq, ← compare_map hcast, Int.cast_mul,
    Int.cast_natCast]

theorem quotient_eq {n : Int} {s : Sign} {m : Nat} {e : Int} (h : (s.apply m : ℚ) * 2 ^ e = n) :
    (if (Dyad.mk (isNegative s) m e).numerator % (Dyad.mk (isNegative s) m e).denominator = 0 then
      some ((Dyad.mk (isNegative s) m e).numerator / (Dyad.mk (isNegative s) m e).denominator) else none) = some n := by
  have hnumerator := numerator_eq s m e
  have hpos : ((Dyad.mk (isNegative s) m e).denominator : Int) ≠ 0 :=
    Int.natCast_ne_zero.2 (Nat.two_pow_pos _).ne'
  rw [h] at hnumerator
  norm_cast at hnumerator
  rw [hnumerator, Int.mul_emod_left, if_pos rfl, Int.mul_ediv_cancel _ hpos]

theorem wholeOf?_eq {n : Int} (h : (real x).worth? = some (.ofRat n)) : wholeOf? x = some n := by
  unfold wholeOf?
  rw [ofFloat?_eq]
  change partsWorth? x.toModel.unpack = _ at h
  cases hparts : x.toModel.unpack with
  | notANumber =>
    rw [hparts] at h
    cases h
  | infinity s =>
    rw [hparts] at h
    cases s with
    | positive => exact absurd (Option.some.inj h) (Worth.ofRat_lt_top n).ne'
    | negative => exact absurd (Option.some.inj h) (Worth.bot_lt_ofRat n).ne
  | zero s =>
    rw [hparts, partsWorth?, Option.some_inj, Worth.ofRat_inj] at h
    exact quotient_eq (by cases s <;> simpa [Sign.apply] using h)
  | finite s m e hm =>
    rw [hparts, partsWorth?, Option.some_inj, Worth.ofRat_inj] at h
    exact quotient_eq h

theorem compareWhole_eq (n : Int) (x : Float) :
    compareWhole n x = (real x).worth?.map (compare (Worth.ofRat n)) := by
  have hnan : x.isNaN = x.toModel.unpack.isNaN := rfl
  have hpositive := lt_iff_compare (x := 0.0) (y := x)
  have hworth : (real x).worth? = partsWorth? x.toModel.unpack := rfl
  unfold compareWhole
  rw [ofFloat?_eq, hworth, hnan]
  revert hpositive
  cases x.toModel.unpack with
  | notANumber => exact fun _ => rfl
  | infinity s =>
    intro hpositive
    cases s with
    | positive =>
      rw [if_pos (hpositive.2 rfl)]
      rfl
    | negative =>
      rw [if_neg (mt hpositive.1 nofun)]
      rfl
  | zero s =>
    have hzero : Worth.ofRat 0 = .ofRat (s.apply (0 : Nat) * 2 ^ (-1074 : Int)) := by
      cases s <;> simp [Sign.apply]
    exact fun _ => congrArg some ((compare_numerator n s 0 (-1074)).trans (by rw [hzero]))
  | finite s m e hm => exact fun _ => congrArg some (compare_numerator n s m e)

theorem worth_of_compareWhole {n : Int} (h : compareWhole n x = some .eq) :
    (real x).worth? = some (.ofRat n) := by
  rw [compareWhole_eq] at h
  obtain ⟨a, ha, hn⟩ := Option.map_eq_some_iff.1 h
  rw [ha, compare_eq_iff_eq.1 hn]

theorem compare?_eq (m n : Number) : compare? m n = m.worth?.bind fun a => n.worth?.map (compare a) := by
  cases m with
  | whole a =>
    cases n with
    | whole b =>
      have hcast : StrictMono fun k : Int => Worth.ofRat k := Worth.strictMono_ofRat.comp Int.cast_strictMono
      exact congrArg some (compare_map hcast a b).symm
    | real y => exact compareWhole_eq a y
  | real x =>
    cases n with
    | whole b =>
      show (compareWhole b x).map Ordering.swap = _
      rw [compareWhole_eq]
      cases (real x).worth? with
      | none => rfl
      | some a => exact congrArg some Std.OrientedCmp.eq_swap.symm
    | real y => exact compareReal_eq x y

end Number

end Conductor
