import Conductor.Backoff
import Conductor.Proofs.Number.Value

/-! Doubles that are worth exactly what they are read from: whole numbers of at most 53 bits, and powers of two. A
longer whole number is read as one of as many bits, unless it is infinite as a double. -/

namespace Conductor

namespace Number

open Float.Model UnpackedFloat

theorem shiftRight_exact (m j : Nat) :
    (⟨m * 2 ^ j, false, false⟩ : ExtendedMantissa) >>> j = ⟨m, false, false⟩ := by
  induction j generalizing m with
  | zero => simp [HShiftRight.hShiftRight, Nat.repeat]
  | succ j ih =>
    have hinner : (⟨m * 2 ^ (j + 1), false, false⟩ : ExtendedMantissa) >>> j = ⟨m * 2, false, false⟩ := by
      rw [Nat.pow_succ', ← Nat.mul_assoc]
      exact ih (m * 2)
    show ExtendedMantissa.shiftRightOne ((⟨m * 2 ^ (j + 1), false, false⟩ : ExtendedMantissa) >>> j) = _
    rw [hinner]
    simp [ExtendedMantissa.shiftRightOne]

variable {s : Sign} {m j : Nat} {e : Int}

/-- Bits that are all zero are shifted out without a trace. -/
theorem shiftToTargetExponent_exact (hl : 2 ^ 52 ≤ m) (hu : m < 2 ^ 53) (he : -1074 ≤ e + j) :
    shiftToTargetExponent .binary64 (m * 2 ^ j) e .exact = (⟨m, false, false⟩, e + j) := by
  have hlog : (m * 2 ^ j).log2 = 52 + j := by
    apply log2_eq
    · rw [Nat.pow_add]
      exact Nat.mul_le_mul_right _ hl
    · rw [show 52 + j + 1 = 53 + j by omega, Nat.pow_add]
      exact Nat.mul_lt_mul_of_pos_right hu (Nat.two_pow_pos j)
  have hshift : (Format.binary64.targetExponent (totalExponent (m * 2 ^ j) e) - e).toNat = j := by
    rw [targetExponent_eq, hlog]
    omega
  unfold shiftToTargetExponent shiftToExponent
  simp only [hshift, ExtendedMantissa.ofMantissaAndAccuracy, shiftRight_exact]

theorem roundWithAccuracy_exact (hl : 2 ^ 52 ≤ m) (hu : m < 2 ^ 53) (he : -1074 ≤ e + j) :
    roundWithAccuracy .binary64 s (m * 2 ^ j) e .exact = .finite s m (e + j) (by omega) := by
  have hagain : shiftToTargetExponent .binary64 m (e + j) .exact = (⟨m, false, false⟩, e + j) := by
    simpa using shiftToTargetExponent_exact (j := 0) (e := e + j) hl hu (by simpa using he)
  unfold roundWithAccuracy
  rw [shiftToTargetExponent_exact hl hu he]
  simp only [ExtendedMantissa.roundedMantissa, ExtendedMantissa.accuracy, Accuracy.roundToNearestEven, hagain]
  rw [dif_neg (by omega)]

theorem ofBitVec_toBitVec (s : Sign) : Sign.ofBitVec s.toBitVec = s := by
  cases s <;> rfl

theorem unpack_packComponents (s : Sign) {b : BitVec 11} (f : BitVec 52) (hb : b ≠ -1#11) (hb' : b ≠ 0#11)
    (h : 0 < (1#1 ++ f).toNat) :
    UnpackedFloat.unpack .binary64 (packComponents .binary64 s b f) =
      .finite s (1#1 ++ f).toNat (b.toNat - 1075) h := by
  unfold UnpackedFloat.unpack
  simp only [unpackExponent_packComponents, unpackMantissa_packComponents, unpackSign_packComponents,
    ofBitVec_toBitVec]
  rw [if_neg hb, if_neg hb']
  rfl

theorem unpack_pack (hl : 2 ^ 52 ≤ m) (hu : m < 2 ^ 53) (he : -1074 ≤ e) (he' : e ≤ 971) :
    (Float.Model.pack (.finite s m e (by omega))).unpack = .finite s m e (by omega) := by
  obtain ⟨f, rfl⟩ : ∃ f : BitVec 52, (1#1 ++ f).toNat = m := by
    refine ⟨BitVec.ofNat 52 m, ?_⟩
    rw [toNat_implicit, BitVec.toNat_ofNat]
    omega
  obtain ⟨b, hb, hb', rfl⟩ : ∃ b : BitVec 11, b ≠ -1#11 ∧ b ≠ 0#11 ∧ (b.toNat : Int) - 1075 = e := by
    have hbits : (BitVec.ofNat 11 (e + 1075).toNat).toNat = (e + 1075).toNat := by
      rw [BitVec.toNat_ofNat]
      omega
    refine ⟨BitVec.ofNat 11 (e + 1075).toNat, ?_, ?_, by omega⟩
    · intro h
      have hmax := congrArg BitVec.toNat h
      rw [hbits] at hmax
      change (e + 1075).toNat = 2047 at hmax
      omega
    · intro h
      have hmin := congrArg BitVec.toNat h
      rw [hbits] at hmin
      change (e + 1075).toNat = 0 at hmin
      omega
  have hpack := pack_normal s b f hb (by omega)
  show UnpackedFloat.unpack .binary64 (UnpackedFloat.pack .binary64 _) = _
  rw [hpack, unpack_packComponents s f hb hb']

theorem unpack_rounded (hl : 2 ^ 52 ≤ m) (hu : m < 2 ^ 53) (he : -1074 ≤ e + j) (he' : e + j ≤ 971) :
    (Float.Model.pack (roundWithAccuracy .binary64 s (m * 2 ^ j) e .exact)).unpack =
      .finite s m (e + j) (by omega) := by
  rw [roundWithAccuracy_exact hl hu he, unpack_pack hl hu he he']

/-! Whole numbers -/

variable {n : Nat}

/-- A number of at most 53 bits is shifted up to its mantissa. -/
theorem ofNat_exact (hn : 0 < n) (hl : 2 ^ 52 ≤ m) (hu : m < 2 ^ 53) (hlog : n.log2 ≤ 52)
    (hexact : m * 2 ^ n.log2 = n * 2 ^ 52) :
    UnpackedFloat.ofNat .binary64 n = .finite .positive m (n.log2 - 52) (by omega) := by
  have hshift : ((0 : Int) - Format.binary64.targetExponent (totalExponent n 0)).toNat = 52 - n.log2 := by
    rw [targetExponent_eq]
    omega
  have hmantissa : n <<< (52 - n.log2) = m * 2 ^ 0 := by
    apply Nat.eq_of_mul_eq_mul_right (Nat.two_pow_pos n.log2)
    rw [Nat.shiftLeft_eq, Nat.mul_assoc, ← Nat.pow_add, Nat.sub_add_cancel hlog, Nat.pow_zero, Nat.mul_one, hexact]
  have hcompare : compare (n : Int) 0 = .gt := compare_gt_iff_gt.2 (by omega)
  unfold UnpackedFloat.ofNat UnpackedFloat.ofInt UnpackedFloat.normalize
  rw [hcompare]
  simp only [Int.toNat_natCast, UnpackedFloat.round, decreaseExponent, hshift, hmantissa]
  rw [roundWithAccuracy_exact hl hu (by omega)]
  congr 1
  omega

theorem unpack_one :
    (Float.ofBits 0x3FF0000000000000).toModel.unpack = .finite .positive (2 ^ 52) (-52) (by decide) := by
  rfl

theorem ofScientific_large (h : 2 ^ 53 ≤ n) :
    (Float.ofScientific n false 0).toModel = Float.Model.pack (UnpackedFloat.ofScientific .binary64 n 0) := by
  rw [Float.ofScientific, dif_neg (by omega)]
  rfl

theorem ofScientific_eq (hn : 0 < n) : UnpackedFloat.ofScientific .binary64 n 0 =
    roundWithAccuracy .binary64 .positive (n <<< 53 * 10 ^ 0) (-53) .exact := by
  have hnot : ¬ (0 : Int) < -((2 ^ 11 : Int) + n.log2) := by omega
  rw [UnpackedFloat.ofScientific, dif_neg hn.ne', if_neg (by decide), if_neg hnot, if_pos (Int.le_refl 0)]
  rfl

/-- A whole number is the double with its leading bits when there is nothing behind them. -/
theorem unpack_ofScientific (hn : 0 < n) (hlog : n.log2 < 1024) (hexact : m * 2 ^ n.log2 = n * 2 ^ 52) :
    ∃ h, (Float.ofScientific n false 0).toModel.unpack = .finite .positive m (n.log2 - 52) h := by
  have hlow := Nat.log2_self_le hn.ne'
  have hhigh := Nat.lt_log2_self (n := n)
  have hpos := Nat.two_pow_pos n.log2
  have hl : 2 ^ 52 ≤ m := by
    apply Nat.le_of_mul_le_mul_right _ hpos
    rw [hexact, Nat.mul_comm]
    exact Nat.mul_le_mul_right _ hlow
  have hu : m < 2 ^ 53 := by
    apply Nat.lt_of_mul_lt_mul_right (a := 2 ^ n.log2)
    rw [hexact]
    rw [Nat.pow_succ] at hhigh
    omega
  refine ⟨by omega, ?_⟩
  by_cases hsmall : n < 2 ^ 53
  · -- read as a machine word, and multiplied by one
    have hshort : n.log2 ≤ 52 := Nat.le_of_lt_succ ((Nat.log2_lt hn.ne').2 hsmall)
    have hnat : n.toUInt64.toNat = n := Nat.mod_eq_of_lt (by omega)
    have hread : n.toUInt64.toFloat.toModel.unpack = .finite .positive m (n.log2 - 52) (by omega) := by
      show (Float.Model.pack (UnpackedFloat.ofNat .binary64 n.toUInt64.toNat)).unpack = _
      rw [hnat, ofNat_exact hn hl hu hshort hexact, unpack_pack hl hu (by omega) (by omega)]
    have hproduct := unpack_rounded (s := .positive) (j := 52) (e := n.log2 - 52 + -52) hl hu (by omega) (by omega)
    rw [Float.ofScientific, dif_pos ⟨hsmall, by decide⟩]
    show (Float.Model.pack (UnpackedFloat.mul .binary64 n.toUInt64.toFloat.toModel.unpack
      (Float.ofBits 0x3FF0000000000000).toModel.unpack)).unpack = _
    have hexponent : (n.log2 : Int) - 52 + -52 + (52 : Nat) = n.log2 - 52 := by omega
    rw [hread, unpack_one]
    refine hproduct.trans ?_
    simp only [hexponent]
  · -- scaled up by 53 bits before it is rounded
    have hproduct := unpack_rounded (s := .positive) (j := n.log2 + 1) (e := -53) hl hu (by omega) (by omega)
    have hscaled : n <<< 53 * 10 ^ 0 = m * 2 ^ (n.log2 + 1) := by
      rw [Nat.shiftLeft_eq, Nat.pow_succ 2 n.log2, ← Nat.mul_assoc, hexact]
      omega
    have hexponent : (-53 : Int) + (n.log2 + 1 : Nat) = n.log2 - 52 := by omega
    rw [ofScientific_large (by omega), ofScientific_eq hn, hscaled, hproduct]
    simp only [hexponent]

theorem worth_ofScientific (hlog : n.log2 < 1024) (hexact : 2 ^ n.log2 ∣ n * 2 ^ 52) :
    (real (Float.ofScientific n false 0)).worth? = some (.ofRat n) := by
  rcases Nat.eq_zero_or_pos n with rfl | hn
  · rfl
  · obtain ⟨m, hm⟩ := hexact
    obtain ⟨h, hunpack⟩ := unpack_ofScientific (m := m) hn hlog (by rw [hm, Nat.mul_comm])
    show partsWorth? (Float.ofScientific n false 0).toModel.unpack = _
    rw [hunpack, partsWorth?, Sign.apply, Int.cast_natCast, Option.some_inj, Worth.ofRat_inj,
      zpow_sub₀ two_ne_zero]
    field_simp
    norm_cast
    rw [Nat.mul_comm, ← hm, Nat.mul_comm]

theorem worth_of_lt (h : n < 2 ^ 53) : (real (Float.ofScientific n false 0)).worth? = some (.ofRat n) := by
  rcases Nat.eq_zero_or_pos n with rfl | hn
  · rfl
  · have hlog : n.log2 < 53 := (Nat.log2_lt hn.ne').2 h
    apply worth_ofScientific (by omega)
    exact Dvd.dvd.mul_left (Nat.pow_dvd_pow 2 (by omega)) n

theorem worth_twoPower (h : n < 1024) : (real (twoPower n)).worth? = some (.ofRat (2 ^ n)) := by
  have hlog : (2 ^ n : Nat).log2 = n := Nat.log2_two_pow
  have hpower : twoPower n = Float.ofScientific (2 ^ n) false 0 := by
    unfold twoPower
    rw [if_neg (by omega), if_neg (by omega), if_neg (by omega), Int.toNat_natCast]
    rfl
  rw [hpower, worth_ofScientific (by omega) (by rw [hlog]; exact Nat.dvd_mul_right _ _), Nat.cast_pow, Nat.cast_ofNat]

/-! Whole numbers that are too long -/

/-- Of a mantissa that is too long, the leading 53 bits stay. -/
theorem shifted_long (hm : 52 ≤ m.log2) (he : -1074 ≤ e + (m.log2 - 52 : Nat)) (accuracy : Accuracy) :
    2 ^ 52 ≤ (shiftToTargetExponent .binary64 m e accuracy).1.mantissa ∧
      (shiftToTargetExponent .binary64 m e accuracy).2 = e + (m.log2 - 52 : Nat) := by
  have hpos : m ≠ 0 := by
    rintro rfl
    exact absurd hm (by decide)
  have hlow := Nat.log2_self_le hpos
  have hmantissa : (ExtendedMantissa.ofMantissaAndAccuracy m accuracy).mantissa = m := by
    rcases accuracy with _ | _ | _ | _ <;> rfl
  have hshift : (Format.binary64.targetExponent (totalExponent m e) - e).toNat = m.log2 - 52 := by
    rw [targetExponent_eq]
    omega
  unfold shiftToTargetExponent shiftToExponent
  dsimp only
  rw [hshift, mantissa_shiftRight, hmantissa, Nat.le_div_iff_mul_le (Nat.two_pow_pos _), ← Nat.pow_add,
    Nat.add_sub_cancel' hm]
  exact ⟨hlow, rfl⟩

theorem round_long (hm : 52 ≤ m.log2) (he : -1074 ≤ e + (m.log2 - 52 : Nat)) :
    ∃ m' e' h, roundWithAccuracy .binary64 s m e .exact = .finite s m' e' h ∧ 2 ^ 52 ≤ m' ∧ m' < 2 ^ 53 ∧
      e + (m.log2 - 52 : Nat) ≤ e' := by
  unfold roundWithAccuracy
  obtain ⟨hfirst, hexponent⟩ := shifted_long hm he .exact
  revert hfirst hexponent
  generalize shiftToTargetExponent _ _ _ _ = shifted
  intro hfirst hexponent
  have hrounded := hfirst.trans (le_roundedMantissa shifted.1)
  have hpos : 0 < shifted.1.roundedMantissa := by omega
  -- a carry makes the mantissa one bit longer, and the exponent greater
  have hlog := (Nat.le_log2 hpos.ne').2 hrounded
  obtain ⟨hlong, hlast⟩ := shifted_long (e := shifted.2) hlog (by omega) .exact
  obtain ⟨hnonzero, hsize, -⟩ := shifted_bounds (e := shifted.2) hpos (by omega) .exact
  dsimp only
  rw [dif_neg hnonzero.ne']
  exact ⟨_, _, _, rfl, hlong, hsize, by omega⟩

theorem unpack_pack_large (h : 0 < m) (he : 971 < e) :
    (Float.Model.pack (.finite s m e h)).unpack = .infinity s := by
  have htop : 2 ^ Format.binary64.exponentBits ≤
      (e + (Format.binary64.exponentBias : Nat) + (Format.binary64.mantissaBitsWithoutImplicit : Nat)).toNat + 1 := by
    show 2 ^ 11 ≤ (e + 1023 + 52).toNat + 1
    omega
  show UnpackedFloat.unpack .binary64 (UnpackedFloat.pack .binary64 _) = _
  simp only [UnpackedFloat.pack, if_pos htop]
  cases s <;> rfl

/-- A whole number of more than 53 bits is infinite as a double, or some whole number of as many bits. -/
theorem worth_ofScientific_large (hn : 2 ^ 53 ≤ n) (hfinite : (Float.ofScientific n false 0).isInf = false) :
    ∃ k : Nat, 2 ^ 53 ≤ k ∧ (real (Float.ofScientific n false 0)).worth? = some (.ofRat k) := by
  have hpos : 0 < n := by omega
  have hlog : 53 ≤ n.log2 := (Nat.le_log2 hpos.ne').2 hn
  have hscaled : (n <<< 53 * 10 ^ 0).log2 = n.log2 + 53 := by
    have hlow := Nat.log2_self_le hpos.ne'
    have hhigh := Nat.lt_log2_self (n := n)
    rw [Nat.pow_zero, Nat.mul_one, Nat.shiftLeft_eq]
    apply log2_eq
    · rw [Nat.pow_add]
      exact Nat.mul_le_mul_right _ hlow
    · rw [Nat.add_right_comm, Nat.pow_add]
      exact Nat.mul_lt_mul_of_pos_right hhigh (Nat.two_pow_pos 53)
  obtain ⟨m, e, h, hround, hl, hu, he⟩ := round_long (s := .positive) (m := n <<< 53 * 10 ^ 0) (e := -53)
    (by omega) (by omega)
  have hmodel : (Float.ofScientific n false 0).toModel = Float.Model.pack (.finite .positive m e h) := by
    rw [ofScientific_large hn, ofScientific_eq hpos, hround]
  by_cases hlarge : 971 < e
  · have hinf : (Float.ofScientific n false 0).isInf = true := by
      show (Float.ofScientific n false 0).toModel.unpack.isInf = true
      rw [hmodel, unpack_pack_large h hlarge]
      rfl
    exact absurd hinf (by simp [hfinite])
  · refine ⟨m * 2 ^ e.toNat, ?_, ?_⟩
    · calc 2 ^ 53 = 2 ^ 52 * 2 ^ 1 := rfl
        _ ≤ m * 2 ^ e.toNat := Nat.mul_le_mul hl (Nat.pow_le_pow_right two_pos (by omega))
    · have hcast : (2 : ℚ) ^ e = 2 ^ e.toNat := by
        rw [← zpow_natCast, Int.toNat_of_nonneg (by omega)]
      show partsWorth? (Float.ofScientific n false 0).toModel.unpack = _
      rw [hmodel, unpack_pack hl hu (by omega) (by omega), partsWorth?, Sign.apply, hcast]
      push_cast
      rfl

end Number

end Conductor
