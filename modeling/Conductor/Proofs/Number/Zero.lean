import Mathlib

/-! The two zeros among the doubles. Adding a zero leaves every double as it is but the negative zero, and no
sum of doubles is a negative zero unless both of them are. -/

namespace Conductor

namespace Number

open Float.Model UnpackedFloat

/-! A double is made of its parts. -/

theorem toBitVec_ofBitVec (b : BitVec 1) : (Sign.ofBitVec b).toBitVec = b := by
  revert b
  decide

theorem packComponents_unpacked {spec : Format} (b : BitVec spec.numBits) :
    packComponents spec (Sign.ofBitVec (unpackSign b)) (unpackExponent b) (unpackMantissa b) = b := by
  have hm := spec.hm
  have he := spec.he
  rw [packComponents, toBitVec_ofBitVec]
  ext i hi
  have hbit {j : Nat} (hj : j = i) : b.getLsbD j = b[i] := by rw [hj, BitVec.getLsbD_eq_getElem]
  simp only [unpackSign, unpackExponent, unpackMantissa, BitVec.getElem_append, BitVec.getElem_cast]
  split_ifs with hmantissa hexponent
  · simpa using hbit rfl
  · simpa using hbit (by omega)
  · simpa using hbit (by omega)

theorem toNat_implicit {n : Nat} (b : BitVec n) : (1#1 ++ b).toNat = 2 ^ n + b.toNat := by
  rw [BitVec.toNat_append, ← Nat.shiftLeft_add_eq_or_of_lt b.isLt]
  simp [Nat.shiftLeft_eq]

theorem log2_eq {m k : Nat} (hl : 2 ^ k ≤ m) (hu : m < 2 ^ (k + 1)) : m.log2 = k := by
  have hpos : m ≠ 0 := by
    have := Nat.two_pow_pos k
    omega
  exact (Nat.log2_eq_iff hpos).2 ⟨hl, hu⟩

theorem pack_subnormal (s : Sign) (f : BitVec 52) (h : 0 < f.toNat) :
    UnpackedFloat.pack .binary64 (.finite s f.toNat (-1074) h) = packComponents .binary64 s 0#11 f := by
  have hlog : ¬ f.toNat.log2 + 1 = Format.binary64.mantissaBits := by
    intro hlog
    have hbits : Format.binary64.mantissaBits = 53 := rfl
    have hle := (Nat.le_log2 (Nat.ne_of_gt h) (k := 52)).1 (by rw [hbits] at hlog; omega)
    exact absurd f.isLt (Nat.not_lt.2 hle)
  unfold UnpackedFloat.pack
  simp only [if_neg hlog]
  rw [if_neg (by decide), BitVec.ofNat_toNat, BitVec.setWidth_eq]

theorem pack_normal (s : Sign) (e : BitVec 11) (f : BitVec 52) (he : e ≠ -1#11) (h : 0 < (1#1 ++ f).toNat) :
    UnpackedFloat.pack .binary64 (.finite s (1#1 ++ f).toNat (e.toNat - 1075) h) =
      packComponents .binary64 s e f := by
  have hmantissa := f.isLt
  have hlog : (1#1 ++ f).toNat.log2 + 1 = Format.binary64.mantissaBits := by
    rw [toNat_implicit, log2_eq (k := 52) (by omega) (by omega)]
    rfl
  have hbiased : ((e.toNat : Int) - 1075 + (Format.binary64.exponentBias : Nat) +
      (Format.binary64.mantissaBitsWithoutImplicit : Nat)).toNat = e.toNat := by
    show ((e.toNat : Int) - 1075 + 1023 + 52).toNat = _
    omega
  have htop : ¬ 2 ^ 11 ≤ e.toNat + 1 := by
    intro hle
    have hlt := e.isLt
    exact he (BitVec.toNat_inj.1 (by simp; omega))
  have hcut : BitVec.ofNat 52 (1#1 ++ f).toNat = f := by
    rw [toNat_implicit, ← BitVec.toNat_inj, BitVec.toNat_ofNat, Nat.add_mod_left]
    exact Nat.mod_eq_of_lt hmantissa
  unfold UnpackedFloat.pack
  simp only [hbiased, if_pos hlog]
  rw [if_neg htop, BitVec.ofNat_toNat, BitVec.setWidth_eq, hcut]

/-- What is unpacked of a double packs into that double again. -/
theorem pack_unpack (x : Float.Model) : Float.Model.pack x.unpack = x := by
  have hpack : UnpackedFloat.pack .binary64 (UnpackedFloat.unpack .binary64 x.toBits.toBitVec) =
      x.toBits.toBitVec := by
    have hparts := @packComponents_unpacked .binary64 x.toBits.toBitVec
    have hvalid := x.valid.eq_packedNaN
    revert hparts hvalid
    generalize x.toBits.toBitVec = b
    intro hparts hvalid
    unfold UnpackedFloat.unpack
    dsimp only
    split_ifs with hspecial hzero hsmall hzero
    · rw [hspecial, hzero] at hparts
      exact hparts
    · exact (hvalid hspecial hzero).symm
    · rw [hsmall, hzero] at hparts
      exact hparts
    · rw [hsmall] at hparts ⊢
      exact (pack_subnormal _ _ _).trans hparts
    · exact (pack_normal _ _ _ hspecial _).trans hparts
  unfold Float.Model.pack Float.Model.unpack
  simp only [hpack]

/-! Rounding keeps what is not zero from becoming zero, as long as its exponent is one of a double. -/

/-- The parts of a double, as they are packed without being rounded. -/
def Fits : UnpackedFloat → Prop
  | .finite _ m e _ => m < 2 ^ 53 ∧ -1074 ≤ e
  | _ => True

theorem fits_unpack (x : Float.Model) : Fits x.unpack := by
  unfold Float.Model.unpack UnpackedFloat.unpack
  have hmantissa := (@unpackMantissa .binary64 x.toBits.toBitVec).isLt
  dsimp only
  split_ifs with hspecial hzero hsmall hnone
  · trivial
  · trivial
  · trivial
  · refine ⟨?_, ?_⟩
    · exact hmantissa.trans (by decide)
    · rw [hsmall]
      decide
  · have hpos : (@unpackExponent .binary64 x.toBits.toBitVec).toNat ≠ 0 := fun h =>
      hsmall (BitVec.toNat_inj.1 (by simpa using h))
    refine ⟨?_, ?_⟩
    · rw [toNat_implicit]
      have hlt : (@unpackMantissa .binary64 x.toBits.toBitVec).toNat < 2 ^ 52 := hmantissa
      show 2 ^ 52 + _ < _
      omega
    · show -1074 ≤ ((@unpackExponent .binary64 x.toBits.toBitVec).toNat : Int) - 1075
      omega

theorem mantissa_shiftRight (em : ExtendedMantissa) (n : Nat) : (em >>> n).mantissa = em.mantissa / 2 ^ n := by
  induction n with
  | zero => simp [HShiftRight.hShiftRight, Nat.repeat]
  | succ n ih =>
    show (em >>> n).mantissa / 2 = _
    rw [ih, Nat.div_div_eq_div_mul, Nat.pow_succ]

theorem le_roundedMantissa (em : ExtendedMantissa) : em.mantissa ≤ em.roundedMantissa := by
  unfold ExtendedMantissa.roundedMantissa
  rcases em.accuracy with _ | _ | _ | _ <;> simp only [Accuracy.roundToNearestEven] <;> omega

theorem targetExponent_eq (m : Nat) (e : Int) :
    Format.binary64.targetExponent (totalExponent m e) = max (m.log2 + 1 + e - 53) (-1074) := rfl

/-- A mantissa that is shifted to its exponent fits, and is not lost. -/
theorem shifted_bounds {m : Nat} {e : Int} (hm : 0 < m) (he : -1074 ≤ e) (accuracy : Accuracy) :
    0 < (shiftToTargetExponent .binary64 m e accuracy).1.mantissa ∧
      (shiftToTargetExponent .binary64 m e accuracy).1.mantissa < 2 ^ 53 ∧
      -1074 ≤ (shiftToTargetExponent .binary64 m e accuracy).2 := by
  have hlow := Nat.log2_self_le hm.ne'
  have hhigh := Nat.lt_log2_self (n := m)
  have hmantissa : (ExtendedMantissa.ofMantissaAndAccuracy m accuracy).mantissa = m := by
    rcases accuracy with _ | _ | _ | _ <;> rfl
  unfold shiftToTargetExponent shiftToExponent
  dsimp only
  rw [mantissa_shiftRight, hmantissa, targetExponent_eq]
  refine ⟨?_, ?_, by omega⟩
  -- as many bits are dropped as the mantissa has beyond those of a double
  all_goals
    by_cases hlong : 52 ≤ m.log2
    · have hshift : (max ((m.log2 : Int) + 1 + e - 53) (-1074) - e).toNat = m.log2 - 52 := by omega
      rw [hshift]
      have hsplit : 2 ^ m.log2 = 2 ^ 52 * 2 ^ (m.log2 - 52) := by rw [← Nat.pow_add, Nat.add_sub_cancel' hlong]
      have hpos := Nat.two_pow_pos (m.log2 - 52)
      first
      | exact Nat.div_pos (by omega) hpos
      | rw [Nat.div_lt_iff_lt_mul hpos]
        rw [Nat.pow_succ] at hhigh
        omega
    · have hshift : (max ((m.log2 : Int) + 1 + e - 53) (-1074) - e).toNat = 0 := by omega
      rw [hshift, Nat.pow_zero, Nat.div_one]
      first
      | exact hm
      | exact hhigh.trans_le (Nat.pow_le_pow_right (by decide) (by omega))

theorem fits_round (s : Sign) {m : Nat} {e : Int} (hm : 0 < m) (he : -1074 ≤ e) :
    ∃ m' e' h, UnpackedFloat.round .binary64 s m e = .finite s m' e' h ∧ m' < 2 ^ 53 ∧ -1074 ≤ e' := by
  unfold UnpackedFloat.round decreaseExponent roundWithAccuracy
  dsimp only
  have htarget := targetExponent_eq m e
  have hpos : 0 < m <<< (e - Format.binary64.targetExponent (totalExponent m e)).toNat := by
    rw [Nat.shiftLeft_eq]
    exact Nat.mul_pos hm (Nat.two_pow_pos _)
  obtain ⟨hfirst, -, hexponent⟩ := shifted_bounds hpos
    (e := e - (e - Format.binary64.targetExponent (totalExponent m e)).toNat) (by omega) .exact
  revert hfirst hexponent
  generalize shiftToTargetExponent _ _ _ _ = shifted
  intro hfirst hexponent
  obtain ⟨hlast, hsize, hmin⟩ := shifted_bounds (hfirst.trans_le (le_roundedMantissa shifted.1)) hexponent .exact
  rw [dif_neg hlast.ne']
  exact ⟨_, _, _, rfl, hsize, hmin⟩

theorem fits_normalize (mantissa : Int) {e : Int} (he : -1074 ≤ e) :
    Fits (UnpackedFloat.normalize .binary64 mantissa e .positive) ∧
      UnpackedFloat.normalize .binary64 mantissa e .positive ≠ .zero .negative := by
  have hrounded (s : Sign) {m : Nat} (hm : 0 < m) :
      Fits (UnpackedFloat.round .binary64 s m e) ∧ UnpackedFloat.round .binary64 s m e ≠ .zero .negative := by
    obtain ⟨m', e', h, hround, hfits⟩ := fits_round s hm he
    rw [hround]
    exact ⟨hfits, nofun⟩
  unfold UnpackedFloat.normalize
  rcases hsign : compare mantissa 0 with _ | _ | _
  · exact hrounded .negative (by rw [compare_lt_iff_lt] at hsign; omega)
  · exact ⟨trivial, nofun⟩
  · exact hrounded .positive (by rw [compare_gt_iff_gt] at hsign; omega)

/-! The negative zero -/

theorem eq_zero_of_pack {u : UnpackedFloat} (hu : Fits u)
    (h : Float.Model.pack u = Float.Model.pack (.zero .negative)) : u = .zero .negative := by
  have hbits : UnpackedFloat.pack .binary64 u = packedZero .binary64 .negative :=
    congrArg (fun x : Float.Model => x.toBits.toBitVec) h
  cases u with
  | infinity s => cases s <;> exact absurd hbits (by decide)
  | notANumber => exact absurd hbits (by decide)
  | zero s =>
    cases s with
    | negative => rfl
    | positive => exact absurd hbits (by decide)
  | finite s m e hm =>
    obtain ⟨hsize, hmin⟩ := hu
    have hexponent {b : BitVec Format.binary64.numBits} (h : b = packedZero .binary64 .negative) :
        (unpackExponent b).toNat = 0 := by
      rw [h, packedZero, unpackExponent_packComponents]
      rfl
    have hmantissa {b : BitVec Format.binary64.numBits} (h : b = packedZero .binary64 .negative) :
        (unpackMantissa b).toNat = 0 := by
      rw [h, packedZero, unpackMantissa_packComponents]
      rfl
    unfold UnpackedFloat.pack at hbits
    dsimp only at hbits
    split_ifs at hbits with htop hlong
    · have hzero := hexponent hbits
      rw [packedInfinity, unpackExponent_packComponents] at hzero
      exact absurd hzero (by decide)
    · have hzero := hexponent hbits
      rw [unpackExponent_packComponents, BitVec.toNat_ofNat] at hzero
      change ¬ 2 ^ 11 ≤ (e + 1023 + 52).toNat + 1 at htop
      change (e + 1023 + 52).toNat % 2 ^ 11 = 0 at hzero
      omega
    · have hzero := hmantissa hbits
      rw [unpackMantissa_packComponents, BitVec.toNat_ofNat] at hzero
      change m % 2 ^ 52 = 0 at hzero
      change ¬ m.log2 + 1 = 53 at hlong
      have hlog : m.log2 < 53 := (Nat.log2_lt hm.ne').2 hsize
      have hsmall : m < 2 ^ 52 := (Nat.log2_lt hm.ne').1 (by omega)
      omega

theorem eq_zero_of_unpack {x : Float} (h : x.toModel.unpack = .zero .negative) : x = -0.0 := by
  have hmodel : x.toModel = (-0.0 : Float).toModel := by
    rw [← pack_unpack x.toModel, h]
    rfl
  exact congrArg Float.ofModel hmodel

theorem add_zero {x : Float} (h : x ≠ -0.0) : x + 0.0 = x := by
  have hadd : UnpackedFloat.add .binary64 x.toModel.unpack (.zero .positive) = x.toModel.unpack := by
    have hsign : x.toModel.unpack ≠ .zero .negative := fun hx => h (eq_zero_of_unpack hx)
    revert hsign
    cases x.toModel.unpack with
    | zero s => cases s <;> simp [UnpackedFloat.add]
    | infinity | notANumber | finite => exact fun _ => rfl
  show Float.ofModel (Float.Model.pack (UnpackedFloat.add .binary64 x.toModel.unpack (.zero .positive))) = x
  rw [hadd, pack_unpack]

theorem fits_add {u v : UnpackedFloat} (hu : Fits u) (hv : Fits v) :
    Fits (UnpackedFloat.add .binary64 u v) ∧
      (UnpackedFloat.add .binary64 u v = .zero .negative → u = .zero .negative) := by
  cases u with
  | notANumber => exact ⟨trivial, nofun⟩
  | infinity s =>
    cases v with
    | infinity s' => cases s <;> cases s' <;> exact ⟨trivial, nofun⟩
    | notANumber | zero | finite => exact ⟨trivial, nofun⟩
  | zero s =>
    cases v with
    | zero s' =>
      cases s with
      | negative => cases s' <;> exact ⟨trivial, fun _ => rfl⟩
      | positive => cases s' <;> exact ⟨trivial, nofun⟩
    | notANumber | infinity => exact ⟨trivial, nofun⟩
    | finite s' m' e' hm' => exact ⟨hv, nofun⟩
  | finite s m e hm =>
    cases v with
    | notANumber | infinity => exact ⟨trivial, nofun⟩
    | zero s' => exact ⟨hu, nofun⟩
    | finite s' m' e' hm' =>
      obtain ⟨hfits, hzero⟩ := fits_normalize (s.apply (decreaseExponent m e (min e e')).1 +
        s'.apply (decreaseExponent m' e' (min e e')).1) (le_min hu.2 hv.2)
      exact ⟨hfits, fun h => absurd h hzero⟩

theorem sub_eq_add_neg (spec : Format) (u v : UnpackedFloat) :
    UnpackedFloat.sub spec u v = UnpackedFloat.add spec u v.neg := by
  have happly (s : Sign) (n : Int) : (-s).apply n = -s.apply n := by
    cases s with
    | negative => exact (Int.neg_neg n).symm
    | positive => rfl
  cases u <;> cases v <;> simp only [UnpackedFloat.sub, UnpackedFloat.add, UnpackedFloat.neg, happly, Int.sub_eq_add_neg]

theorem fits_neg {u : UnpackedFloat} (h : Fits u) : Fits u.neg := by
  cases u <;> exact h

theorem add_ne_zero {x : Float} (h : x ≠ -0.0) (y : Float) : x + y ≠ -0.0 := by
  intro hsum
  obtain ⟨hfits, hzero⟩ := fits_add (fits_unpack x.toModel) (fits_unpack y.toModel)
  exact h (eq_zero_of_unpack (hzero (eq_zero_of_pack hfits (congrArg Float.toModel hsum))))

theorem sub_ne_zero {x : Float} (h : x ≠ -0.0) (y : Float) : x - y ≠ -0.0 := by
  intro hdifference
  obtain ⟨hfits, hzero⟩ := fits_add (fits_unpack x.toModel) (fits_neg (fits_unpack y.toModel))
  rw [← sub_eq_add_neg] at hfits hzero
  exact h (eq_zero_of_unpack (hzero (eq_zero_of_pack hfits (congrArg Float.toModel hdifference))))

end Number

end Conductor
