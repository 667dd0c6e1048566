import Conductor.Backoff
import Conductor.Proofs.Number.Exact

/-! How long an attempt waits: two to the power of its number, up to the longest wait, as long as that power is a
double at all. An attempt whose power is not has no wait. -/

namespace Conductor

open Number

variable {n : Nat} {y : Float}

theorem positivePower_two (hy : (real y).worth? = some (.ofRat n)) :
    positivePower (2.0 : Float).abs y = twoPower n := by
  have htwo : twoExponent? (2.0 : Float).abs = some 1 := by decide
  simp [positivePower, htwo, wholeOf?_eq hy]

theorem eq_zero_of_beq (hy : (real y).worth? = some (.ofRat n)) (hzero : (y == 0.0) = true) : n = 0 := by
  have hworth : (real 0.0).worth? = some (.ofRat 0) := rfl
  have hcompare := beq_iff_compare.1 hzero
  rw [compare_unpack, hy, hworth] at hcompare
  simpa using hcompare

theorem realPower_two_eq (hy : (real y).worth? = some (.ofRat n)) (hnonzero : (y == 0.0) = false) :
    realPower 2.0 y = if (twoPower n).isInf then .error .tooLarge else .ok (twoPower n) := by
  have hbase : (2.0 : Float).isNaN = false ∧ (2.0 : Float).isInf = false := by decide
  have hbasis : ((2.0 : Float) == 0.0) = false := by decide
  have hpos : ¬ (2.0 : Float) < 0.0 := by decide
  simp only [realPower, hnonzero, hbase, isFinite_of_worth hy, hbasis, hpos, positivePower_two hy,
    decide_false, Bool.false_and, Bool.false_eq_true, if_false]

theorem realPower_two (hy : (real y).worth? = some (.ofRat n)) (hn : n < 1024) :
    ∃ z, realPower 2.0 y = .ok z ∧ (real z).worth? = some (.ofRat (2 ^ n)) := by
  by_cases hzero : (y == 0.0) = true
  · obtain rfl := eq_zero_of_beq hy hzero
    refine ⟨1.0, by rw [realPower, if_pos hzero], ?_⟩
    simpa using worth_of_compareWhole (n := 1) (x := 1.0) (by decide)
  · have hpower := worth_twoPower hn
    refine ⟨twoPower n, ?_, hpower⟩
    simp [realPower_two_eq hy (Bool.eq_false_iff.2 hzero), isFinite_of_worth hpower]

theorem isInf_twoPower (hn : 1024 ≤ n) : (twoPower n).isInf = true := by
  rw [twoPower, if_pos (by omega)]
  rfl

theorem realPower_two_tooLarge (hy : (real y).worth? = some (.ofRat n)) (hn : 1024 ≤ n) :
    realPower 2.0 y = .error .tooLarge := by
  have hnonzero : (y == 0.0) = false := by
    rw [Bool.eq_false_iff]
    intro hzero
    have hnothing := eq_zero_of_beq hy hzero
    omega
  rw [realPower_two_eq hy hnonzero, if_pos (isInf_twoPower hn)]

theorem nearest?_natCast (h : n < 2 ^ 53) : ∃ y, nearest? n = some y ∧ (real y).worth? = some (.ofRat n) := by
  have hworth := worth_of_lt h
  refine ⟨Float.ofScientific n false 0, ?_, hworth⟩
  simp [nearest?, isFinite_of_worth hworth]

/-- The double nearest to a whole number from 1024 on is a whole number from 1024 on. -/
theorem worth_nearest?_large (hn : 1024 ≤ n) (h : nearest? n = some y) :
    ∃ k : Nat, 1024 ≤ k ∧ (real y).worth? = some (.ofRat k) := by
  by_cases hsmall : n < 2 ^ 53
  · obtain ⟨z, hz, hworth⟩ := nearest?_natCast hsmall
    rw [hz, Option.some_inj] at h
    exact ⟨n, hn, h ▸ hworth⟩
  · simp only [nearest?, Int.natAbs_natCast] at h
    split at h
    · cases h
    · rename_i hfinite
      obtain ⟨k, hk, hworth⟩ := worth_ofScientific_large (not_lt.1 hsmall) (Bool.eq_false_iff.2 hfinite)
      rw [if_neg (by omega), Option.some_inj] at h
      exact ⟨k, by omega, h ▸ hworth⟩

namespace Backoff

theorem worth_shorter {x y : Float} {p q : ℚ} (hx : (real x).worth? = some (.ofRat p))
    (hy : (real y).worth? = some (.ofRat q)) :
    ∃ z, shorter (.real x) (.real y) = .real z ∧ (real z).worth? = some (.ofRat (min p q)) := by
  have hcompare : compare? (.real y) (.real x) = some .lt ↔ q < p := by
    rw [compare?_eq, hx, hy]
    simp [compare_lt_iff_lt]
  by_cases hlt : q < p
  · exact ⟨y, if_pos (hcompare.2 hlt), by rw [hy, min_eq_right hlt.le]⟩
  · exact ⟨x, if_neg (mt hcompare.1 hlt), by rw [hx, min_eq_left (not_lt.1 hlt)]⟩

theorem exists_default (hn : n < 1024) :
    ∃ wait, default n = .ok wait ∧ (real wait).worth? = some (.ofRat (min (2 ^ n) 30)) := by
  obtain ⟨y, hy, hworth⟩ := nearest?_natCast (n := n) (by omega)
  obtain ⟨z, hz, hpower⟩ := realPower_two hworth hn
  have hpow : Number.power defaultBase (.whole n) = .ok (.real z) := by
    show Number.power.reals (.real 2.0) (.whole n) = _
    simp only [Number.power.reals, Number.toReal?, hy, hz]
    rfl
  have hlongest : (real 30.0).worth? = some (.ofRat 30) := by
    simpa using worth_of_compareWhole (n := 30) (x := 30.0) (by decide)
  obtain ⟨wait, hwait, hworth⟩ := worth_shorter hpower hlongest
  have hslack : leastSlack defaultSlack = .ok 0.0 := rfl
  refine ⟨wait, ?_, hworth⟩
  have hadd : wait + 0.0 = wait := by
    apply Number.add_zero
    intro hzero
    have hnothing : (real (-0.0)).worth? = some (.ofRat 0) := rfl
    rw [hzero, hnothing, Option.some_inj, Worth.ofRat_inj] at hworth
    have hpos : (0 : ℚ) < min (2 ^ n) 30 := by positivity
    exact hpos.ne hworth
  show delay (.whole n) defaultBase (.real 30.0) defaultSlack = _
  simp only [delay, hpow, hslack, bind, Except.bind, hwait, Number.toReal?, hadd]
  rfl

/-- From attempt 1024 on there is no wait, as the power is no double. -/
theorem default_tooLarge (hn : 1024 ≤ n) : default n = .error .tooLarge := by
  have hpow : Number.power defaultBase (.whole n) = .error .tooLarge := by
    show Number.power.reals (.real 2.0) (.whole n) = _
    simp only [Number.power.reals, Number.toReal?]
    cases hnear : nearest? n with
    | none => rfl
    | some y =>
      obtain ⟨k, hk, hworth⟩ := worth_nearest?_large hn hnear
      simp only [realPower_two_tooLarge hworth hk]
      rfl
  show delay (.whole n) defaultBase longest defaultSlack = _
  simp only [delay, hpow]
  rfl

end Backoff

end Conductor
