import Mathlib
import SpanRollup.Proofs.Sketch.KeyRange

/-!
# The values of keys

On the scale of a legal resolution the value of a key that is not negative is a positive number,
never zero and never a NaN. Coarse bounds are enough here too: the exponential is at least one half,
and the factor by which it is corrected is not too small.

- `AtLeast`: numbers from a power of two on.
- `exp_atLeast`: the exponential.
- `Resolution.zero_lt_value`: the value of a key.
-/

namespace SpanRollup

theorem FixedPoint.one_le_exp (x : Nat) : one ≤ exp x := by
  rw [exp, factorialPowers]
  exact Nat.le_add_right _ _

namespace Binary64

/-! ## Numbers from a power of two on -/

/-- A number that is not below `powerUnits k`; it may be infinite. -/
structure AtLeast (k : Nat) (x : Binary64) : Prop where
  nonneg : x.isNegative = false
  le_magnitude : powerMagnitude k ≤ x.magnitude
  le_infinity : x.magnitude ≤ infinityMagnitude

variable {x y : Binary64} {j k l : Nat}

theorem AtLeast.magnitude_pos (h : x.AtLeast k) (hk : 52 ≤ k) : 0 < x.magnitude :=
  Nat.lt_of_lt_of_le (show 0 < powerMagnitude 52 by decide)
    (Nat.le_trans (powerMagnitude_mono hk) h.le_magnitude)

theorem AtLeast.zero_lt (h : x.AtLeast k) (hk : 52 ≤ k) : zero.lt x = true := by
  have hpos := h.magnitude_pos hk
  rw [lt_iff, rank_zero, rank_of_nonneg h.nonneg]
  exact ⟨⟨isNaN_zero, isNaN_of_le h.le_infinity⟩, by omega⟩

theorem AtLeast.mul (h : x.AtLeast j) (hy : y.AtLeast k) (hl : j + k = l + 1074) (hj : 52 ≤ j)
    (hk : 52 ≤ k) (hlow : 52 ≤ l) (hhigh : l ≤ 2098) : (x.mul y).AtLeast l := by
  have hx0 := h.magnitude_pos hj
  have hy0 := hy.magnitude_pos hk
  by_cases hfin : x.magnitude < infinityMagnitude ∧ y.magnitude < infinityMagnitude
  · have hunits := le_magnitudeUnits hj h.le_magnitude
    have hunits' := le_magnitudeUnits hk hy.le_magnitude
    have hle := powerMagnitude_le_nearest l unitsPerOne_pos hlow hhigh
      (show powerUnits l * unitsPerOne ≤ magnitudeUnits x.magnitude * magnitudeUnits y.magnitude by
        calc powerUnits l * unitsPerOne = powerUnits (j + k) := by
              rw [unitsPerOne_eq, hl, powerUnits_add]
              rfl
          _ = powerUnits j * powerUnits k := powerUnits_add j k
          _ ≤ magnitudeUnits x.magnitude * magnitudeUnits y.magnitude :=
              Nat.mul_le_mul hunits hunits')
    rw [mul_eq h.nonneg hy.nonneg hfin.1 hfin.2]
    exact ⟨isNegative_nearest _ _ _, by rwa [magnitude_nearest],
      by rw [magnitude_nearest]; exact nearest_le_infinity _ _⟩
  · have hinf : (x.isInfinite || y.isInfinite) = true := by
      rw [Bool.or_eq_true, isInfinite, isInfinite, decide_eq_true_iff, decide_eq_true_iff]
      have := h.le_infinity
      have := hy.le_infinity
      omega
    have hmul : x.mul y = ofMagnitude false infinityMagnitude := by
      have hnonzero : ¬(decide (x.magnitude = 0) || decide (y.magnitude = 0)) = true := by
        simp only [Bool.or_eq_true, decide_eq_true_eq]
        omega
      rw [Binary64.mul, isNaN_of_le h.le_infinity, isNaN_of_le hy.le_infinity, hinf, h.nonneg,
        hy.nonneg, if_neg (by decide), if_neg (by decide), if_pos rfl, if_neg hnonzero]
      rfl
    rw [hmul]
    refine ⟨isNegative_ofMagnitude _ infinityMagnitude_lt, ?_, ?_⟩
    · rw [magnitude_ofMagnitude _ infinityMagnitude_lt]
      exact powerMagnitude_mono (l := 2098) hhigh
    · rw [magnitude_ofMagnitude _ infinityMagnitude_lt]

/-! ## The exponential -/

theorem expNearest_atLeast (hneg : x.isNegative = false) (hle : x.magnitude ≤ infinityMagnitude) :
    x.expNearest.AtLeast 1074 := by
  rw [expNearest, isNaN_of_le hle, if_neg (by decide), hneg]
  split
  · rw [if_neg (by decide)]
    exact ⟨by decide, by decide, by decide⟩
  · have hfixed : 0 ≤ x.units * FixedPoint.one / unitsPerOne := by
      rw [units_of_nonneg hneg]
      exact Int.ediv_nonneg (Int.mul_nonneg (Int.natCast_nonneg _) (Int.natCast_nonneg _))
        (Int.natCast_nonneg _)
    have hk : 0 ≤ x.units * FixedPoint.one / unitsPerOne / FixedPoint.lnTwo :=
      Int.ediv_nonneg hfixed (Int.natCast_nonneg _)
    dsimp only
    generalize x.units * FixedPoint.one / unitsPerOne = fixed at *
    have hneg : (-(fixed / FixedPoint.lnTwo)).toNat = 0 := by omega
    rw [hneg, Nat.pow_zero, Nat.mul_one, ofRatio]
    refine ⟨isNegative_nearest _ _ _, ?_, ?_⟩
    · rw [magnitude_nearest]
      refine le_nearest_ratio 0 (Nat.two_pow_pos _) (by decide) (by decide) ?_
      rw [Nat.pow_zero, Nat.one_mul]
      exact Nat.le_trans (FixedPoint.one_le_exp _) (Nat.le_mul_of_pos_right _ (Nat.two_pow_pos _))
    · rw [magnitude_nearest]
      exact nearest_le_infinity _ _

theorem magnitude_toBinary64_le (x : Scaled) : x.toBinary64.magnitude ≤ infinityMagnitude := by
  rw [Scaled.toBinary64, magnitude_nearest]
  exact nearest_le_infinity _ _

theorem magnitude_approximate_le (x : Scaled) :
    (Exponential.approximate x).magnitude ≤ infinityMagnitude := by
  unfold Exponential.approximate
  dsimp only
  split
  · exact magnitude_toBinary64_le _
  · exact magnitude_toBinary64_le _

theorem exp_atLeast (hneg : x.isNegative = false) (hle : x.magnitude ≤ infinityMagnitude) :
    x.exp.AtLeast 1073 := by
  have hexact := expNearest_atLeast hneg hle
  have hlow := hexact.le_magnitude
  unfold exp
  split
  · exact ⟨hexact.nonneg, Nat.le_trans (powerMagnitude_mono (by decide)) hlow,
      hexact.le_infinity⟩
  · have hnear := orNearest_near (Exponential.approximate (.ofBinary64 x)) x.expNearest
    refine ⟨hnear.1.trans hexact.nonneg, ?_, ?_⟩
    · unfold powerMagnitude at hlow ⊢
      omega
    · unfold orNearest
      split
      · exact magnitude_approximate_le _
      · exact hexact.le_infinity

end Binary64

/-! ## Keys -/

namespace Resolution

open Binary64

variable {r : Resolution}

/-- The factor that puts the value of a key into the middle of the values that have it. -/
theorem middle_atLeast (h : r.IsLegal) :
    ((ofNat 2).div (one.add r.scale.gamma)).AtLeast 1019 := by
  obtain ⟨hneg, -, hhigh⟩ := gamma_range h
  obtain ⟨hsum, hlow', hhigh'⟩ := one_add_range 1129 hneg (by decide) (by decide) hhigh
  obtain ⟨hsign, hle, hinf⟩ := le_magnitude_div (k := 1019) (isNegative_ofNat 2) hsum
    (magnitude_two ▸ (by decide)) (Nat.lt_of_le_of_lt hhigh' (by decide))
    (Nat.lt_of_lt_of_le (by decide) hlow') 55 (by decide) (by decide) (by
      calc magnitudeUnits (one.add r.scale.gamma).magnitude ≤ powerUnits (55 + 1075) :=
            magnitudeUnits_le (by decide) hhigh'
        _ = 2 ^ 55 * powerUnits 1075 := powerUnits_add 55 1075
        _ = 2 ^ 55 * magnitudeUnits (ofNat 2).magnitude := by
            rw [magnitude_two, magnitudeUnits_powerMagnitude (by decide)])
  exact ⟨hsign, hle, hinf⟩

/-- The value of a key is positive. -/
theorem zero_lt_value (h : r.IsLegal) {key : Int32} (hkey : 0 ≤ key.toInt) :
    zero.lt (r.scale.value key) = true := by
  obtain ⟨hneg, -, hhigh⟩ := lnGamma_range h
  have hlt := key.toInt_lt
  have hofInt : (ofInt key.toInt).magnitude ≤ powerMagnitude (31 + 1074) :=
    magnitude_ofInt_le 31 hkey (by omega)
  have hmul := mul_eq (isNegative_ofInt hkey) hneg (Nat.lt_of_le_of_lt hofInt (by decide))
    (Nat.lt_of_le_of_lt hhigh (by decide))
  have hexp : ((ofInt key.toInt).mul r.scale.lnGamma).exp.AtLeast 1073 := by
    rw [hmul]
    refine exp_atLeast (isNegative_nearest _ _ _) ?_
    rw [magnitude_nearest]
    exact nearest_le_infinity _ _
  have hvalue : (r.scale.value key).AtLeast 1018 :=
    hexp.mul (middle_atLeast h) (by decide) (by decide) (by decide) (by decide) (by decide)
  exact hvalue.zero_lt (by decide)

end Resolution

end SpanRollup
