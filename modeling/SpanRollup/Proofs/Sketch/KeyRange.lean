import SpanRollup.Digest.Basic
import SpanRollup.Proofs.Digest.Formed
import SpanRollup.Proofs.Number.Rounding

/-!
# The keys of durations

On the scale of a legal resolution the keys of durations are small whole numbers, so that no
difference of two of them wraps around. Both the logarithm of the duration and that of the ratio
between keys are off by at most one magnitude from what the fixed-point series gives, and coarse
bounds of the series are enough.
-/

namespace SpanRollup

/-! ## The series -/

namespace FixedPoint

theorem mul_le {x y : Nat} (h : y ≤ one) : mul x y ≤ x := by
  unfold mul
  rw [Nat.shiftRight_eq_div_pow]
  exact Nat.div_le_of_le_mul (by rw [Nat.mul_comm]; exact Nat.mul_le_mul_right x h)

theorem oddPowers_le {square : Nat} (h : square ≤ one) (terms power k : Nat) :
    oddPowers square terms power k ≤ terms * power := by
  induction terms generalizing power k with
  | zero => exact Nat.zero_le _
  | succ terms ih =>
    have hnext : oddPowers square terms (mul power square) (k + 2) ≤ terms * power :=
      Nat.le_trans (ih _ _) (Nat.mul_le_mul_left terms (mul_le h))
    have hterm : power / k ≤ power := Nat.div_le_self _ _
    rw [oddPowers, Nat.succ_mul]
    omega

theorem atanh_le {z : Nat} (h : z ≤ one) : atanh z ≤ 52 * z :=
  oddPowers_le (Nat.le_trans (mul_le h) h) 52 z 1

theorem le_atanh (z : Nat) : z ≤ atanh z := by
  unfold atanh
  rw [oddPowers, Nat.div_one]
  exact Nat.le_add_right _ _

theorem lnTwo_le : lnTwo ≤ one := by decide

theorem one_le_lnTwo : one ≤ 2 * lnTwo := by decide

/-- The logarithm of a ratio below `2 ^ (k + 1)`. -/
theorem ln_le {num den k : Nat} (h : (num / den).log2 ≤ k) : ln num den ≤ (k + 104) * one := by
  unfold ln
  dsimp only
  generalize (num / den).log2 = j at h
  have hz : (num - den * 2 ^ j) * one / (num + den * 2 ^ j) ≤ one :=
    Nat.div_le_of_le_mul (Nat.mul_le_mul_right _ (by omega))
  have hlnTwo : j * lnTwo ≤ k * one := Nat.mul_le_mul h lnTwo_le
  have hatanh := atanh_le hz
  rw [Nat.add_mul]
  omega

/-- The logarithm of a ratio that is well above one. -/
theorem le_ln {num den : Nat} (hd : 0 < den) (h : den ≤ 2 ^ 13 * (num - den)) :
    one ≤ 2 ^ 15 * ln num den := by
  unfold ln
  dsimp only
  rcases Nat.eq_zero_or_pos (num / den).log2 with hlog | hlog
  · have hnum : num < 2 * den := by
      have hlt : num / den < 2 ^ ((num / den).log2 + 1) := Nat.lt_log2_self
      rwa [hlog, Nat.div_lt_iff_lt_mul hd] at hlt
    have hz : 2 ^ 145 ≤ (num - den) * one / (num + den) := by
      refine (Nat.le_div_iff_mul_le (by omega)).mpr ?_
      calc 2 ^ 145 * (num + den) ≤ 2 ^ 145 * (2 ^ 15 * (num - den)) :=
            Nat.mul_le_mul_left _ (by omega)
        _ = (num - den) * one := by rw [one, places]; ring
    have hatanh := le_atanh ((num - den) * one / (num + den))
    rw [hlog, Nat.pow_zero, Nat.mul_one]
    have hone : one = 2 ^ 15 * 2 ^ 145 := rfl
    omega
  · have hmul : 1 * lnTwo ≤ (num / den).log2 * lnTwo := Nat.mul_le_mul_right _ hlog
    have := one_le_lnTwo
    omega

end FixedPoint

/-! ## Rounded functions -/

namespace Binary64

/-- An approximation that counts is next to the exact value. -/
theorem orNearest_near (approximation exact : Binary64) :
    (approximation.orNearest exact).isNegative = exact.isNegative ∧
      (approximation.orNearest exact).magnitude ≤ exact.magnitude + 1 ∧
      exact.magnitude ≤ (approximation.orNearest exact).magnitude + 1 := by
  unfold orNearest
  split
  · rename_i h
    simpa [adjacent, and_assoc] using h
  · exact ⟨rfl, Nat.le_succ _, Nat.le_succ _⟩

theorem isNaN_of_le {x : Binary64} (h : x.magnitude ≤ infinityMagnitude) : x.isNaN = false := by
  rwa [isNaN, decide_eq_false_iff_not, Nat.not_lt]

theorem isInfinite_of_lt {x : Binary64} (h : x.magnitude < infinityMagnitude) :
    x.isInfinite = false := by
  rw [isInfinite, decide_eq_false_iff_not]
  exact Nat.ne_of_lt h

theorem units_of_nonneg {x : Binary64} (h : x.isNegative = false) :
    x.units = magnitudeUnits x.magnitude := by
  rw [units, h]
  rfl

theorem isNegative_lnRatio {num den : Nat} (hd : den ≤ num) :
    (lnRatio num den).isNegative = false := by
  rw [lnRatio, if_pos hd, ofRatio, isNegative_nearest]

theorem magnitude_lnRatio_le {num den k : Nat} (j : Nat) (hd : den ≤ num)
    (hk : (num / den).log2 ≤ k) (hj : k + 104 ≤ 2 ^ j) :
    (lnRatio num den).magnitude ≤ powerMagnitude (j + 1074) := by
  rw [lnRatio, if_pos hd, ofRatio, magnitude_nearest]
  exact nearest_ratio_le j (Nat.two_pow_pos _)
    (Nat.le_trans (FixedPoint.ln_le hk) (Nat.mul_le_mul_right _ hj))

theorem log2_div_unitsPerOne_le {n k : Nat} (h : n < 2 * powerUnits (k + 1074)) :
    (n / unitsPerOne).log2 ≤ k := by
  rw [powerUnits_add, ← unitsPerOne_eq] at h
  rcases Nat.eq_zero_or_pos (n / unitsPerOne) with h0 | h0
  · rw [h0, Nat.log2_zero]
    exact Nat.zero_le _
  · rw [← Nat.lt_succ_iff, Nat.log2_lt (by omega), Nat.div_lt_iff_lt_mul unitsPerOne_pos,
      Nat.pow_succ', Nat.mul_assoc]
    exact h

/-! ### The logarithm of a duration -/

theorem ln_ofInt {n : Int} (h : 1 < n) (h' : n < 2 ^ 63) :
    (ofInt n).ln.isNegative = false ∧ (ofInt n).ln.magnitude ≤ powerMagnitude 1083 := by
  have hn : 0 ≤ n := by omega
  have hle := magnitude_ofInt_lt hn h'
  have hge := le_magnitude_ofInt 0 (by decide) (show 2 ^ 0 ≤ n by omega)
  have hneg := isNegative_ofInt hn
  generalize ofInt n = x at *
  have hfin : x.magnitude < infinityMagnitude := Nat.lt_of_le_of_lt hle (by decide)
  have hlow := le_magnitudeUnits (by decide) hge
  have hhigh := magnitudeUnits_le (k := 63 + 1074) (by decide) hle
  rw [powerUnits_add, ← unitsPerOne_eq, Nat.pow_zero, Nat.one_mul] at hlow
  have hnearest : x.lnNearest = lnRatio (magnitudeUnits x.magnitude) unitsPerOne := by
    have h0 : 0 < powerMagnitude (0 + 1074) := by decide
    rw [lnNearest, isNaN_of_le hfin.le, if_neg (by decide), if_neg (by omega), hneg,
      if_neg (by decide), isInfinite_of_lt hfin, if_neg (by decide)]
  have hlog : (magnitudeUnits x.magnitude / unitsPerOne).log2 ≤ 63 := by
    have hpos := powerUnits_pos (63 + 1074)
    exact log2_div_unitsPerOne_le (by omega)
  have hexact : x.lnNearest.magnitude ≤ powerMagnitude (8 + 1074) := by
    rw [hnearest]
    exact magnitude_lnRatio_le 8 hlow hlog (by decide)
  have hsign : x.lnNearest.isNegative = false := by
    rw [hnearest]
    exact isNegative_lnRatio hlow
  have hnear := orNearest_near (Logarithm.approximate x.magnitude) x.lnNearest
  unfold powerMagnitude at hexact ⊢
  unfold ln
  split
  · exact ⟨hsign, by omega⟩
  · exact ⟨hnear.1.trans hsign, by omega⟩

/-! ### The logarithm of the ratio between keys -/

/-- The logarithm of one plus a number that is not too small. -/
theorem lnOnePlus_range {x : Binary64} (hneg : x.isNegative = false)
    (hge : powerMagnitude 1061 ≤ x.magnitude) (hlt : x.magnitude < infinityMagnitude) :
    x.lnOnePlus.isNegative = false ∧ powerMagnitude 1058 ≤ x.lnOnePlus.magnitude ∧
      x.lnOnePlus.magnitude ≤ powerMagnitude 1086 := by
  have hnearest : x.lnOnePlusNearest =
      lnRatio (unitsPerOne + magnitudeUnits x.magnitude) unitsPerOne := by
    have hpos := unitsPerOne_pos
    have htiny : 0x3c90000000000000 < powerMagnitude 1061 := by decide
    rw [lnOnePlusNearest, isNaN_of_le hlt.le, if_neg (by decide), if_neg (by omega),
      isInfinite_of_lt hlt, if_neg (by decide), units_of_nonneg hneg]
    dsimp only
    rw [if_neg (by omega), if_neg (by omega), ← Nat.cast_add, Int.toNat_natCast]
  have hlow := le_magnitudeUnits (by decide) hge
  have hhigh := magnitudeUnits_lt (k := 1024 + 1074) (by decide) hlt
  have hnear := orNearest_near (LogarithmOnePlus.approximate x) x.lnOnePlusNearest
  unfold lnOnePlus
  generalize magnitudeUnits x.magnitude = u at *
  have hden : unitsPerOne ≤ unitsPerOne + u := Nat.le_add_right _ _
  have hsign : x.lnOnePlusNearest.isNegative = false := by
    rw [hnearest]
    exact isNegative_lnRatio hden
  have hupper : x.lnOnePlusNearest.magnitude ≤ powerMagnitude (11 + 1074) := by
    have hone : unitsPerOne ≤ powerUnits (1024 + 1074) := by
      rw [unitsPerOne_eq]
      exact powerUnits_mono (by decide)
    have hlog : ((unitsPerOne + u) / unitsPerOne).log2 ≤ 1024 :=
      log2_div_unitsPerOne_le (by omega)
    rw [hnearest]
    exact magnitude_lnRatio_le 11 hden hlog (by decide)
  have hlower : powerMagnitude 1059 ≤ x.lnOnePlusNearest.magnitude := by
    have hln : FixedPoint.one ≤ 2 ^ 15 * FixedPoint.ln (unitsPerOne + u) unitsPerOne := by
      refine FixedPoint.le_ln unitsPerOne_pos ?_
      rw [Nat.add_sub_cancel_left]
      calc unitsPerOne = powerUnits (13 + 1061) := unitsPerOne_eq
        _ = 2 ^ 13 * powerUnits 1061 := powerUnits_add 13 1061
        _ ≤ 2 ^ 13 * u := Nat.mul_le_mul_left _ hlow
    rw [hnearest, lnRatio, if_pos hden, ofRatio, magnitude_nearest]
    exact le_nearest_ratio 15 (Nat.two_pow_pos _) (by decide) (by decide) hln
  unfold powerMagnitude at hupper hlower ⊢
  split
  · exact ⟨hsign, by omega, by omega⟩
  · exact ⟨hnear.1.trans hsign, by omega, by omega⟩

/-! ### Sums and products -/

theorem one_lt_infinity : one.magnitude < infinityMagnitude := magnitude_one ▸ by decide

theorem units_one : one.units = powerUnits 1074 := by
  rw [units_of_nonneg isNegative_one, magnitude_one, magnitudeUnits_powerMagnitude (by decide)]

theorem units_neg {x : Binary64} (h : x.isNegative = false) :
    x.neg.units = -(magnitudeUnits x.magnitude : Int) := by
  rw [units, isNegative_neg, h, magnitude_neg, Bool.not_false, if_pos rfl]

theorem add_eq {x y : Binary64} (hxfin : x.magnitude < infinityMagnitude)
    (hyfin : y.magnitude < infinityMagnitude) {n : Nat} (hn : 0 < n) (h : x.units + y.units = n) :
    x.add y = ofMagnitude false (nearest n 1) := by
  rw [add, isNaN_of_le hxfin.le, if_neg (by decide), isNaN_of_le hyfin.le, if_neg (by decide),
    isInfinite_of_lt hxfin, if_neg (by decide), isInfinite_of_lt hyfin, if_neg (by decide), h]
  dsimp only
  rw [if_neg (by omega), decide_eq_false (by omega), Int.natAbs_natCast]

theorem mul_eq {x y : Binary64} (hx : x.isNegative = false) (hy : y.isNegative = false)
    (hxfin : x.magnitude < infinityMagnitude) (hyfin : y.magnitude < infinityMagnitude) :
    x.mul y = ofMagnitude false
      (nearest (magnitudeUnits x.magnitude * magnitudeUnits y.magnitude) unitsPerOne) := by
  rw [mul, isNaN_of_le hxfin.le, isNaN_of_le hyfin.le, isInfinite_of_lt hxfin,
    isInfinite_of_lt hyfin, hx, hy, if_neg (by decide), if_neg (by decide), if_neg (by decide),
    bne_self_eq_false]

/-! ### Quotients -/

section Quotients

variable {x y : Binary64} (hx : x.isNegative = false) (hy : y.isNegative = false)
  (hxfin : x.magnitude < infinityMagnitude) (hyfin : y.magnitude < infinityMagnitude)
  (h0 : 0 < y.magnitude)
include hx hy hxfin hyfin h0

theorem div_eq : x.div y = ofMagnitude false
    (nearest (magnitudeUnits x.magnitude * unitsPerOne) (magnitudeUnits y.magnitude)) := by
  rw [div, isNaN_of_le hxfin.le, isNaN_of_le hyfin.le, isInfinite_of_lt hxfin,
    isInfinite_of_lt hyfin, hx, hy]
  simp only [Bool.false_eq_true, ↓reduceIte, bne_self_eq_false]
  rw [if_neg (by omega)]

/-- A quotient whose dividend is not too small beside its divisor. -/
theorem le_magnitude_div (j : Nat) {k : Nat} (hjk : j + k = 1074) (hk : 52 ≤ k)
    (h : magnitudeUnits y.magnitude ≤ 2 ^ j * magnitudeUnits x.magnitude) :
    (x.div y).isNegative = false ∧ powerMagnitude k ≤ (x.div y).magnitude ∧
      (x.div y).magnitude ≤ infinityMagnitude := by
  rw [div_eq hx hy hxfin hyfin h0, isNegative_nearest, magnitude_nearest]
  exact ⟨rfl, le_nearest_ratio j (magnitudeUnits_pos h0) hjk hk h, nearest_le_infinity _ _⟩

/-- A quotient whose dividend is not too large beside its divisor. -/
theorem magnitude_div_le (j : Nat)
    (h : magnitudeUnits x.magnitude ≤ 2 ^ j * magnitudeUnits y.magnitude) :
    (x.div y).isNegative = false ∧ (x.div y).magnitude ≤ powerMagnitude (j + 1074) := by
  rw [div_eq hx hy hxfin hyfin h0, isNegative_nearest, magnitude_nearest]
  exact ⟨rfl, nearest_ratio_le j (magnitudeUnits_pos h0) h⟩

end Quotients

theorem zero_lt_one : zero.lt one = true := by
  rw [lt_iff, rank_zero, rank_one]
  exact ⟨⟨isNaN_zero, isNaN_one⟩, by decide⟩

/-- The numbers between zero and one. -/
theorem range_of_lt_one {q : Binary64} (hpos : zero.lt q = true) (hone : q.lt one = true) :
    q.isNegative = false ∧ q.magnitude < powerMagnitude 1074 := by
  have hpos := (lt_iff.mp hpos).2
  have hlt := (lt_iff.mp hone).2
  rw [rank_zero] at hpos
  rw [rank_one] at hlt
  unfold rank at hpos hlt
  cases hneg : q.isNegative with
  | true =>
    rw [hneg, if_pos rfl] at hpos
    omega
  | false =>
    rw [hneg, if_neg (by decide)] at hlt
    exact ⟨rfl, by omega⟩

theorem ceilInt32_range {x : Binary64} (j : Nat) (hj : j ≤ 30) (hneg : x.isNegative = false)
    (h : x.magnitude ≤ powerMagnitude (j + 1074)) :
    0 ≤ x.ceilInt32.toInt ∧ x.ceilInt32.toInt ≤ 2 ^ j := by
  have hfin : x.magnitude < infinityMagnitude :=
    Nat.lt_of_le_of_lt (Nat.le_trans h (powerMagnitude_mono (l := 1104) (by omega))) (by decide)
  have hunits := magnitudeUnits_le (by omega) h
  rw [powerUnits_add, ← unitsPerOne_eq] at hunits
  have hpos : (0 : Int) < unitsPerOne := Int.natCast_pos.mpr unitsPerOne_pos
  have hpow : (2 : Int) ^ j ≤ 2 ^ 30 := pow_le_pow_right₀ (by decide) hj
  have hlow : 0 ≤ -(-(magnitudeUnits x.magnitude : Int) / unitsPerOne) := by
    have : -(magnitudeUnits x.magnitude : Int) / unitsPerOne ≤ 0 :=
      Int.ediv_nonpos_of_nonpos_of_neg (by omega) hpos
    omega
  have hhigh : -(-(magnitudeUnits x.magnitude : Int) / unitsPerOne) ≤ 2 ^ j := by
    have : -(2 : Int) ^ j ≤ -(magnitudeUnits x.magnitude : Int) / unitsPerOne := by
      rw [Int.le_ediv_iff_mul_le hpos, neg_mul, neg_le_neg_iff]
      exact_mod_cast hunits
    omega
  rw [ceilInt32, isNaN_of_le hfin.le, if_neg (by decide), isInfinite_of_lt hfin,
    if_neg (by decide), units_of_nonneg hneg]
  generalize -(-(magnitudeUnits x.magnitude : Int) / unitsPerOne) = c at *
  rw [Int32.toInt_ofInt_of_le (by omega) (by omega)]
  omega

end Binary64

/-! ## Scales -/

namespace Resolution

open Binary64

/-- The magnitudes of legal accuracies. -/
theorem accuracy_range {a : Binary64} (hpos : zero.lt a = true) (hone : a.lt one = true)
    (hmin : a.lt minAccuracy = false) :
    a.isNegative = false ∧ powerMagnitude 1060 ≤ a.magnitude ∧
      a.magnitude < powerMagnitude 1074 := by
  obtain ⟨hneg, hhigh⟩ := range_of_lt_one hpos hone
  have hminRank : (powerMagnitude 1060 : Int) ≤ minAccuracy.rank := by
    rw [minAccuracy, ofRatio, rank, isNegative_nearest, magnitude_nearest, if_neg (by decide)]
    exact_mod_cast le_nearest_ratio 14 (by decide) (by decide) (by decide) (by decide)
  have hle := le_of_not_lt (isNaN_of_lt minAccuracy_lt_one).1 (isNaN_of_lt hone).1 hmin
  have hrank := (le_iff.mp hle).2
  rw [rank_of_nonneg hneg] at hrank
  exact ⟨hneg, by omega, hhigh⟩

/-- Twice an accuracy. -/
theorem two_mul_range {a : Binary64} (hneg : a.isNegative = false)
    (hlow : powerMagnitude 1060 ≤ a.magnitude) (hhigh : a.magnitude < powerMagnitude 1074) :
    ((ofNat 2).mul a).isNegative = false ∧ powerMagnitude 1061 ≤ ((ofNat 2).mul a).magnitude ∧
      ((ofNat 2).mul a).magnitude ≤ powerMagnitude 1075 := by
  have hfin : powerMagnitude (1 + 1074) < infinityMagnitude := by decide
  have hafin : a.magnitude < infinityMagnitude := Nat.lt_trans hhigh (by decide)
  have hmul : (ofNat 2).mul a =
      ofMagnitude false (nearest (2 * unitsPerOne * magnitudeUnits a.magnitude) unitsPerOne) := by
    rw [mul_eq (isNegative_ofNat 2) hneg (magnitude_two ▸ hfin) hafin, magnitude_two,
      magnitudeUnits_powerMagnitude (by decide), powerUnits_add, ← unitsPerOne_eq, Nat.pow_one]
  have hunits := magnitudeUnits_lt (by decide) hhigh
  have hunits' := le_magnitudeUnits (by decide) hlow
  rw [hmul, isNegative_nearest, magnitude_nearest]
  refine ⟨rfl, ?_, ?_⟩
  · refine powerMagnitude_le_nearest (1 + 1060) unitsPerOne_pos (by decide) (by decide) ?_
    calc powerUnits (1 + 1060) * unitsPerOne = 2 * unitsPerOne * powerUnits 1060 := by
          rw [powerUnits_add]; ring
      _ ≤ 2 * unitsPerOne * magnitudeUnits a.magnitude := Nat.mul_le_mul_left _ hunits'
  · refine nearest_le (1 + 1074) unitsPerOne_pos (by decide) ?_
    calc 2 * unitsPerOne * magnitudeUnits a.magnitude
        ≤ 2 * unitsPerOne * powerUnits 1074 := Nat.mul_le_mul_left _ hunits.le
      _ = powerUnits (1 + 1074) * unitsPerOne := by rw [powerUnits_add]; ring

/-- One less an accuracy. -/
theorem one_sub_range {a : Binary64} (hneg : a.isNegative = false)
    (hhigh : a.magnitude < powerMagnitude 1074) :
    (one.sub a).isNegative = false ∧ powerMagnitude 1021 ≤ (one.sub a).magnitude ∧
      (one.sub a).magnitude ≤ powerMagnitude (13 + 1061) := by
  have hafin : a.neg.magnitude < infinityMagnitude := by
    rw [magnitude_neg]
    exact Nat.lt_trans hhigh (by decide)
  have hgap : magnitudeUnits a.magnitude + powerUnits 1021 ≤ powerUnits 1074 :=
    magnitudeUnits_add_le (j := 1021) hhigh
  have hpos := powerUnits_pos 1021
  have hsum : one.units + a.neg.units =
      (powerUnits 1074 - magnitudeUnits a.magnitude : Nat) := by
    rw [units_one, units_neg hneg]
    omega
  rw [sub, add_eq one_lt_infinity hafin (by omega) hsum, isNegative_nearest, magnitude_nearest]
  exact ⟨rfl, powerMagnitude_le_nearest 1021 Nat.one_pos (by decide) (by decide) (by omega),
    nearest_le 1074 Nat.one_pos (by decide) (by omega)⟩

/-- What the ratio between keys exceeds one by. -/
theorem excess_range {a : Binary64} (hneg : a.isNegative = false)
    (hlow : powerMagnitude 1060 ≤ a.magnitude) (hhigh : a.magnitude < powerMagnitude 1074) :
    let excess := ((ofNat 2).mul a).div (one.sub a)
    excess.isNegative = false ∧ powerMagnitude 1061 ≤ excess.magnitude ∧
      excess.magnitude ≤ powerMagnitude 1128 := by
  intro excess
  obtain ⟨hsign, hdivisor, hdivisor'⟩ := one_sub_range hneg hhigh
  obtain ⟨hsign', hdividend, hdividend'⟩ := two_mul_range hneg hlow hhigh
  have hfin : ((ofNat 2).mul a).magnitude < infinityMagnitude :=
    Nat.lt_of_le_of_lt hdividend' (by decide)
  have hfin' : (one.sub a).magnitude < infinityMagnitude :=
    Nat.lt_of_le_of_lt hdivisor' (by decide)
  have h0 : 0 < (one.sub a).magnitude := Nat.lt_of_lt_of_le (by decide) hdivisor
  obtain ⟨hnonneg, hle, -⟩ :=
    le_magnitude_div hsign' hsign hfin hfin' h0 13 (k := 1061) (by decide) (by decide) (by
      calc magnitudeUnits (one.sub a).magnitude ≤ powerUnits (13 + 1061) :=
            magnitudeUnits_le (by decide) hdivisor'
        _ = 2 ^ 13 * powerUnits 1061 := powerUnits_add 13 1061
        _ ≤ 2 ^ 13 * magnitudeUnits ((ofNat 2).mul a).magnitude :=
            Nat.mul_le_mul_left _ (le_magnitudeUnits (by decide) hdividend))
  obtain ⟨-, hge⟩ := magnitude_div_le hsign' hsign hfin hfin' h0 54 (by
    calc magnitudeUnits ((ofNat 2).mul a).magnitude ≤ powerUnits (54 + 1021) :=
          magnitudeUnits_le (by decide) hdividend'
      _ = 2 ^ 54 * powerUnits 1021 := powerUnits_add 54 1021
      _ ≤ 2 ^ 54 * magnitudeUnits (one.sub a).magnitude :=
          Nat.mul_le_mul_left _ (le_magnitudeUnits (by decide) hdivisor))
  exact ⟨hnonneg, hle, hge⟩

/-- One more than a number. -/
theorem one_add_range {x : Binary64} (k : Nat) (hneg : x.isNegative = false) (hk : 1074 ≤ k)
    (hk' : k < 2097) (h : x.magnitude ≤ powerMagnitude k) :
    (one.add x).isNegative = false ∧ powerMagnitude 1074 ≤ (one.add x).magnitude ∧
      (one.add x).magnitude ≤ powerMagnitude (k + 1) := by
  have hfin : x.magnitude < infinityMagnitude :=
    Nat.lt_of_le_of_lt (Nat.le_trans h (powerMagnitude_mono (l := 2096) (by omega))) (by decide)
  have hunits := magnitudeUnits_le (by omega) h
  have hpos := powerUnits_pos 1074
  have hmono := powerUnits_mono hk
  have hdouble : powerUnits (k + 1) = 2 * powerUnits k := by
    rw [Nat.add_comm, powerUnits_add, Nat.pow_one]
  have hsum : one.units + x.units = (powerUnits 1074 + magnitudeUnits x.magnitude : Nat) := by
    rw [units_one, units_of_nonneg hneg, Nat.cast_add]
  rw [add_eq one_lt_infinity hfin (by omega) hsum, isNegative_nearest, magnitude_nearest]
  exact ⟨rfl, powerMagnitude_le_nearest 1074 Nat.one_pos (by decide) (by decide) (by omega),
    nearest_le _ Nat.one_pos (by omega) (by omega)⟩

theorem lnGamma_scale (r : Resolution) :
    r.scale.lnGamma = (((ofNat 2).mul r.accuracy).div (one.sub r.accuracy)).lnOnePlus := by
  rw [scale, Scale.ofAccuracy]

theorem gamma_scale (r : Resolution) :
    r.scale.gamma = one.add (((ofNat 2).mul r.accuracy).div (one.sub r.accuracy)) := by
  rw [scale, Scale.ofAccuracy]

theorem minValue_scale (r : Resolution) : r.scale.minValue = one := by
  rw [scale, Scale.ofAccuracy]

theorem excess_range_of_isLegal {r : Resolution} (h : r.IsLegal) :
    let excess := ((ofNat 2).mul r.accuracy).div (one.sub r.accuracy)
    excess.isNegative = false ∧ powerMagnitude 1061 ≤ excess.magnitude ∧
      excess.magnitude ≤ powerMagnitude 1128 := by
  obtain ⟨hpos, hone, hmin⟩ := h.ofSettings_eq ▸ accuracy_ofSettings r.accuracy r.maxBins.toNat
  obtain ⟨hneg, hlow, hhigh⟩ := accuracy_range hpos hone hmin
  exact excess_range hneg hlow hhigh

/-- The ratio between keys is well above one. -/
theorem lnGamma_range {r : Resolution} (h : r.IsLegal) :
    r.scale.lnGamma.isNegative = false ∧ powerMagnitude 1058 ≤ r.scale.lnGamma.magnitude ∧
      r.scale.lnGamma.magnitude ≤ powerMagnitude 1086 := by
  obtain ⟨hneg, hlow, hhigh⟩ := excess_range_of_isLegal h
  rw [lnGamma_scale]
  exact lnOnePlus_range hneg hlow (Nat.lt_of_le_of_lt hhigh (by decide))

theorem gamma_range {r : Resolution} (h : r.IsLegal) :
    r.scale.gamma.isNegative = false ∧ powerMagnitude 1074 ≤ r.scale.gamma.magnitude ∧
      r.scale.gamma.magnitude ≤ powerMagnitude 1129 := by
  obtain ⟨hneg, -, hhigh⟩ := excess_range_of_isLegal h
  rw [gamma_scale]
  exact one_add_range 1128 hneg (by decide) (by decide) hhigh

/-- The parameters of the scale of a legal resolution are numbers. -/
theorem scale_same {r : Resolution} (h : r.IsLegal) : r.scale.same r.scale = true := by
  have hgamma : r.scale.gamma.isNaN = false :=
    isNaN_of_le (Nat.le_trans (gamma_range h).2.2 (powerMagnitude_mono (l := 2098) (by decide)))
  have hln : r.scale.lnGamma.isNaN = false :=
    isNaN_of_le (Nat.le_trans (lnGamma_range h).2.2 (powerMagnitude_mono (l := 2098) (by decide)))
  have hvalue : r.scale.minValue.isNaN = false := by rw [minValue_scale, isNaN_one]
  generalize r.scale = scale at hgamma hln hvalue
  unfold Scale.same
  rw [same_self hgamma, same_self hln, same_self hvalue, decide_eq_true rfl, decide_eq_true rfl]
  rfl

/-- The keys of durations on the scale of a legal resolution. -/
theorem key_range {r : Resolution} (h : r.IsLegal) {n : Int} (h1 : 1 < n) (h63 : n < 2 ^ 63) :
    0 ≤ (r.scale.key (.ofInt n)).toInt ∧ (r.scale.key (.ofInt n)).toInt ≤ 2 ^ 25 := by
  obtain ⟨hneg, hlow, hhigh⟩ := lnGamma_range h
  obtain ⟨hlneg, hln⟩ := ln_ofInt h1 h63
  unfold Scale.key
  have hdividend := magnitudeUnits_le (k := 25 + 1058) (by decide) hln
  have hdivisor := le_magnitudeUnits (by decide) hlow
  have hdiv := magnitude_div_le hlneg hneg (Nat.lt_of_le_of_lt hln (by decide))
    (Nat.lt_of_le_of_lt hhigh (by decide)) (Nat.lt_of_lt_of_le (by decide) hlow) 25 (by
      calc magnitudeUnits (ofInt n).ln.magnitude ≤ powerUnits (25 + 1058) := hdividend
        _ = 2 ^ 25 * powerUnits 1058 := powerUnits_add 25 1058
        _ ≤ 2 ^ 25 * magnitudeUnits r.scale.lnGamma.magnitude := Nat.mul_le_mul_left _ hdivisor)
  exact ceilInt32_range 25 (by decide) hdiv.1 hdiv.2

end Resolution

end SpanRollup
