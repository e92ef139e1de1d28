import Mathlib
import SpanRollup.Proofs.Sketch.KeyRange

/-!
# The rank of an inner quantile

The rank of a quantile below one is that of a value, however many values there are: the product with
the greatest rank is rounded, but not up to the number of values.

- `nearest_le_of_lt_halfway`: what lies below the middle of two magnitudes is not rounded up.
- `mul_lt_self`: the product with a number below one.
- `Sketch.rank_lt`: the rank.
-/

namespace SpanRollup

theorem roundHalfEven_le_of_lt {num den k : Nat} (h : 2 * num < (2 * k + 1) * den) :
    roundHalfEven num den ≤ k := by
  have hd : 0 < den := Nat.pos_of_mul_pos_left (Nat.zero_lt_of_lt h)
  have hdiv := Nat.div_add_mod num den
  have hmod := Nat.mod_lt num hd
  have hq : num / den ≤ k := by
    rw [← Nat.lt_succ_iff, Nat.div_lt_iff_lt_mul hd, Nat.succ_mul]
    have : (2 * k + 1) * den = 2 * (k * den) + den := by ring
    omega
  unfold roundHalfEven
  dsimp only
  rcases Nat.lt_or_eq_of_le hq with hq | rfl
  · split
    · omega
    · split <;> omega
  · have hhalf : (2 * (num / den) + 1) * den = 2 * (den * (num / den)) + den := by ring
    rw [if_pos (by omega)]

namespace Binary64

/-! ## Halfway between two magnitudes -/

/-- A magnitude as digits, of which there are 53 unless it is among the smallest, and a shift. -/
theorem exists_digits (m : Nat) :
    ∃ digits shift, m = shift * 2 ^ 52 + digits ∧ digits < 2 ^ 53 ∧
      (2 ^ 52 ≤ m → 2 ^ 52 ≤ digits) ∧ (m < 2 ^ 52 → shift = 0) ∧
      magnitudeUnits m = digits * 2 ^ shift ∧
      magnitudeUnits (m + 1) = (digits + 1) * 2 ^ shift := by
  by_cases hm : m < 2 ^ 52
  · refine ⟨m, 0, by omega, by omega, by omega, fun _ => rfl, ?_, ?_⟩
    · rw [magnitudeUnits, if_pos hm, Nat.pow_zero, Nat.mul_one]
    · rw [magnitudeUnits]
      split
      · rw [Nat.pow_zero, Nat.mul_one]
      · obtain rfl : m = 2 ^ 52 - 1 := by omega
        rfl
  · have hexponent : 1 ≤ m / 2 ^ 52 := (Nat.le_div_iff_mul_le (by decide)).mpr (by omega)
    have hmod := Nat.mod_lt m (show 0 < 2 ^ 52 by decide)
    have hdiv := Nat.div_add_mod m (2 ^ 52)
    refine ⟨2 ^ 52 + m % 2 ^ 52, m / 2 ^ 52 - 1, by omega, by omega, by omega, by omega, ?_, ?_⟩
    · rw [magnitudeUnits, if_neg hm]
    · rw [magnitudeUnits, if_neg (by omega)]
      rcases Nat.lt_or_ge (m % 2 ^ 52 + 1) (2 ^ 52) with hlt | hge
      · have hnext : (m + 1) / 2 ^ 52 = m / 2 ^ 52 := by omega
        have hrest : (m + 1) % 2 ^ 52 = m % 2 ^ 52 + 1 := by omega
        rw [hnext, hrest, Nat.add_assoc]
      · -- The digits overflow, and the next magnitude is a power of two.
        have hnext : (m + 1) / 2 ^ 52 - 1 = (m / 2 ^ 52 - 1) + 1 := by omega
        have hrest : (m + 1) % 2 ^ 52 = 0 := by omega
        have hfull : 2 ^ 52 + m % 2 ^ 52 + 1 = 2 ^ 53 := by omega
        rw [hnext, hrest, hfull, Nat.pow_succ]
        ring

theorem magnitudeUnits_lt_succ (m : Nat) : magnitudeUnits m < magnitudeUnits (m + 1) := by
  obtain ⟨digits, shift, -, -, -, -, hm, hsucc⟩ := exists_digits m
  rw [hm, hsucc]
  exact Nat.mul_lt_mul_of_pos_right (Nat.lt_succ_self _) (Nat.two_pow_pos _)

theorem magnitudeUnits_strictMono : StrictMono magnitudeUnits :=
  strictMono_nat_of_lt_succ magnitudeUnits_lt_succ

theorem nearest_le_of_lt_halfway {num den m : Nat}
    (h : 2 * num < (magnitudeUnits m + magnitudeUnits (m + 1)) * den) : nearest num den ≤ m := by
  have hd : 0 < den := Nat.pos_of_mul_pos_left (Nat.zero_lt_of_lt h)
  obtain ⟨digits, shift, hm, hdigits, hfull, hsmall, hunits, hunits'⟩ := exists_digits m
  rw [hunits, hunits'] at h
  have hhalf : 2 * num < (2 * digits + 1) * (den * 2 ^ shift) := by
    calc 2 * num < (digits * 2 ^ shift + (digits + 1) * 2 ^ shift) * den := h
      _ = (2 * digits + 1) * (den * 2 ^ shift) := by ring
  have hlog : (num / den).log2 ≤ 52 + shift := by
    by_cases h0 : num / den = 0
    · rw [h0, Nat.log2_zero]
      exact Nat.zero_le _
    rw [← Nat.lt_succ_iff, Nat.log2_lt h0, Nat.div_lt_iff_lt_mul hd]
    show num < 2 ^ (52 + shift + 1) * den
    have hle : (2 * digits + 1) * (den * 2 ^ shift) ≤ 2 * 2 ^ 53 * (den * 2 ^ shift) :=
      Nat.mul_le_mul_right _ (by omega)
    have hpow : 2 * 2 ^ 53 * (den * 2 ^ shift) = 2 * (2 ^ (52 + shift + 1) * den) := by ring
    omega
  unfold nearest
  dsimp only
  refine Nat.le_trans (Nat.min_le_right _ _) ?_
  rcases Nat.lt_or_ge ((num / den).log2 - 52) shift with hlt | hge
  · have hround : roundHalfEven num (den * 2 ^ ((num / den).log2 - 52)) ≤ 2 ^ 53 := by
      refine roundHalfEven_le (Nat.mul_pos hd (Nat.two_pow_pos _)) ?_
      generalize hs : (num / den).log2 - 52 = s
      have hself : num / den < 2 ^ (53 + s) :=
        Nat.lt_of_lt_of_le Nat.lt_log2_self (Nat.pow_le_pow_right (by decide) (by omega))
      calc num ≤ 2 ^ (53 + s) * den := Nat.le_of_lt ((Nat.div_lt_iff_lt_mul hd).mp hself)
        _ = 2 ^ 53 * (den * 2 ^ s) := by rw [Nat.pow_add]; ring
    have hnormal : 2 ^ 52 ≤ digits := hfull (by
      by_contra hm'
      have := hsmall (by omega)
      omega)
    have : ((num / den).log2 - 52 + 1) * 2 ^ 52 ≤ shift * 2 ^ 52 := Nat.mul_le_mul_right _ hlt
    omega
  · have hshift : (num / den).log2 - 52 = shift := by omega
    rw [hshift, hm]
    exact Nat.add_le_add_left (roundHalfEven_le_of_lt hhalf) _

/-- What is at most a magnitude is not rounded beyond it. -/
theorem nearest_le_of_le {num m : Nat} (h : num ≤ magnitudeUnits m) : nearest num 1 ≤ m := by
  have := magnitudeUnits_lt_succ m
  exact nearest_le_of_lt_halfway (by omega)

/-! ## Products with numbers below one -/

theorem mul_lt_self {q x : Binary64} (hq : q.isNegative = false)
    (hqlt : q.magnitude < powerMagnitude 1074) (hx : x.isNegative = false)
    (hlow : 2 ^ 52 < x.magnitude) (hfin : x.magnitude < infinityMagnitude) :
    (q.mul x).isNegative = false ∧ (q.mul x).magnitude < x.magnitude := by
  rw [mul_eq hq hx (Nat.lt_trans hqlt (by decide)) hfin, isNegative_nearest, magnitude_nearest]
  obtain ⟨m, hm⟩ : ∃ m, x.magnitude = m + 1 := ⟨x.magnitude - 1, by omega⟩
  rw [hm] at hlow ⊢
  obtain ⟨digits, shift, -, -, hfull, -, hunits, hunits'⟩ := exists_digits m
  have hdigits := hfull (by omega)
  refine ⟨rfl, Nat.lt_succ_of_le (nearest_le_of_lt_halfway ?_)⟩
  -- The greatest number below one is less by `2 ^ -53`, which is more than half a step of `x`.
  have hgap : magnitudeUnits q.magnitude + powerUnits 1021 ≤ powerUnits 1074 :=
    magnitudeUnits_add_le (j := 1021) hqlt
  have hone : powerUnits 1074 = 2 ^ 53 * powerUnits 1021 := powerUnits_add 53 1021
  have hpos := powerUnits_pos 1021
  rw [hunits, hunits', unitsPerOne_eq, hone]
  rw [hone] at hgap
  generalize powerUnits 1021 = gap at *
  calc 2 * (magnitudeUnits q.magnitude * ((digits + 1) * 2 ^ shift))
      ≤ 2 * ((2 ^ 53 - 1) * gap * ((digits + 1) * 2 ^ shift)) :=
        Nat.mul_le_mul_left _ (Nat.mul_le_mul_right _ (by omega))
    _ = (2 * (2 ^ 53 - 1) * (digits + 1)) * (gap * 2 ^ shift) := by ring
    _ < (2 ^ 53 * (2 * digits + 1)) * (gap * 2 ^ shift) :=
        Nat.mul_lt_mul_of_pos_right (by omega) (Nat.mul_pos hpos (Nat.two_pow_pos _))
    _ = (digits * 2 ^ shift + (digits + 1) * 2 ^ shift) * (2 ^ 53 * gap) := by ring

/-! ## Whole numbers -/

theorem nearest_zero (den : Nat) : nearest 0 den = 0 := by
  simp [nearest, roundHalfEven]

theorem sub_self {x : Binary64} (hx : x.isNegative = false)
    (hfin : x.magnitude < infinityMagnitude) : x.sub x = zero := by
  have hfin' : x.neg.magnitude < infinityMagnitude := by rwa [magnitude_neg]
  have hsum : x.units + x.neg.units = 0 := by
    rw [units_of_nonneg hx, units_neg hx]
    omega
  rw [sub, add, isNaN_of_le hfin.le, if_neg (by decide), isNaN_of_le hfin'.le,
    if_neg (by decide), isInfinite_of_lt hfin, if_neg (by decide), isInfinite_of_lt hfin',
    if_neg (by decide), hsum]
  dsimp only
  rw [if_pos rfl, hx, Bool.false_and]
  rfl

/-- One less a number that is at least two. -/
theorem sub_one_range {x : Binary64} (hx : x.isNegative = false)
    (hlow : powerMagnitude (1 + 1074) ≤ x.magnitude) (hfin : x.magnitude < infinityMagnitude) :
    (x.sub one).isNegative = false ∧ powerMagnitude 1074 ≤ (x.sub one).magnitude ∧
      (x.sub one).magnitude ≤ x.magnitude := by
  have honefin : one.neg.magnitude < infinityMagnitude := by
    rw [magnitude_neg]
    exact one_lt_infinity
  have hunits := le_magnitudeUnits (by decide) hlow
  rw [powerUnits_add, Nat.pow_one] at hunits
  have hpos := powerUnits_pos 1074
  have hsum : x.units + one.neg.units =
      (magnitudeUnits x.magnitude - powerUnits 1074 : Nat) := by
    rw [units_of_nonneg hx, units_neg isNegative_one, magnitude_one,
      magnitudeUnits_powerMagnitude (by decide)]
    omega
  rw [sub, add_eq hfin honefin (by omega) hsum, isNegative_nearest, magnitude_nearest]
  exact ⟨rfl, powerMagnitude_le_nearest 1074 Nat.one_pos (by decide) (by decide) (by omega),
    nearest_le_of_le (Nat.sub_le _ _)⟩

/-- The whole part of a number whose units are those of less than `n` ones. -/
theorem truncUInt64_lt {x : Binary64} {n : Nat} (hx : x.isNegative = false)
    (hfin : x.magnitude < infinityMagnitude)
    (h : magnitudeUnits x.magnitude < n * unitsPerOne) : x.truncUInt64.toNat < n := by
  have hdiv : magnitudeUnits x.magnitude / unitsPerOne < n :=
    (Nat.div_lt_iff_lt_mul unitsPerOne_pos).mpr h
  have hsize : UInt64.size = 2 ^ 64 := rfl
  rw [truncUInt64, isNaN_of_le hfin.le, hx, Bool.or_false, if_neg (by decide),
    isInfinite_of_lt hfin, if_neg (by decide), UInt64.toNat_ofNat_of_lt' (by omega)]
  omega

end Binary64

/-! ## Ranks -/

namespace Sketch

open Binary64

/-- The rank of an inner quantile is that of a value. -/
theorem rank_lt (s : Sketch) {q : Binary64} (hpos : zero.lt q = true) (hone : q.lt one = true)
    (hcount : s.count ≠ 0) : (s.rank q).toNat < s.count.toNat := by
  obtain ⟨hq, hqlt⟩ := range_of_lt_one hpos hone
  have hn : s.count.toNat ≠ 0 := fun h => hcount (UInt64.toNat_inj.mp h)
  have hn' := s.count.toNat_lt
  unfold rank
  generalize s.count.toNat = n at *
  by_cases hsingle : n = 1
  · subst hsingle
    have hzero : (ofNat 1).sub one = zero := sub_self isNegative_one one_lt_infinity
    have hunits : magnitudeUnits zero.magnitude = 0 := by decide
    have hmul : q.mul zero = zero := by
      rw [mul_eq hq (by decide) (Nat.lt_trans hqlt (by decide)) (by decide), hunits, Nat.mul_zero,
        nearest_zero]
      rfl
    rw [hzero, hmul]
    exact truncUInt64_lt (by decide) (by decide) (by
      rw [hunits, Nat.one_mul]
      exact unitsPerOne_pos)
  have hofNat : ofNat n = ofInt n := by
    rw [ofNat, ofInt, Int.natAbs_natCast, decide_eq_false (by omega)]
  have hlow : powerMagnitude (1 + 1074) ≤ (ofInt n).magnitude :=
    le_magnitude_ofInt 1 (by decide) (by omega)
  have hhigh : (ofInt n).magnitude ≤ powerMagnitude (64 + 1074) :=
    magnitude_ofInt_le 64 (by omega) (by omega)
  have hfin : (ofInt n).magnitude < infinityMagnitude := Nat.lt_of_le_of_lt hhigh (by decide)
  obtain ⟨hsub, hge, hle⟩ := sub_one_range (isNegative_ofInt (by omega)) hlow hfin
  obtain ⟨hmul, hlt⟩ := mul_lt_self hq hqlt hsub (Nat.lt_of_lt_of_le (by decide) hge)
    (Nat.lt_of_le_of_lt hle hfin)
  rw [hofNat]
  refine truncUInt64_lt hmul (by omega) ?_
  -- Otherwise `n` would have been rounded to a lesser number.
  by_contra hnot
  have hround := nearest_le_of_le (Nat.not_lt.mp hnot)
  have hmagnitude := magnitude_ofInt (n := n) (by omega)
  rw [Int.natAbs_natCast] at hmagnitude
  omega

end Sketch

end SpanRollup
