import Mathlib
import SpanRollup.Proofs.Number.Order
import SpanRollup.Sketch.Basic

/-!
# Rounding keeps the order

`nearest` is monotone and meets the powers of two exactly, so bounds by powers of two pass through
every rounded operation, and whole numbers keep their order when they become floats.

- `powerMagnitude`: the magnitude of a power of two, in units.
- `lower_ofInt`, `upper_ofInt`: the extremes of whole numbers are those of their floats.
-/

namespace SpanRollup

/-! ## Halves to even -/

theorem roundHalfEven_le {num den k : Nat} (hd : 0 < den) (h : num ≤ k * den) :
    roundHalfEven num den ≤ k := by
  have hq : num / den ≤ k := Nat.div_le_of_le_mul (by rwa [Nat.mul_comm])
  unfold roundHalfEven
  dsimp only
  rcases Nat.lt_or_eq_of_le hq with hq | hq
  · split
    · omega
    · split <;> omega
  · have hmod : num % den = 0 := by
      have := Nat.div_add_mod num den
      rw [hq, Nat.mul_comm] at this
      omega
    rw [hmod, hq]
    simp [hd]

theorem le_roundHalfEven {num den k : Nat} (hd : 0 < den) (h : k * den ≤ num) :
    k ≤ roundHalfEven num den := by
  have hq : k ≤ num / den := (Nat.le_div_iff_mul_le hd).mpr h
  unfold roundHalfEven
  dsimp only
  split
  · exact hq
  · split <;> omega

theorem roundHalfEven_mono {num num' : Nat} (den : Nat) (h : num ≤ num') :
    roundHalfEven num den ≤ roundHalfEven num' den := by
  have hq : num / den ≤ num' / den := Nat.div_le_div_right h
  rcases Nat.lt_or_eq_of_le hq with hq | hq
  · unfold roundHalfEven
    dsimp only
    split <;> split <;> (try split) <;> (try split) <;> omega
  · have hmod : num % den ≤ num' % den := by
      have h1 := Nat.div_add_mod num den
      have h2 := Nat.div_add_mod num' den
      rw [hq] at h1
      omega
    unfold roundHalfEven
    dsimp only
    rw [hq]
    split <;> split <;> (try split) <;> (try split) <;> omega

namespace Binary64

/-! ## Powers of two -/

/-- A power of two in units. -/
def powerUnits (k : Nat) : Nat := 2 ^ k

/-- The magnitude of `powerUnits k`, from `k = 52` on. -/
def powerMagnitude (k : Nat) : Nat := (k - 51) * 2 ^ 52

theorem powerMagnitude_mono {k l : Nat} (h : k ≤ l) : powerMagnitude k ≤ powerMagnitude l :=
  Nat.mul_le_mul_right _ (by omega)

theorem infinityMagnitude_eq : infinityMagnitude = powerMagnitude 2098 := rfl

theorem infinityMagnitude_lt : infinityMagnitude < 2 ^ 63 := by decide

theorem powerUnits_pos (k : Nat) : 0 < powerUnits k := Nat.two_pow_pos k

theorem powerUnits_mono {k l : Nat} (h : k ≤ l) : powerUnits k ≤ powerUnits l :=
  Nat.pow_le_pow_right (by decide) h

theorem powerUnits_add (j k : Nat) : powerUnits (j + k) = 2 ^ j * powerUnits k :=
  Nat.pow_add 2 j k

theorem unitsPerOne_eq : unitsPerOne = powerUnits 1074 := by
  rw [unitsPerOne, powerUnits]

theorem unitsPerOne_pos : 0 < unitsPerOne := unitsPerOne_eq ▸ powerUnits_pos 1074

theorem nearest_le_infinity (num den : Nat) : nearest num den ≤ infinityMagnitude :=
  Nat.min_le_left _ _

theorem nearest_le {num den : Nat} (k : Nat) (hd : 0 < den) (hk : 52 ≤ k)
    (h : num ≤ powerUnits k * den) : nearest num den ≤ powerMagnitude k := by
  unfold powerUnits at h
  unfold nearest powerMagnitude
  dsimp only
  refine Nat.le_trans (Nat.min_le_right _ _) ?_
  have hq : num / den ≤ 2 ^ k := Nat.div_le_of_le_mul (by rwa [Nat.mul_comm])
  generalize hs : (num / den).log2 - 52 = shift
  have hden : 0 < den * 2 ^ shift := Nat.mul_pos hd (Nat.two_pow_pos _)
  rcases Nat.lt_or_ge shift (k - 52) with hlt | hge
  · -- The digits fill at most one more power of two than the shift leaves them.
    have hround : roundHalfEven num (den * 2 ^ shift) ≤ 2 ^ 53 := by
      refine roundHalfEven_le hden ?_
      have hlog : num / den < 2 ^ (53 + shift) :=
        Nat.lt_of_lt_of_le Nat.lt_log2_self (Nat.pow_le_pow_right (by decide) (by omega))
      calc num ≤ 2 ^ (53 + shift) * den := Nat.le_of_lt ((Nat.div_lt_iff_lt_mul hd).mp hlog)
        _ = 2 ^ 53 * (den * 2 ^ shift) := by rw [Nat.pow_add]; ring
    have : (shift + 2) * 2 ^ 52 ≤ (k - 51) * 2 ^ 52 := Nat.mul_le_mul_right _ (by omega)
    omega
  · have hshift : k = 52 + shift := by
      have : (num / den).log2 ≤ k := by
        by_cases h0 : num / den = 0
        · simp [h0]
        · exact (Nat.pow_le_pow_iff_right (by decide)).mp
            (Nat.le_trans (Nat.log2_self_le h0) hq)
      omega
    have hround : roundHalfEven num (den * 2 ^ shift) ≤ 2 ^ 52 := by
      refine roundHalfEven_le hden (Nat.le_trans h (Nat.le_of_eq ?_))
      rw [hshift, Nat.pow_add]
      ring
    omega

theorem le_nearest {num den : Nat} (k : Nat) (hd : 0 < den) (hk : 52 ≤ k)
    (h : powerUnits k * den ≤ num) :
    min infinityMagnitude (powerMagnitude k) ≤ nearest num den := by
  unfold powerUnits at h
  unfold nearest powerMagnitude
  dsimp only
  refine Nat.le_min.mpr ⟨Nat.min_le_left _ _, Nat.le_trans (Nat.min_le_right _ _) ?_⟩
  have hq : 2 ^ k ≤ num / den := (Nat.le_div_iff_mul_le hd).mpr h
  have h0 : num / den ≠ 0 := by
    have := Nat.two_pow_pos k
    omega
  have hlog : k ≤ (num / den).log2 := (Nat.le_log2 h0).mpr hq
  generalize hs : (num / den).log2 - 52 = shift
  have hround : 2 ^ 52 ≤ roundHalfEven num (den * 2 ^ shift) := by
    refine le_roundHalfEven (Nat.mul_pos hd (Nat.two_pow_pos _)) ?_
    have hself : 2 ^ (52 + shift) ≤ num / den :=
      Nat.le_trans (Nat.pow_le_pow_right (by decide) (by omega)) (Nat.log2_self_le h0)
    calc 2 ^ 52 * (den * 2 ^ shift) = 2 ^ (52 + shift) * den := by rw [Nat.pow_add]; ring
      _ ≤ num := (Nat.le_div_iff_mul_le hd).mp hself
  have : (k - 51) * 2 ^ 52 ≤ (shift + 1) * 2 ^ 52 := Nat.mul_le_mul_right _ (by omega)
  omega

theorem powerMagnitude_le_nearest {num den : Nat} (k : Nat) (hd : 0 < den) (hk : 52 ≤ k)
    (hk' : k ≤ 2098) (h : powerUnits k * den ≤ num) : powerMagnitude k ≤ nearest num den := by
  have hle := le_nearest k hd hk h
  rwa [infinityMagnitude_eq, min_eq_right (powerMagnitude_mono hk')] at hle

theorem nearest_mono {num num' den : Nat} (hd : 0 < den) (h : num ≤ num') :
    nearest num den ≤ nearest num' den := by
  have hlog : (num / den).log2 ≤ (num' / den).log2 := by
    rw [Nat.log2_eq_log_two, Nat.log2_eq_log_two]
    exact Nat.log_mono_right (Nat.div_le_div_right h)
  rcases Nat.lt_or_ge ((num / den).log2 - 52) ((num' / den).log2 - 52) with hlt | hge
  · -- The power of two at which the larger one starts lies between the two.
    generalize hk : (num' / den).log2 = k at hlog hlt
    have hsmall : num ≤ powerUnits k * den := by
      have : num / den < 2 ^ k :=
        Nat.lt_of_lt_of_le Nat.lt_log2_self (Nat.pow_le_pow_right (by decide) (by omega))
      exact Nat.le_of_lt ((Nat.div_lt_iff_lt_mul hd).mp this)
    have hlarge : powerUnits k * den ≤ num' := by
      rw [powerUnits, ← Nat.le_div_iff_mul_le hd, ← hk]
      refine Nat.log2_self_le ?_
      rintro h0
      rw [h0, Nat.log2_zero] at hk
      omega
    exact Nat.le_trans
      (Nat.le_min.mpr ⟨nearest_le_infinity _ _, nearest_le k hd (by omega) hsmall⟩)
      (le_nearest k hd (by omega) hlarge)
  · have hshift : (num / den).log2 - 52 = (num' / den).log2 - 52 := by omega
    unfold nearest
    dsimp only
    rw [hshift]
    have hround := roundHalfEven_mono (den * 2 ^ ((num' / den).log2 - 52)) h
    exact min_le_min_left _ (Nat.add_le_add_left hround _)

theorem magnitudeUnits_lt {m k : Nat} (hk : 52 ≤ k) (h : m < powerMagnitude k) :
    magnitudeUnits m < powerUnits k := by
  unfold powerMagnitude at h
  unfold magnitudeUnits powerUnits
  split
  · rename_i hm
    exact Nat.lt_of_lt_of_le hm (Nat.pow_le_pow_right (by decide) hk)
  · have hdiv : m / 2 ^ 52 < k - 51 := (Nat.div_lt_iff_lt_mul (by decide)).mpr h
    calc (2 ^ 52 + m % 2 ^ 52) * 2 ^ (m / 2 ^ 52 - 1)
        ≤ (2 ^ 52 + m % 2 ^ 52) * 2 ^ (k - 53) :=
          Nat.mul_le_mul_left _ (Nat.pow_le_pow_right (by decide) (by omega))
      _ < 2 ^ 53 * 2 ^ (k - 53) :=
          Nat.mul_lt_mul_of_pos_right (by omega) (Nat.two_pow_pos _)
      _ = 2 ^ k := by rw [← Nat.pow_add]; congr 1; omega

/-- Below a power of two there is a gap, which is as wide as numbers of 53 digits leave it. -/
theorem magnitudeUnits_add_le {m j : Nat} (h : m < powerMagnitude (j + 53)) :
    magnitudeUnits m + powerUnits j ≤ powerUnits (j + 53) := by
  unfold powerMagnitude at h
  unfold magnitudeUnits powerUnits
  have hfull : 2 ^ (j + 53) = 2 ^ 53 * 2 ^ j := by rw [Nat.pow_add, Nat.mul_comm]
  have hpos := Nat.two_pow_pos j
  split
  · omega
  · have hdiv : m / 2 ^ 52 < j + 53 - 51 := (Nat.div_lt_iff_lt_mul (by decide)).mpr h
    have hle : (2 ^ 52 + m % 2 ^ 52) * 2 ^ (m / 2 ^ 52 - 1) ≤ (2 ^ 53 - 1) * 2 ^ j :=
      Nat.mul_le_mul (by omega) (Nat.pow_le_pow_right (by decide) (by omega))
    omega

theorem le_magnitudeUnits {m k : Nat} (hk : 52 ≤ k) (h : powerMagnitude k ≤ m) :
    powerUnits k ≤ magnitudeUnits m := by
  have hm : 2 ^ 52 ≤ m := Nat.le_trans (powerMagnitude_mono hk) h
  unfold powerMagnitude at h
  unfold magnitudeUnits powerUnits
  rw [if_neg (by omega)]
  have hdiv : k - 51 ≤ m / 2 ^ 52 := (Nat.le_div_iff_mul_le (by decide)).mpr h
  calc 2 ^ k = 2 ^ 52 * 2 ^ (k - 52) := by rw [← Nat.pow_add]; congr 1; omega
    _ ≤ (2 ^ 52 + m % 2 ^ 52) * 2 ^ (m / 2 ^ 52 - 1) :=
      Nat.mul_le_mul (by omega) (Nat.pow_le_pow_right (by decide) (by omega))

theorem magnitudeUnits_powerMagnitude {k : Nat} (hk : 52 ≤ k) :
    magnitudeUnits (powerMagnitude k) = powerUnits k := by
  unfold powerMagnitude magnitudeUnits powerUnits
  rw [if_neg (by omega), Nat.mul_mod_left, Nat.mul_div_cancel _ (by decide), Nat.add_zero,
    ← Nat.pow_add]
  congr 1
  omega

theorem magnitudeUnits_le {m k : Nat} (hk : 52 ≤ k) (h : m ≤ powerMagnitude k) :
    magnitudeUnits m ≤ powerUnits k := by
  rcases Nat.lt_or_eq_of_le h with hlt | rfl
  · exact Nat.le_of_lt (magnitudeUnits_lt hk hlt)
  · exact Nat.le_of_eq (magnitudeUnits_powerMagnitude hk)

theorem magnitudeUnits_pos {m : Nat} (h : 0 < m) : 0 < magnitudeUnits m := by
  unfold magnitudeUnits
  split
  · exact h
  · positivity

/-! ### Ratios -/

section

variable {num den : Nat} (j : Nat) (hd : 0 < den)
include hd

theorem nearest_ratio_le (h : num ≤ 2 ^ j * den) :
    nearest (num * unitsPerOne) den ≤ powerMagnitude (j + 1074) := by
  refine nearest_le _ hd (by omega) ?_
  rw [powerUnits_add, ← unitsPerOne_eq]
  calc num * unitsPerOne ≤ 2 ^ j * den * unitsPerOne := Nat.mul_le_mul_right _ h
    _ = 2 ^ j * unitsPerOne * den := by ring

theorem le_nearest_ratio {k : Nat} (hjk : j + k = 1074) (hk : 52 ≤ k) (h : den ≤ 2 ^ j * num) :
    powerMagnitude k ≤ nearest (num * unitsPerOne) den := by
  refine powerMagnitude_le_nearest k hd hk (by omega) ?_
  calc powerUnits k * den ≤ powerUnits k * (2 ^ j * num) := Nat.mul_le_mul_left _ h
    _ = num * unitsPerOne := by rw [unitsPerOne_eq, ← hjk, powerUnits_add]; ring

end

/-! ## Numbers by sign and magnitude -/

section

variable {m : Nat}

theorem toNat_bits_ofMagnitude (negative : Bool) (h : m < 2 ^ 63) :
    (ofMagnitude negative m).bits.toNat = m + if negative then 2 ^ 63 else 0 := by
  unfold ofMagnitude
  refine UInt64.toNat_ofNat_of_lt' ?_
  show _ < 2 ^ 64
  split <;> omega

theorem magnitude_ofMagnitude (negative : Bool) (h : m < 2 ^ 63) :
    (ofMagnitude negative m).magnitude = m := by
  unfold magnitude
  rw [toNat_bits_ofMagnitude negative h]
  split <;> omega

theorem isNegative_ofMagnitude (negative : Bool) (h : m < 2 ^ 63) :
    (ofMagnitude negative m).isNegative = negative := by
  unfold isNegative
  rw [toNat_bits_ofMagnitude negative h]
  cases negative with
  | false => simpa using h
  | true => simp

end

theorem magnitude_nearest (negative : Bool) (num den : Nat) :
    (ofMagnitude negative (nearest num den)).magnitude = nearest num den :=
  magnitude_ofMagnitude _ (Nat.lt_of_le_of_lt (nearest_le_infinity _ _) infinityMagnitude_lt)

theorem isNegative_nearest (negative : Bool) (num den : Nat) :
    (ofMagnitude negative (nearest num den)).isNegative = negative :=
  isNegative_ofMagnitude _ (Nat.lt_of_le_of_lt (nearest_le_infinity _ _) infinityMagnitude_lt)

theorem isNegative_ofNat (n : Nat) : (ofNat n).isNegative = false := isNegative_nearest _ _ _

theorem magnitude_ofNat_two_pow {k : Nat} (hk : k ≤ 1024) :
    (ofNat (2 ^ k)).magnitude = powerMagnitude (k + 1074) := by
  have hunits : powerUnits (k + 1074) * 1 = 2 ^ k * unitsPerOne := by
    rw [powerUnits_add, unitsPerOne_eq, Nat.mul_one]
  rw [ofNat, ofRatio, magnitude_nearest]
  exact Nat.le_antisymm (nearest_le _ Nat.one_pos (by omega) hunits.ge)
    (powerMagnitude_le_nearest _ Nat.one_pos (by omega) (by omega) hunits.le)

theorem magnitude_two : (ofNat 2).magnitude = powerMagnitude (1 + 1074) :=
  magnitude_ofNat_two_pow (k := 1) (by decide)

theorem magnitude_one : one.magnitude = powerMagnitude 1074 :=
  magnitude_ofNat_two_pow (k := 0) (by decide)

theorem isNegative_one : one.isNegative = false := isNegative_ofNat 1

theorem rank_one : one.rank = powerMagnitude 1074 := by
  rw [rank, isNegative_one, magnitude_one]
  rfl

theorem isNaN_one : one.isNaN = false := by
  rw [isNaN, magnitude_one]
  decide

theorem toNat_bits_neg (x : Binary64) : x.neg.bits.toNat = x.bits.toNat ^^^ 2 ^ 63 := rfl

theorem magnitude_neg (x : Binary64) : x.neg.magnitude = x.magnitude := by
  unfold magnitude
  rw [toNat_bits_neg]
  refine Nat.eq_of_testBit_eq fun i => ?_
  rw [Nat.testBit_mod_two_pow, Nat.testBit_mod_two_pow, Nat.testBit_xor, Nat.testBit_two_pow]
  by_cases hi : i < 63
  · simp [hi, show ¬63 = i by omega]
  · simp [hi]

theorem isNegative_eq_testBit (x : Binary64) : x.isNegative = x.bits.toNat.testBit 63 := by
  have hx : x.bits.toNat < 2 ^ 64 := x.bits.toNat_lt
  unfold isNegative
  rw [Nat.testBit_eq_decide_div_mod_eq]
  by_cases h : 2 ^ 63 ≤ x.bits.toNat <;> simp [h] <;> omega

theorem isNegative_neg (x : Binary64) : x.neg.isNegative = !x.isNegative := by
  rw [isNegative_eq_testBit, isNegative_eq_testBit, toNat_bits_neg, Nat.testBit_xor,
    Nat.testBit_two_pow_self, Bool.xor_true]

/-! ## Whole numbers -/

theorem ofInt_eq {n : Int} (h : 0 ≤ n) :
    ofInt n = ofMagnitude false (nearest (n.natAbs * unitsPerOne) 1) := by
  unfold ofInt ofRatio
  rw [decide_eq_false (by omega)]

theorem isNegative_ofInt {n : Int} (h : 0 ≤ n) : (ofInt n).isNegative = false := by
  rw [ofInt_eq h, isNegative_nearest]

theorem magnitude_ofInt {n : Int} (h : 0 ≤ n) :
    (ofInt n).magnitude = nearest (n.natAbs * unitsPerOne) 1 := by
  rw [ofInt_eq h, magnitude_nearest]

theorem rank_ofInt {n : Int} (h : 0 ≤ n) : (ofInt n).rank = (ofInt n).magnitude := by
  rw [rank, isNegative_ofInt h]
  rfl

theorem magnitude_ofInt_le {n : Int} (k : Nat) (h : 0 ≤ n) (hn : n ≤ 2 ^ k) :
    (ofInt n).magnitude ≤ powerMagnitude (k + 1074) := by
  rw [magnitude_ofInt h]
  refine nearest_ratio_le k (by decide) ?_
  zify
  rwa [abs_of_nonneg h, mul_one]

theorem le_magnitude_ofInt {n : Int} (k : Nat) (hk : k ≤ 63) (hn : 2 ^ k ≤ n) :
    powerMagnitude (k + 1074) ≤ (ofInt n).magnitude := by
  have h : 0 ≤ n := le_trans (by positivity) hn
  rw [magnitude_ofInt h]
  refine powerMagnitude_le_nearest (k + 1074) Nat.one_pos (by omega) (by omega) ?_
  rw [mul_one, powerUnits_add, ← unitsPerOne_eq]
  refine Nat.mul_le_mul_right _ ?_
  zify
  rwa [abs_of_nonneg h]

/-- The floats of durations. -/
theorem magnitude_ofInt_lt {n : Int} (h : 0 ≤ n) (h' : n < 2 ^ 63) :
    (ofInt n).magnitude ≤ powerMagnitude 1137 := magnitude_ofInt_le 63 h h'.le

theorem isNaN_ofInt {n : Int} (h : 0 ≤ n) (h' : n < 2 ^ 63) : (ofInt n).isNaN = false := by
  have hle := Nat.le_trans (magnitude_ofInt_lt h h') (powerMagnitude_mono (l := 2098) (by decide))
  rwa [isNaN, decide_eq_false_iff_not, Nat.not_lt]

theorem rank_ofInt_mono {m n : Int} (h : 0 ≤ m) (hmn : m ≤ n) :
    (ofInt m).rank ≤ (ofInt n).rank := by
  have hn : 0 ≤ n := by omega
  rw [rank_ofInt h, rank_ofInt hn, magnitude_ofInt h, magnitude_ofInt hn, Int.ofNat_le]
  exact nearest_mono (by decide) (Nat.mul_le_mul_right _ (by omega))

theorem ofInt_eq_of_rank {m n : Int} (hm : 0 ≤ m) (hn : 0 ≤ n)
    (h : (ofInt m).rank = (ofInt n).rank) : ofInt m = ofInt n := by
  rw [rank_ofInt hm, rank_ofInt hn, magnitude_ofInt hm, magnitude_ofInt hn, Int.ofNat_inj] at h
  rw [ofInt_eq hm, ofInt_eq hn, h]

theorem lt_ofInt {m n : Int} (hm : 0 ≤ m) (hm' : m < 2 ^ 63) (hn : 0 ≤ n) (hn' : n < 2 ^ 63) :
    (ofInt m).lt (ofInt n) = decide ((ofInt m).rank < (ofInt n).rank) := by
  rw [lt, isNaN_ofInt hm hm', isNaN_ofInt hn hn', Bool.not_false, Bool.true_and, Bool.true_and]

/-- Exactly the durations beyond one nanosecond have a key of their own. -/
theorem one_lt_ofInt {n : Int} (h : 0 ≤ n) (h' : n < 2 ^ 63) :
    one.lt (ofInt n) = decide (1 < n) := by
  have hone : one = ofInt 1 := rfl
  rw [hone, lt_ofInt (by decide) (by decide) h h', decide_eq_decide]
  constructor
  · intro hlt
    by_contra hle
    have := rank_ofInt_mono h (show n ≤ 1 by omega)
    omega
  · intro hlt
    have hlarge := le_magnitude_ofInt 1 (by decide) (show 2 ^ 1 ≤ n by omega)
    rw [rank_ofInt (by decide), rank_ofInt h, ← hone, magnitude_one, Int.ofNat_lt]
    have hlt : powerMagnitude 1074 < powerMagnitude (1 + 1074) := by decide
    omega

/-! ### Extremes -/

open Sketch (lower upper)

variable {m n : Int}

theorem lower_ofInt (hm : 0 ≤ m) (hm' : m < 2 ^ 63) (hn : 0 ≤ n) (hn' : n < 2 ^ 63) :
    lower (ofInt m) (ofInt n) = ofInt (min m n) := by
  unfold lower
  rw [lt_ofInt hm hm' hn hn']
  rcases le_or_gt n m with hnm | hmn
  · have := rank_ofInt_mono hn hnm
    rw [if_neg (by rw [decide_eq_true_iff]; omega), min_eq_right hnm]
  · rw [min_eq_left hmn.le]
    have hle := rank_ofInt_mono hm hmn.le
    split
    · rfl
    · rename_i h
      rw [decide_eq_true_iff] at h
      exact ofInt_eq_of_rank hn hm (by omega)

theorem upper_ofInt (hm : 0 ≤ m) (hm' : m < 2 ^ 63) (hn : 0 ≤ n) (hn' : n < 2 ^ 63) :
    upper (ofInt m) (ofInt n) = ofInt (max m n) := by
  unfold upper
  rw [lt_ofInt hn hn' hm hm']
  rcases le_or_gt m n with hmn | hnm
  · have := rank_ofInt_mono hm hmn
    rw [if_neg (by rw [decide_eq_true_iff]; omega), max_eq_right hmn]
  · rw [max_eq_left hnm.le]
    have hle := rank_ofInt_mono hn hnm.le
    split
    · rfl
    · rename_i h
      rw [decide_eq_true_iff] at h
      exact ofInt_eq_of_rank hn hm (by omega)

theorem lower_infinity (hm : 0 ≤ m) (hm' : m < 2 ^ 63) : lower (ofInt m) infinity = ofInt m := by
  have hle : (ofInt m).rank ≤ powerMagnitude 1137 := by
    rw [rank_ofInt hm]
    exact Int.ofNat_le.mpr (magnitude_ofInt_lt hm hm')
  have hinf : infinity.isNaN = false ∧ infinity.rank = powerMagnitude 2098 := by decide
  have hlt : powerMagnitude 1137 < powerMagnitude 2098 := by decide
  unfold lower
  exact if_pos (lt_iff.mpr ⟨⟨isNaN_ofInt hm hm', hinf.1⟩, by omega⟩)

theorem upper_negInfinity (hm : 0 ≤ m) (hm' : m < 2 ^ 63) :
    upper (ofInt m) negInfinity = ofInt m := by
  have hle : 0 ≤ (ofInt m).rank := by
    rw [rank_ofInt hm]
    exact Int.natCast_nonneg _
  have hinf : negInfinity.isNaN = false ∧ negInfinity.rank < 0 := by decide
  unfold upper
  exact if_pos (lt_iff.mpr ⟨⟨hinf.1, isNaN_ofInt hm hm'⟩, by omega⟩)

end Binary64

end SpanRollup
