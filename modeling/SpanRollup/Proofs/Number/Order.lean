import SpanRollup.Number.Binary64

/-!
# Comparing numbers

A comparison that holds says that no NaN takes part and how the ranks compare, so comparisons follow
one from another as those of their ranks do. One that fails says less, since a NaN may be to blame.

- `lt_iff`, `le_iff`, `same_iff`: what a comparison says.
- `eq_of_same`: the same number has another pattern only if it is zero.
-/

namespace SpanRollup.Binary64

variable {x y z : Binary64}

theorem rank_zero : zero.rank = 0 := by decide

theorem isNaN_zero : zero.isNaN = false := by decide

theorem rank_of_nonneg (h : x.isNegative = false) : x.rank = x.magnitude := by
  rw [rank, h]
  rfl

/-! ### Comparisons that hold -/

theorem lt_iff : x.lt y = true ↔ (x.isNaN = false ∧ y.isNaN = false) ∧ x.rank < y.rank := by
  simp only [lt, Bool.and_eq_true, Bool.not_eq_true', decide_eq_true_eq]

theorem le_iff : x.le y = true ↔ (x.isNaN = false ∧ y.isNaN = false) ∧ x.rank ≤ y.rank := by
  simp only [le, Bool.and_eq_true, Bool.not_eq_true', decide_eq_true_eq]

theorem same_iff : x.same y = true ↔ (x.isNaN = false ∧ y.isNaN = false) ∧ x.rank = y.rank := by
  simp only [same, Bool.and_eq_true, Bool.not_eq_true', decide_eq_true_eq]

theorem isNaN_of_lt (h : x.lt y = true) : x.isNaN = false ∧ y.isNaN = false := (lt_iff.mp h).1

theorem lt_of_lt_of_le (h : x.lt y = true) (h' : y.le z = true) : x.lt z = true := by
  obtain ⟨⟨hx, -⟩, hxy⟩ := lt_iff.mp h
  obtain ⟨⟨-, hz⟩, hyz⟩ := le_iff.mp h'
  exact lt_iff.mpr ⟨⟨hx, hz⟩, Int.lt_of_lt_of_le hxy hyz⟩

theorem le_of_lt (h : x.lt y = true) : x.le y = true := by
  obtain ⟨hNaN, hxy⟩ := lt_iff.mp h
  exact le_iff.mpr ⟨hNaN, Int.le_of_lt hxy⟩

theorem lt_trans (h : x.lt y = true) (h' : y.lt z = true) : x.lt z = true :=
  lt_of_lt_of_le h (le_of_lt h')

theorem same_self (h : x.isNaN = false) : x.same x = true := same_iff.mpr ⟨⟨h, h⟩, rfl⟩

theorem same_comm (x y : Binary64) : x.same y = y.same x := by
  rw [Bool.eq_iff_iff, same_iff, same_iff, and_comm (a := x.isNaN = false), eq_comm (a := x.rank)]

/-- Only the zeros are the same number with different patterns. -/
theorem eq_of_same (hpos : zero.lt x = true) (h : x.same y = true) : x = y := by
  have hx := (lt_iff.mp hpos).2
  have hrank := (same_iff.mp h).2
  rw [rank_zero] at hx
  have hxlt := x.bits.toNat_lt
  have hylt := y.bits.toNat_lt
  have hbits : x.bits.toNat = y.bits.toNat := by
    unfold rank isNegative magnitude at hrank hx
    simp only [decide_eq_true_eq] at hrank hx
    split at hrank <;> split at hrank <;> omega
  exact congrArg mk (UInt64.toNat_inj.mp hbits)

/-! ### Comparisons that fail -/

theorem not_lt_of_rank_le (h : y.rank ≤ x.rank) : x.lt y = false :=
  Bool.eq_false_iff.mpr fun hlt => Int.not_lt.mpr h (lt_iff.mp hlt).2

theorem lt_irrefl (x : Binary64) : x.lt x = false := not_lt_of_rank_le (Int.le_refl _)

theorem not_lt_of_le (h : x.le y = true) : y.lt x = false := not_lt_of_rank_le (le_iff.mp h).2

theorem not_lt_of_lt (h : x.lt y = true) : y.lt x = false := not_lt_of_le (le_of_lt h)

theorem not_same_of_lt (h : x.lt y = true) : x.same y = false :=
  Bool.eq_false_iff.mpr fun hsame => Int.ne_of_lt (lt_iff.mp h).2 (same_iff.mp hsame).2

/-- Between numbers, one comparison that fails is another one that holds. -/
theorem le_of_not_lt (hx : x.isNaN = false) (hy : y.isNaN = false) (h : y.lt x = false) :
    x.le y = true :=
  le_iff.mpr ⟨⟨hx, hy⟩, Int.not_lt.mp fun hlt =>
    Bool.eq_false_iff.mp h (lt_iff.mpr ⟨⟨hy, hx⟩, hlt⟩)⟩

end SpanRollup.Binary64
