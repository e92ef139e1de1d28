import Mathlib
import SpanRollup.Sketch.Bins

/-!
# What bins count

- `Bins.countAt`: the count of a key, whether or not it has a bin.
- `Bins.Holds`: bins hold a list of keys if the keys lie in their range and each is counted as
  often as it occurs.

The steps that bins are changed by are described by what they do to the counts of keys, wherever
the bins of these keys are.
-/

namespace SpanRollup

namespace Bins

/-! ## Numbers that do not wrap around -/

section

variable {a b : Int32}

theorem toInt_add (h : -2 ^ 31 ≤ a.toInt + b.toInt) (h' : a.toInt + b.toInt < 2 ^ 31) :
    (a + b).toInt = a.toInt + b.toInt := by
  rw [Int32.toInt_add]
  exact Int.bmod_eq_of_le (by omega) (by omega)

theorem toInt_add_one (h : a.toInt + 1 < 2 ^ 31) : (a + 1).toInt = a.toInt + 1 := by
  have := a.le_toInt
  rw [toInt_add, Int32.toInt_one]
  · rw [Int32.toInt_one]
    omega
  · rwa [Int32.toInt_one]

theorem toInt_sub (h : -2 ^ 31 ≤ a.toInt - b.toInt) (h' : a.toInt - b.toInt < 2 ^ 31) :
    (a - b).toInt = a.toInt - b.toInt := by
  rw [Int32.toInt_sub]
  exact Int.bmod_eq_of_le (by omega) (by omega)

theorem toInt_mul (h : -2 ^ 31 ≤ a.toInt * b.toInt) (h' : a.toInt * b.toInt < 2 ^ 31) :
    (a * b).toInt = a.toInt * b.toInt := by
  rw [Int32.toInt_mul]
  exact Int.bmod_eq_of_le (by omega) (by omega)

theorem toInt_div (h : 0 ≤ a.toInt) : (a / b).toInt = a.toInt / b.toInt := by
  rw [Int32.toInt_div_of_ne_left a b (by rintro rfl; exact absurd h (by decide)),
    Int.tdiv_eq_ediv_of_nonneg h]

theorem toInt_min (a b : Int32) : (min a b).toInt = min a.toInt b.toInt := by
  change (if a ≤ b then a else b).toInt = _
  split
  · rename_i h
    rw [Int32.le_iff_toInt_le] at h
    omega
  · rename_i h
    rw [Int32.le_iff_toInt_le] at h
    omega

theorem toInt_max (a b : Int32) : (max a b).toInt = max a.toInt b.toInt := by
  change (if a ≤ b then b else a).toInt = _
  split
  · rename_i h
    rw [Int32.le_iff_toInt_le] at h
    omega
  · rename_i h
    rw [Int32.le_iff_toInt_le] at h
    omega

end

variable {b : Bins}

theorem toInt_width (h : b.counts.size < 2 ^ 31) : b.width.toInt = b.counts.size :=
  Int32.toInt_ofNat_of_lt h

/-! ## Counts of keys -/

def countAt (b : Bins) (key : Int) : UInt64 :=
  if b.offset.toInt ≤ key then b.counts.getD (key - b.offset.toInt).toNat 0 else 0

theorem countAt_offset_add (i : Nat) : b.countAt (b.offset.toInt + i) = b.counts.getD i 0 := by
  rw [countAt, if_pos (by omega)]
  congr 1
  omega

/-- The bins count every key of a list, within their range, as often as it occurs. -/
structure Holds (b : Bins) (ks : List Int) : Prop where
  total_eq : b.total = .ofNat ks.length
  within : ∀ k ∈ ks, b.minKey.toInt ≤ k ∧ k ≤ b.maxKey.toInt
  countAt_eq : ∀ key, b.countAt key = .ofNat (ks.count key)

theorem Holds.countAt_eq_zero {ks : List Int} (h : b.Holds ks) {key : Int}
    (hk : key < b.minKey.toInt ∨ b.maxKey.toInt < key) : b.countAt key = 0 := by
  rw [h.countAt_eq, List.count_eq_zero_of_not_mem]
  · rfl
  · intro hmem
    have := h.within key hmem
    omega

/-! ### Lists of keys -/

theorem min?_append {ks ls : List Int} {k l : Int} (hk : ks.min? = some k)
    (hl : ls.min? = some l) : (ks ++ ls).min? = some (min k l) := by
  obtain ⟨hmem, hleast⟩ := List.min?_eq_some_iff.mp hk
  obtain ⟨hmem', hleast'⟩ := List.min?_eq_some_iff.mp hl
  refine List.min?_eq_some_iff.mpr ⟨?_, fun m hm => ?_⟩
  · rcases min_choice k l with heq | heq
    · rw [heq]
      exact List.mem_append_left _ hmem
    · rw [heq]
      exact List.mem_append_right _ hmem'
  · rcases List.mem_append.mp hm with hm | hm
    · exact le_trans (min_le_left k l) (hleast m hm)
    · exact le_trans (min_le_right k l) (hleast' m hm)

theorem max?_append {ks ls : List Int} {k l : Int} (hk : ks.max? = some k)
    (hl : ls.max? = some l) : (ks ++ ls).max? = some (max k l) := by
  obtain ⟨hmem, hgreatest⟩ := List.max?_eq_some_iff.mp hk
  obtain ⟨hmem', hgreatest'⟩ := List.max?_eq_some_iff.mp hl
  refine List.max?_eq_some_iff.mpr ⟨?_, fun m hm => ?_⟩
  · rcases max_choice k l with heq | heq
    · rw [heq]
      exact List.mem_append_left _ hmem
    · rw [heq]
      exact List.mem_append_right _ hmem'
  · rcases List.mem_append.mp hm with hm | hm
    · exact le_trans (hgreatest m hm) (le_max_left k l)
    · exact le_trans (hgreatest' m hm) (le_max_right k l)

/-- How often a key occurs in a list that is cut off below. -/
theorem count_map_max (lo key : Int) (ks : List Int) :
    (ks.map (max lo)).count key =
      if key < lo then 0 else if key = lo then ks.countP (· ≤ lo) else ks.count key := by
  induction ks with
  | nil => simp
  | cons k ks ih =>
    rw [List.map_cons, List.count_cons, ih, List.countP_cons, List.count_cons]
    simp only [beq_iff_eq, decide_eq_true_eq]
    grind

theorem countP_add_count {lo hi : Int} (ks : List Int) (h : lo ≤ hi) :
    (ks.countP fun k => lo ≤ k ∧ k < hi) + ks.count hi =
      ks.countP fun k => lo ≤ k ∧ k < hi + 1 := by
  induction ks with
  | nil => rfl
  | cons k ks ih =>
    simp only [List.countP_cons, List.count_cons, beq_iff_eq, decide_eq_true_eq]
    grind

theorem map_max_of_le {lo : Int} {ks : List Int} (h : ∀ k ∈ ks, lo ≤ k) :
    ks.map (max lo) = ks :=
  (List.map_congr_left fun k hk => max_eq_right (h k hk)).trans (List.map_id' ks)

theorem map_max_map_max {lo lo' : Int} (h : lo ≤ lo') (ks : List Int) :
    (ks.map (max lo)).map (max lo') = ks.map (max lo') := by
  rw [List.map_map]
  exact List.map_congr_left fun k _ => by
    change max lo' (max lo k) = max lo' k
    omega

/-! ## Steps -/

/-- The bins of some keys, in their array. -/
theorem index?_eq {key : Int32} (hsize : b.counts.size < 2 ^ 31)
    (h : b.offset.toInt ≤ key.toInt) (h' : key.toInt < b.offset.toInt + b.counts.size) :
    b.index? key = some (key.toInt - b.offset.toInt).toNat := by
  have hsub : (key - b.offset).toInt = key.toInt - b.offset.toInt :=
    toInt_sub (by omega) (by omega)
  rw [index?, hsub, if_pos ⟨by omega, by omega⟩]

theorem getD_increase (counts : Array UInt64) (index i : Nat) (n : UInt64)
    (h : index < counts.size) :
    (increase counts index n).getD i 0 = counts.getD i 0 + if i = index then n else 0 := by
  rw [increase, Array.getD_eq_getD_getElem?, Array.getD_eq_getD_getElem?, Array.getElem?_modify]
  by_cases hi : index = i
  · subst hi
    rw [if_pos rfl, if_pos rfl, Array.getElem?_eq_getElem h]
    rfl
  · rw [if_neg hi, if_neg (Ne.symm hi), UInt64.add_zero]

theorem countAt_increase {index : Nat} (h : index < b.counts.size) (n : UInt64) (key : Int) :
    countAt { b with counts := increase b.counts index n } key =
      b.countAt key + if key = b.offset.toInt + index then n else 0 := by
  unfold countAt
  dsimp only
  split
  · rename_i hle
    rw [getD_increase _ _ _ _ h]
    congr 1
    have : (key - b.offset.toInt).toNat = index ↔ key = b.offset.toInt + index := by omega
    simp only [this]
  · rename_i hlt
    rw [if_neg (by omega)]
    rfl

/-- More bins count no more keys. -/
theorem countAt_grow (n : Nat) (key : Int) :
    countAt { b with counts := b.counts ++ Array.replicate n 0 } key = b.countAt key := by
  unfold countAt
  dsimp only
  split
  · rw [Array.getD_eq_getD_getElem?, Array.getD_eq_getD_getElem?, Array.getElem?_append]
    split
    · rfl
    · rename_i hge
      rw [Array.getElem?_replicate, Array.getElem?_eq_none (by omega)]
      split <;> rfl
  · rfl

/-- Moved bins count the keys that they still have a bin for. -/
theorem moveTo_eq (offset : Int32) (hsize : b.counts.size < 2 ^ 31)
    (h : (b.offset.toInt - offset.toInt).natAbs ≤ b.counts.size) :
    ∃ counts, b.moveTo offset = some { b with counts, offset } ∧
      counts.size = b.counts.size ∧
      ∀ key, countAt { b with counts, offset } key =
        if offset.toInt ≤ key ∧ key < offset.toInt + b.counts.size then b.countAt key else 0 := by
  have hshift : (b.offset - offset).toInt = b.offset.toInt - offset.toInt :=
    toInt_sub (by omega) (by omega)
  unfold moveTo
  dsimp only
  rw [hshift, if_neg (by omega)]
  refine ⟨_, rfl, ?_, fun key => ?_⟩
  · split <;> simp <;> omega
  unfold countAt
  dsimp only
  by_cases hkey : offset.toInt ≤ key
  · by_cases hpos : 0 < b.offset - offset
    · -- The bins of the lowest keys are new.
      rw [if_pos hpos, if_pos hkey, Array.getD_eq_getD_getElem?, Array.getElem?_append,
        Array.getElem?_replicate, Array.getElem?_extract, Array.size_replicate]
      rw [Int32.lt_iff_toInt_lt, hshift, Int32.toInt_zero] at hpos
      by_cases hlow : key < b.offset.toInt
      · rw [if_pos (by omega), if_pos (by omega), if_neg (by omega : ¬b.offset.toInt ≤ key),
          ite_self]
        rfl
      · rw [if_neg (by omega), if_pos (by omega : b.offset.toInt ≤ key)]
        by_cases hhigh : key < offset.toInt + b.counts.size
        · rw [if_pos (by omega), if_pos ⟨hkey, hhigh⟩, Array.getD_eq_getD_getElem?]
          congr 2
          omega
        · rw [if_neg (by omega), if_neg (by omega)]
          rfl
    · -- The bins of the highest keys are new.
      rw [if_neg hpos, if_pos hkey, Array.getD_eq_getD_getElem?, Array.getElem?_append,
        Array.getElem?_replicate, Array.getElem?_extract, Array.size_extract]
      rw [Int32.lt_iff_toInt_lt, hshift, Int32.toInt_zero] at hpos
      rw [if_pos (by omega : b.offset.toInt ≤ key), Array.getD_eq_getD_getElem?]
      by_cases hhigh : key < b.offset.toInt + b.counts.size
      · rw [if_pos (by omega), if_pos (by omega), if_pos (by omega)]
        congr 2
        omega
      · have hnone : b.counts[(key - b.offset.toInt).toNat]? = none :=
          Array.getElem?_eq_none (by omega)
        rw [if_neg (by omega), hnone]
        split <;> split <;> rfl
  · rw [if_neg hkey, if_neg (by omega)]

/-! ### Sums -/

theorem sum_succ (counts : Array UInt64) {start stop : Nat} (h : start ≤ stop)
    (hstop : stop < counts.size) :
    sum counts start (stop + 1) = sum counts start stop + counts.getD stop 0 := by
  have hextract : counts.extract start (stop + 1) =
      (counts.extract start stop).push counts[stop] := by
    rw [Array.push_extract_getElem, Nat.min_eq_left h]
  rw [sum, hextract, Array.foldl_push, sum, Array.getD_eq_getD_getElem?,
    Array.getElem?_eq_getElem hstop]
  rfl

/-- What some bins count together. -/
theorem Holds.sum_eq {ks : List Int} (h : b.Holds ks) {start stop : Nat} (hle : start ≤ stop)
    (hstop : stop ≤ b.counts.size) :
    sum b.counts start stop = .ofNat (ks.countP fun k =>
      b.offset.toInt + start ≤ k ∧ k < b.offset.toInt + stop) := by
  induction stop, hle using Nat.le_induction with
  | base =>
    rw [List.countP_eq_zero.mpr (by intro k _; simp)]
    simp [sum]
  | succ stop hle ih =>
    rw [sum_succ _ hle (by omega), ih (by omega), ← countAt_offset_add, h.countAt_eq,
      ← UInt64.ofNat_add, countP_add_count _ (by omega), Nat.cast_add, Nat.cast_one,
      ← add_assoc]

end Bins

end SpanRollup
