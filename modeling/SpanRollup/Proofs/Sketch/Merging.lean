import Mathlib
import SpanRollup.Proofs.Sketch.Layout

/-!
# Merged bins

Bins that are laid out under the same limit can always be merged. The merged ones count every key
above the lowest that is kept as often as both do. The lowest one takes in all lower keys, unless
the merge folds keys of the other bins: then it takes in bins of the wrong side.

- `Bins.Merges`: what merged bins are.
- `merge_merges`: what comes of a merge.
-/

namespace SpanRollup

namespace Bins

variable {limit : Nat} {b c other : Bins}

/-! ## Adding counts -/

/-- The counts of `n` keys that both have bins for are added. -/
theorem addCounts_eq (n : Nat) (key : Int32) (hsize : b.counts.size < 2 ^ 31)
    (hother : other.counts.size < 2 ^ 31) (hend : key.toInt + n < 2 ^ 31)
    (hlow : 0 < n → b.offset.toInt ≤ key.toInt ∧ other.offset.toInt ≤ key.toInt)
    (hhigh : key.toInt + n ≤ b.offset.toInt + b.counts.size)
    (hhigh' : key.toInt + n ≤ other.offset.toInt + other.counts.size) :
    ∃ counts, addCounts other n key b = some { b with counts } ∧
      counts.size = b.counts.size ∧
      ∀ k, countAt { b with counts } k =
        b.countAt k + if key.toInt ≤ k ∧ k < key.toInt + n then other.countAt k else 0 := by
  induction n generalizing key b with
  | zero =>
    refine ⟨b.counts, rfl, rfl, fun k => ?_⟩
    rw [if_neg (by omega), UInt64.add_zero]
  | succ n ih =>
    have := hlow (by omega)
    have hnext : (key + 1).toInt = key.toInt + 1 := toInt_add_one (by omega)
    obtain ⟨i, hi⟩ : ∃ i : Nat, key.toInt = b.offset.toInt + i :=
      ⟨(key.toInt - b.offset.toInt).toNat, by omega⟩
    obtain ⟨j, hj⟩ : ∃ j : Nat, key.toInt = other.offset.toInt + j :=
      ⟨(key.toInt - other.offset.toInt).toNat, by omega⟩
    have hindex : b.index? key = some i := by
      rw [index?_eq hsize (by omega) (by omega), hi, add_sub_cancel_left, Int.toNat_natCast]
    have hindex' : other.index? key = some j := by
      rw [index?_eq hother (by omega) (by omega), hj, add_sub_cancel_left, Int.toNat_natCast]
    have hmore : other.counts.getD j 0 = other.countAt key.toInt := by
      rw [hj, countAt_offset_add]
    unfold addCounts
    rw [hindex, hindex']
    dsimp only [Option.bind_eq_bind, Option.bind_some]
    rw [hmore]
    have hsize' := size_increase b.counts i (other.countAt key.toInt)
    obtain ⟨counts, hrun, hcounts, hcountAt⟩ :=
      ih (b := { b with counts := increase b.counts i (other.countAt key.toInt) }) (key + 1)
        (by dsimp only; omega) (by omega) (fun _ => by dsimp only; omega) (by dsimp only; omega)
        (by omega)
    refine ⟨counts, hrun, hcounts.trans hsize', fun k => (hcountAt k).trans ?_⟩
    rw [countAt_increase (by omega), hnext, ← hi, UInt64.add_assoc]
    congr 1
    by_cases hk : k = key.toInt
    · rw [hk, if_pos rfl, if_neg (by omega), if_pos (by omega), UInt64.add_zero]
    · rw [if_neg hk, UInt64.zero_add]
      exact if_congr (by omega) rfl rfl

/-! ## Merging -/

/-- The bins `c` are `b` and `other` together. -/
structure Merges (limit : Nat) (b other c : Bins) : Prop where
  laid : c.Laid limit
  total_eq : c.total = b.total + other.total
  maxKey_eq : c.maxKey.toInt = max b.maxKey.toInt other.maxKey.toInt
  minKey_eq : c.minKey.toInt =
    max (min b.minKey.toInt other.minKey.toInt) (c.maxKey.toInt - limit + 1)
  countAt_eq : ∀ ks ls, b.Holds ks → other.Holds ls →
    ∀ key, c.minKey.toInt < key →
      c.countAt key = .ofNat (((ks ++ ls).map (max c.minKey.toInt)).count key)
  holds : c.minKey.toInt ≤ other.minKey.toInt → ∀ ks ls, b.Holds ks → other.Holds ls →
    c.Holds ((ks ++ ls).map (max c.minKey.toInt))

/-- The range of `b` takes in that of `other`. -/
theorem merge_widens (h : b.Laid limit) (ho : other.Laid limit) :
    ∃ wide,
      (∀ next : Bins → Option Bins,
        (if other.minKey < b.minKey ∨ b.maxKey < other.maxKey then
          b.cover other.minKey other.maxKey >>= next
        else some b >>= next) = next wide) ∧
      Widens limit b wide (min b.minKey.toInt other.minKey.toInt)
        (max b.maxKey.toInt other.maxKey.toInt) := by
  have hminmax := ho.minKey_le
  have hoffset := ho.offset_le
  have hend := ho.lt_end
  have hsize := ho.size_le
  by_cases hout : other.minKey < b.minKey ∨ b.maxKey < other.maxKey
  · obtain ⟨wide, hcover, hwidens⟩ :=
      cover_widens h ho.minKey_near ho.maxKey_near (by omega)
    rw [min_eq_left hminmax, max_eq_right hminmax, min_comm, max_comm] at hwidens
    refine ⟨wide, fun next => ?_, hwidens⟩
    rw [if_pos hout, hcover]
    rfl
  · refine ⟨b, fun next => ?_, ?_⟩
    · rw [if_neg hout]
      rfl
    rw [Int32.lt_iff_toInt_lt, Int32.lt_iff_toInt_lt] at hout
    rw [max_eq_left (by omega)]
    exact h.widens_self (by omega) (.inr (by omega))

/-- What is folded counts for no key above the lowest one, and if there are no lower keys then
nothing is folded. The keys that are left begin at the lowest one that has a bin. -/
theorem merge_folds (ho : other.Laid limit) {wide : Bins} {lo hi : Int}
    (h : Widens limit b wide lo hi) (hlo : lo ≤ other.minKey.toInt) :
    ∃ counts first,
      (∀ next : Bins × Int32 → Option Bins,
        (if other.minKey - other.offset < min wide.minKey (other.maxKey + 1) - other.offset then do
          let folded ← wide.foldRange (other.minKey - other.offset)
            (min wide.minKey (other.maxKey + 1) - other.offset)
          some (folded, min wide.minKey (other.maxKey + 1) - other.offset) >>= next
        else some (wide, other.minKey - other.offset) >>= next) =
          next ({ wide with counts }, first)) ∧
      counts.size = wide.counts.size ∧
      (first + other.offset).toInt =
        max other.minKey.toInt (min wide.minKey.toInt (other.maxKey.toInt + 1)) ∧
      ∀ key, (wide.minKey.toInt ≤ other.minKey.toInt ∨ wide.minKey.toInt < key) →
        countAt { wide with counts } key = wide.countAt key := by
  have hminmax := ho.minKey_le
  have hoffset := ho.offset_le
  have hend := ho.lt_end
  have hsize := ho.size_le
  have hroom := ho.size_le_room
  have hmin := ho.minKey_near
  have hmax := ho.maxKey_near
  have hwide := h.laid.minKey_near
  have hwide_offset := h.laid.offset_le
  have hwide_end := h.laid.lt_end
  have hwide_min := h.minKey_eq
  have hwide_max := h.maxKey_eq
  have hbehind : (other.maxKey + 1).toInt = other.maxKey.toInt + 1 := toInt_add_one (by omega)
  have hstart : (other.minKey - other.offset).toInt = other.minKey.toInt - other.offset.toInt :=
    toInt_sub (by omega) (by omega)
  have hstop : (min wide.minKey (other.maxKey + 1) - other.offset).toInt =
      min wide.minKey.toInt (other.maxKey.toInt + 1) - other.offset.toInt := by
    rw [toInt_sub (by rw [toInt_min, hbehind]; omega) (by rw [toInt_min, hbehind]; omega),
      toInt_min, hbehind]
  generalize other.minKey - other.offset = start at hstart
  generalize min wide.minKey (other.maxKey + 1) - other.offset = stop at hstop
  by_cases hfold : start < stop
  · have hlt := hfold
    rw [Int32.lt_iff_toInt_lt] at hlt
    refine ⟨increase wide.counts 0 (sum wide.counts start.toInt.toNat stop.toInt.toNat), stop,
      fun next => ?_, size_increase _ _ _, ?_, fun key hkey => ?_⟩
    · rw [if_pos hfold]
      unfold foldRange
      rw [if_pos]
      · rfl
      -- There are lower keys only if `wide` takes all the room.
      · rw [Int32.le_iff_toInt_le, Int32.toInt_zero]
        omega
    · rw [toInt_add (by omega) (by omega)]
      omega
    · rw [countAt_increase (by omega), if_neg (by omega), UInt64.add_zero]
  · refine ⟨wide.counts, start, fun next => ?_, rfl, ?_, fun _ _ => rfl⟩
    · rw [if_neg hfold]
      rfl
    · rw [Int32.lt_iff_toInt_lt] at hfold
      rw [toInt_add (by omega) (by omega)]
      omega

/-- Wide bins with the counts of both sides are the merged ones. -/
theorem Widens.merges {wide : Bins} {merged : Array UInt64}
    (h : Widens limit b wide (min b.minKey.toInt other.minKey.toInt)
      (max b.maxKey.toInt other.maxKey.toInt)) (hsize : merged.size = wide.counts.size)
    (hkeys : ∀ ks ls, b.Holds ks → other.Holds ls → ∀ k,
      (wide.minKey.toInt ≤ other.minKey.toInt ∨ wide.minKey.toInt < k) →
        countAt { wide with counts := merged } k =
          .ofNat ((ks.map (max wide.minKey.toInt) ++ ls).count k)) :
    Merges limit b other { wide with counts := merged, total := wide.total + other.total } := by
  have hmin := h.minKey_eq
  have hmax := h.maxKey_eq
  refine ⟨?_, ?_, hmax, ?_, fun ks ls hks hls k hk => ?_, fun hall ks ls hks hls => ?_⟩
  · exact { h.laid with
      size_le := hsize.trans_le h.laid.size_le
      size_le_room := hsize.trans_le h.laid.size_le_room
      lt_end := by
        have := h.laid.lt_end
        dsimp only
        omega }
  · dsimp only
    rw [h.total_eq]
  · dsimp only
    rw [hmax]
    exact hmin
  · refine (hkeys ks ls hks hls k (.inr hk)).trans ?_
    dsimp only at hk ⊢
    rw [List.count_append, List.map_append, List.count_append, count_map_max _ _ ls,
      if_neg (by omega), if_neg (by omega)]
  · dsimp only at hall ⊢
    have hholds := h.holds ks hks
    rw [List.map_append, map_max_of_le fun k hk => le_trans hall (hls.within k hk).1]
    refine ⟨?_, fun k hk => ?_, fun k => hkeys ks ls hks hls k (.inl hall)⟩
    · dsimp only
      rw [hholds.total_eq, hls.total_eq, List.length_append, UInt64.ofNat_add]
    · rcases List.mem_append.mp hk with hk | hk
      · exact hholds.within k hk
      · have := hls.within k hk
        dsimp only
        omega

/-- Bins can be merged. -/
theorem merge_merges (h : b.Laid limit) (ho : other.Laid limit) (hb : b.total ≠ 0)
    (hother : other.total ≠ 0) : ∃ c, b.merge other = some c ∧ Merges limit b other c := by
  obtain ⟨wide, hwide, hwidens⟩ := merge_widens h ho
  obtain ⟨counts, first, hfold, hsize, hfirst, hfolded⟩ :=
    merge_folds ho hwidens (min_le_right _ _)
  have hminmax := ho.minKey_le
  have hoffset := ho.offset_le
  have hend := ho.lt_end
  have hroom := ho.size_le_room
  have hnear := ho.maxKey_near
  have hwide_room := hwidens.laid.size_le_room
  have hwide_offset := hwidens.laid.offset_le
  have hwide_end := hwidens.laid.lt_end
  have hwide_max := hwidens.maxKey_eq
  have hbehind : (other.maxKey + 1).toInt = other.maxKey.toInt + 1 := toInt_add_one (by omega)
  unfold merge
  rw [if_neg hother, if_neg hb]
  dsimp only
  rw [hwide]
  refine Exists.imp (fun c => And.imp_left fun he => (hfold _).trans he) ?_
  dsimp only
  rw [hbehind]
  generalize first + other.offset = key at hfirst
  obtain ⟨merged, hadd, hmerged, hcountAt⟩ :=
    addCounts_eq (b := { wide with counts }) (other.maxKey.toInt + 1 - key.toInt).toNat key
      (by dsimp only; omega) (show other.counts.size < 2 ^ 31 by omega) (by omega)
      (fun _ => by dsimp only; omega) (by dsimp only; omega) (by omega)
  rw [hadd]
  refine ⟨_, rfl, hwidens.merges (hmerged.trans hsize) fun ks ls hks hls k hk => ?_⟩
  refine (hcountAt k).trans ?_
  rw [hfolded k hk, (hwidens.holds ks hks).countAt_eq, List.count_append, UInt64.ofNat_add]
  congr 1
  rw [← hls.countAt_eq]
  split
  · rfl
  · exact (hls.countAt_eq_zero (by omega)).symm

end Bins

end SpanRollup
