import Mathlib
import SpanRollup.Proofs.Sketch.Counts
import SpanRollup.Proofs.Sketch.Room

/-!
# How bins are laid out

Bins are laid out if each key in their range has a bin. Keys that are not too far from zero keep
them so: room for them is always found, and what is folded counts for the lowest key that is kept.

- `Bins.Laid`: the layout.
- `Bins.Widens`: bins are those from before, for a wider range of keys.
- `cover_widens`: a range of keys is widened.
- `add_laid`: a key is counted.
-/

namespace SpanRollup

namespace Bins

/-- Each key of the range has a bin. Folded bins take all the room that there is. -/
structure Laid (limit : Nat) (b : Bins) : Prop where
  limit_eq : b.limit = limit
  size_le : b.counts.size ≤ limit
  size_le_room : b.counts.size ≤ 2 ^ 29 + 128
  minKey_near : b.minKey.toInt.natAbs ≤ 2 ^ 28
  maxKey_near : b.maxKey.toInt.natAbs ≤ 2 ^ 28
  minKey_le : b.minKey.toInt ≤ b.maxKey.toInt
  offset_le : b.offset.toInt ≤ b.minKey.toInt
  lt_end : b.maxKey.toInt < b.offset.toInt + b.counts.size
  full : b.collapsed = true → b.maxKey.toInt + 1 = b.minKey.toInt + limit

/-- The bins `c` are `b` for the keys from `lo` to `hi`, as far as there is room for them. -/
structure Widens (limit : Nat) (b c : Bins) (lo hi : Int) : Prop where
  laid : c.Laid limit
  total_eq : c.total = b.total
  maxKey_eq : c.maxKey.toInt = hi
  minKey_eq : c.minKey.toInt = max lo (hi - limit + 1)
  whole : c.collapsed = false → c.minKey.toInt = lo
  holds : ∀ ks, b.Holds ks → c.Holds (ks.map (max c.minKey.toInt))

variable {limit : Nat} {b c other : Bins} {lo hi : Int32}

/-! ## Room -/

theorem sizeFor_spec (b : Bins) (hlo : lo.toInt.natAbs ≤ 2 ^ 28) (hhi : hi.toInt.natAbs ≤ 2 ^ 28)
    (hle : lo.toInt ≤ hi.toInt) :
    b.sizeFor lo hi ≤ 2 ^ 29 + 128 ∧
      (hi.toInt - lo.toInt < b.sizeFor lo hi ∨ b.sizeFor lo hi = b.limit) := by
  have hchunk : chunk.toInt = 128 := by decide
  have h1 : (hi - lo).toInt = hi.toInt - lo.toInt := toInt_sub (by omega) (by omega)
  have h2 : (hi - lo + 1).toInt = hi.toInt - lo.toInt + 1 := by
    rw [toInt_add_one (by omega), h1]
  have h3 : (hi - lo + 1 + chunk).toInt = hi.toInt - lo.toInt + 129 := by
    rw [toInt_add (by omega) (by omega), h2, hchunk]
    omega
  have h4 : (hi - lo + 1 + chunk - 1).toInt = hi.toInt - lo.toInt + 128 := by
    rw [toInt_sub (by rw [h3, Int32.toInt_one]; omega) (by rw [h3, Int32.toInt_one]; omega), h3,
      Int32.toInt_one]
    omega
  have h5 : ((hi - lo + 1 + chunk - 1) / chunk).toInt = (hi.toInt - lo.toInt + 128) / 128 := by
    rw [toInt_div (by omega), h4, hchunk]
  have h6 : ((hi - lo + 1 + chunk - 1) / chunk * chunk).toInt =
      (hi.toInt - lo.toInt + 128) / 128 * 128 := by
    rw [toInt_mul (by rw [h5, hchunk]; omega) (by rw [h5, hchunk]; omega), h5, hchunk]
  unfold sizeFor
  dsimp only
  rw [if_neg (by rw [Int32.lt_iff_toInt_lt, h6, Int32.toInt_zero]; omega), h6]
  omega

/-- More room changes nothing. -/
theorem growTo_laid {size : Nat} (h : b.Laid limit) (hlimit : size ≤ limit)
    (hroom : size ≤ 2 ^ 29 + 128) :
    ∃ c, b.growTo size = some c ∧ c.Laid limit ∧ size ≤ c.counts.size ∧
      c.minKey = b.minKey ∧ c.maxKey = b.maxKey ∧ c.total = b.total ∧
      ∀ ks, b.Holds ks → c.Holds ks := by
  have hsize : (b.counts ++ Array.replicate (size - b.counts.size) 0).size =
      max b.counts.size size := by
    rw [Array.size_append, Array.size_replicate]
    omega
  unfold growTo
  rw [if_neg (by omega)]
  refine ⟨_, rfl, ?_, ?_, rfl, rfl, rfl, ?_⟩
  · have := h.size_le
    have := h.size_le_room
    have := h.lt_end
    refine { h with size_le := ?_, size_le_room := ?_, lt_end := ?_ }
    · rw [hsize]
      omega
    · rw [hsize]
      omega
    · dsimp only
      rw [hsize]
      omega
  · rw [hsize]
    omega
  · intro ks hks
    refine ⟨hks.total_eq, hks.within, fun key => ?_⟩
    rw [countAt_grow, hks.countAt_eq]

/-! ## Folding -/

theorem size_folded (counts : Array UInt64) {start stop : Nat} (h : start ≤ stop)
    (hstop : stop ≤ counts.size) :
    (counts.extract 0 start ++ Array.replicate (stop - start) 0 ++
      counts.extract stop counts.size).size = counts.size := by
  simp only [Array.size_append, Array.size_extract, Array.size_replicate]
  omega

theorem getD_folded (counts : Array UInt64) {start stop : Nat} (i : Nat) (h : start ≤ stop)
    (hstop : stop ≤ counts.size) :
    (counts.extract 0 start ++ Array.replicate (stop - start) 0 ++
      counts.extract stop counts.size).getD i 0 =
        if start ≤ i ∧ i < stop then 0 else counts.getD i 0 := by
  rw [Array.getD_eq_getD_getElem?, Array.getElem?_append, Array.getElem?_append,
    Array.getElem?_replicate, Array.getElem?_extract, Array.getElem?_extract, Array.size_append,
    Array.size_replicate, Array.size_extract]
  by_cases hlow : i < start
  · rw [if_pos (by omega), if_pos (by omega), if_pos (by omega), if_neg (by omega), Nat.zero_add,
      Array.getD_eq_getD_getElem?]
  by_cases hmiddle : i < stop
  · rw [if_pos (by omega), if_neg (by omega), if_pos (by omega), if_pos (by omega)]
    rfl
  rw [if_neg (by omega), if_neg (c := start ≤ i ∧ i < stop) (by omega),
    Array.getD_eq_getD_getElem?]
  by_cases hhigh : i < counts.size
  · rw [if_pos (by omega)]
    congr 2
    omega
  · rw [if_neg (by omega), Array.getElem?_eq_none (by omega)]

/-- Keys with bins before `stop` count as the key of that bin afterwards. -/
theorem Holds.countAt_folded {ks : List Int} (h : b.Holds ks) {start stop : Nat}
    (hstart : b.minKey.toInt = b.offset.toInt + start) (hle : start ≤ stop)
    (hstop : stop < b.counts.size) (k : Int) :
    countAt { b with
      counts := increase (b.counts.extract 0 start ++ Array.replicate (stop - start) 0 ++
        b.counts.extract stop b.counts.size) stop (sum b.counts start stop) } k =
      .ofNat ((ks.map (max (b.offset.toInt + stop))).count k) := by
  rw [count_map_max]
  unfold countAt
  dsimp only
  by_cases hout : k < b.offset.toInt
  · rw [if_neg (by omega), if_pos (by omega)]
    rfl
  rw [if_pos (by omega), getD_increase _ _ _ _ (by rwa [size_folded _ hle hstop.le]),
    getD_folded _ _ hle hstop.le]
  have hk := h.countAt_eq k
  rw [countAt, if_pos (by omega)] at hk
  rcases lt_trichotomy k (b.offset.toInt + stop) with hlt | rfl | hgt
  · -- The bin of a lower key is emptied, if it was in use.
    rw [if_pos hlt, if_neg (c := _ = stop) (by omega), UInt64.add_zero]
    split
    · rfl
    · rw [hk, List.count_eq_zero_of_not_mem]
      intro hmem
      have := h.within k hmem
      omega
  · rw [if_neg (c := _ ∧ _) (by omega), if_pos (c := _ = stop) (by omega),
      if_neg (lt_irrefl _), if_pos rfl, hk, h.sum_eq hle hstop.le, ← UInt64.ofNat_add,
      Nat.add_comm, countP_add_count _ (by omega)]
    congr 1
    refine List.countP_congr fun k hmem => ?_
    have := h.within k hmem
    simp only [decide_eq_true_eq]
    omega
  · rw [if_neg (by omega), if_neg (by omega), if_neg (by omega), if_neg (by omega), hk,
      UInt64.add_zero]

/-- Keys below `key` count as `key` afterwards. -/
theorem foldBelow_eq (key : Int32) (h : b.Laid limit) (hlow : b.minKey.toInt ≤ key.toInt)
    (hhigh : key.toInt < b.offset.toInt + b.counts.size) :
    ∃ counts, b.foldBelow key = some { b with counts } ∧ counts.size = b.counts.size ∧
      ∀ ks, b.Holds ks →
        ∀ k, countAt { b with counts } k = .ofNat ((ks.map (max key.toInt)).count k) := by
  have hroom := h.size_le_room
  have hoffset := h.offset_le
  have hmin : b.index? b.minKey = some (b.minKey.toInt - b.offset.toInt).toNat :=
    index?_eq (by omega) (by omega) (by omega)
  have hkey : b.index? key = some (key.toInt - b.offset.toInt).toNat :=
    index?_eq (by omega) (by omega) (by omega)
  obtain ⟨start, hstart⟩ : ∃ start : Nat, b.minKey.toInt = b.offset.toInt + start :=
    ⟨(b.minKey.toInt - b.offset.toInt).toNat, by omega⟩
  obtain ⟨stop, hstop⟩ : ∃ stop : Nat, key.toInt = b.offset.toInt + stop :=
    ⟨(key.toInt - b.offset.toInt).toNat, by omega⟩
  rw [hstart, add_sub_cancel_left, Int.toNat_natCast] at hmin
  rw [hstop, add_sub_cancel_left, Int.toNat_natCast] at hkey
  have hle : start ≤ stop := by omega
  have hlt : stop < b.counts.size := by omega
  unfold foldBelow
  rw [hmin, hkey]
  dsimp only [Option.bind_eq_bind, Option.bind_some]
  rw [if_pos hle]
  refine ⟨_, rfl, ?_, fun ks hks k => ?_⟩
  · rw [size_increase, size_folded _ hle hlt.le]
  · rw [hks.countAt_folded hstart hle hlt, ← hstop]

/-! ## Moving -/

section

variable (hlo : lo.toInt.natAbs ≤ 2 ^ 28) (hhi : hi.toInt.natAbs ≤ 2 ^ 28)
  (hle : lo.toInt ≤ hi.toInt) (hroom : b.counts.size ≤ 2 ^ 29 + 128)

include hlo hhi hle

theorem toInt_span : (hi - lo + 1).toInt = hi.toInt - lo.toInt + 1 := by
  have hsub : (hi - lo).toInt = hi.toInt - lo.toInt := toInt_sub (by omega) (by omega)
  rw [toInt_add_one (by omega), hsub]

include hroom

theorem width_lt_iff :
    b.width < hi - lo + 1 ↔ (b.counts.size : Int) ≤ hi.toInt - lo.toInt := by
  rw [Int32.lt_iff_toInt_lt, toInt_width (by omega), toInt_span hlo hhi hle]
  omega

/-- If there is a bin for each key, the range is put into the middle of the bins. -/
theorem arrange_near (hwide : hi.toInt - lo.toInt < b.counts.size) (key : Int)
    (hkey : lo.toInt ≤ key ∧ key ≤ hi.toInt)
    (hbin : b.offset.toInt ≤ key ∧ key < b.offset.toInt + b.counts.size) :
    ∃ counts offset,
      b.arrange lo hi = some { b with counts, offset, minKey := lo, maxKey := hi } ∧
      counts.size = b.counts.size ∧ offset.toInt ≤ lo.toInt ∧
      hi.toInt < offset.toInt + b.counts.size ∧
      ∀ key, countAt { b with counts, offset } key =
        if offset.toInt ≤ key ∧ key < offset.toInt + b.counts.size then b.countAt key else 0 := by
  have htwo : Int32.toInt 2 = 2 := by decide
  have hspan := toInt_span hlo hhi hle
  have hhalf : ((hi - lo + 1) / 2).toInt = (hi.toInt - lo.toInt + 1) / 2 := by
    rw [toInt_div (by omega), hspan, htwo]
  have hmiddle : (lo + (hi - lo + 1) / 2).toInt = lo.toInt + (hi.toInt - lo.toInt + 1) / 2 := by
    rw [toInt_add (by omega) (by omega), hhalf]
  have hwidth : (b.width / 2).toInt = (b.counts.size : Int) / 2 := by
    rw [toInt_div (by rw [toInt_width (by omega)]; omega), toInt_width (by omega), htwo]
  have hoffset : (lo + (hi - lo + 1) / 2 - b.width / 2).toInt =
      lo.toInt + (hi.toInt - lo.toInt + 1) / 2 - (b.counts.size : Int) / 2 := by
    rw [toInt_sub (by omega) (by omega), hmiddle, hwidth]
  -- Both the old and the new bins have one for `key`, so they are not farther apart.
  obtain ⟨counts, hmove, hsize, hcounts⟩ :=
    moveTo_eq (b := b) (lo + (hi - lo + 1) / 2 - b.width / 2) (by omega) (by omega)
  unfold arrange
  dsimp only
  rw [if_neg (by rw [width_lt_iff hlo hhi hle hroom]; omega), hmove]
  refine ⟨counts, _, rfl, hsize, ?_, ?_, hcounts⟩
  · dsimp only
    omega
  · dsimp only
    omega

end

/-! ## Widening -/

/-- Keys that have a bin after a move are all that are counted. -/
theorem Holds.countAt_window {ks : List Int} (h : b.Holds ks) (offset : Int) (n : Nat)
    (hlow : offset ≤ b.minKey.toInt) (hhigh : b.maxKey.toInt < offset + n) (key : Int) :
    (if offset ≤ key ∧ key < offset + n then b.countAt key else 0) = b.countAt key := by
  split
  · rfl
  · exact (h.countAt_eq_zero (by omega)).symm

theorem arrange_near_widens (h : b.Laid limit) (hlo : lo.toInt.natAbs ≤ 2 ^ 28)
    (hhi : hi.toInt.natAbs ≤ 2 ^ 28) (hlow : lo.toInt ≤ b.minKey.toInt)
    (hhigh : b.maxKey.toInt ≤ hi.toInt) (hwide : hi.toInt - lo.toInt < b.counts.size) :
    ∃ c, b.arrange lo hi = some c ∧ Widens limit b c lo.toInt hi.toInt := by
  have hminmax := h.minKey_le
  have hoffset := h.offset_le
  have hend := h.lt_end
  have hsize_le := h.size_le
  obtain ⟨counts, offset, harrange, hsize, hlo', hhi', hcounts⟩ :=
    arrange_near hlo hhi (by omega) h.size_le_room hwide b.minKey.toInt
      ⟨hlow, by omega⟩ ⟨hoffset, by omega⟩
  refine ⟨_, harrange, ?_, rfl, rfl, ?_, fun _ => rfl, fun ks hks => ?_⟩
  · refine
      { limit_eq := h.limit_eq
        size_le := hsize.trans_le h.size_le
        size_le_room := hsize.trans_le h.size_le_room
        minKey_near := hlo
        maxKey_near := hhi
        minKey_le := by dsimp only; omega
        offset_le := hlo'
        lt_end := by dsimp only; omega
        full := fun hcollapsed => ?_ }
    have := h.full hcollapsed
    dsimp only
    omega
  · dsimp only
    omega
  · rw [map_max_of_le fun k hk => le_trans hlow (hks.within k hk).1]
    refine ⟨hks.total_eq, fun k hk => ?_, fun key => ?_⟩
    · have := hks.within k hk
      dsimp only
      omega
    · rw [← hks.countAt_eq, ← hks.countAt_window offset.toInt b.counts.size
        (by omega) (by omega) key]
      exact hcounts key

theorem getD_replicate_zero (n i : Nat) : (Array.replicate n (0 : UInt64)).getD i 0 = 0 := by
  rw [Array.getD_eq_getD_getElem?, Array.getElem?_replicate]
  split <;> rfl

theorem getD_increase_replicate {n : Nat} (h : 0 < n) (m : UInt64) (i : Nat) :
    (increase (Array.replicate n 0) 0 m).getD i 0 = if i = 0 then m else 0 := by
  rw [getD_increase _ _ _ _ (by rwa [Array.size_replicate]), getD_replicate_zero, UInt64.zero_add]

/-- The bins `b` with other counts, for the keys from `start` to `hi` only. -/
def cut (b : Bins) (start hi : Int32) (counts : Array UInt64) : Bins :=
  { b with counts, minKey := start, maxKey := hi, offset := start, collapsed := true }

/-- All bins are used once some have been folded. -/
theorem cut_widens {start : Int32} {counts : Array UInt64} {lo : Int} (h : b.Laid limit)
    (hhi : hi.toInt.natAbs ≤ 2 ^ 28) (hhigh : b.maxKey.toInt ≤ hi.toInt)
    (hfull : b.counts.size = limit) (hstart : start.toInt = hi.toInt - limit + 1)
    (hlow : lo ≤ start.toInt) (hle : start.toInt.natAbs ≤ 2 ^ 28)
    (hsize : counts.size = b.counts.size)
    (hcounts : ∀ ks, b.Holds ks → ∀ k,
      (b.cut start hi counts).countAt k = .ofNat ((ks.map (max start.toInt)).count k)) :
    Widens limit b (b.cut start hi counts) lo hi.toInt := by
  have hminmax := h.minKey_le
  have hoffset := h.offset_le
  have hend := h.lt_end
  unfold cut at hcounts ⊢
  refine ⟨?_, rfl, rfl, ?_, nofun, fun ks hks => ⟨?_, fun k hk => ?_, hcounts ks hks⟩⟩
  · exact
      { limit_eq := h.limit_eq
        size_le := hsize.trans_le h.size_le
        size_le_room := hsize.trans_le h.size_le_room
        minKey_near := hle
        maxKey_near := hhi
        minKey_le := by dsimp only; omega
        offset_le := le_rfl
        lt_end := by dsimp only; omega
        full := fun _ => by dsimp only; omega }
  · dsimp only
    omega
  · rw [List.length_map]
    exact hks.total_eq
  · obtain ⟨k', hk', rfl⟩ := List.mem_map.mp hk
    have := hks.within k' hk'
    dsimp only
    omega

/-- Keys of which none is above the lowest bin all count there. -/
theorem countAt_cut_low {start : Int32} (hsize : 0 < b.counts.size)
    (hall : b.maxKey.toInt ≤ start.toInt) {ks : List Int} (hks : b.Holds ks) (k : Int) :
    (b.cut start hi (increase (Array.replicate b.counts.size 0) 0 b.total)).countAt k =
      .ofNat ((ks.map (max start.toInt)).count k) := by
  have hmap : ks.map (max start.toInt) = List.replicate ks.length start.toInt := by
    refine List.eq_replicate_iff.mpr ⟨List.length_map _, fun k hk => ?_⟩
    obtain ⟨k', hk', rfl⟩ := List.mem_map.mp hk
    have := hks.within k' hk'
    omega
  rw [hmap, List.count_replicate]
  unfold countAt cut
  dsimp only
  rw [getD_increase_replicate hsize, hks.total_eq]
  rcases lt_trichotomy k start.toInt with hlt | rfl | hgt
  · rw [if_neg (by omega), if_neg (by simp; omega)]
    rfl
  · rw [if_pos le_rfl, if_pos (by omega), if_pos (by simp)]
  · rw [if_pos (by omega), if_neg (by omega), if_neg (by simp; omega)]
    rfl

/-- Before bins are moved up, those of lower keys are folded, if there are any. -/
theorem arrange_folds (start : Int32) (h : b.Laid limit) (hstart : start.toInt.natAbs ≤ 2 ^ 28)
    (hhigh : start.toInt < b.maxKey.toInt)
    (hlow : b.offset.toInt < start.toInt → b.minKey.toInt ≤ start.toInt) :
    ∃ counts,
      (∀ next : Bins → Option Bins,
        (if b.offset - start < 0 then b.foldBelow start >>= next else some b >>= next) =
          next { b with counts }) ∧
      counts.size = b.counts.size ∧ ∀ ks, b.Holds ks → ∀ k,
        countAt { b with counts } k = .ofNat ((ks.map (max start.toInt)).count k) := by
  have hminmax := h.minKey_le
  have hoffset := h.offset_le
  have hend := h.lt_end
  have hroom := h.size_le_room
  have hmin := h.minKey_near
  have hmax := h.maxKey_near
  have hsub : (b.offset - start).toInt = b.offset.toInt - start.toInt :=
    toInt_sub (by omega) (by omega)
  by_cases hlt : b.offset - start < 0
  · have hneg := hlt
    rw [Int32.lt_iff_toInt_lt, hsub, Int32.toInt_zero] at hneg
    obtain ⟨counts, hfold, hsize, hcounts⟩ := foldBelow_eq start h (hlow (by omega)) (by omega)
    refine ⟨counts, fun next => ?_, hsize, hcounts⟩
    rw [if_pos hlt, hfold]
    rfl
  · refine ⟨b.counts, fun next => ?_, rfl, fun ks hks k => ?_⟩
    · rw [if_neg hlt]
      rfl
    · rw [Int32.lt_iff_toInt_lt, hsub, Int32.toInt_zero] at hlt
      rw [map_max_of_le fun k hk => le_trans (by omega) (hks.within k hk).1]
      exact hks.countAt_eq k

/-- If there are not enough bins, the lowest keys are folded. -/
theorem arrange_far_widens (h : b.Laid limit) (hlo : lo.toInt.natAbs ≤ 2 ^ 28)
    (hhi : hi.toInt.natAbs ≤ 2 ^ 28) (hlow : lo.toInt ≤ b.minKey.toInt)
    (hhigh : b.maxKey.toInt ≤ hi.toInt) (hfar : b.counts.size ≤ hi.toInt - lo.toInt)
    (hfull : b.counts.size = limit)
    (hside : lo.toInt = b.minKey.toInt ∨ hi.toInt = b.maxKey.toInt) :
    ∃ c, b.arrange lo hi = some c ∧ Widens limit b c lo.toInt hi.toInt := by
  have hroom := h.size_le_room
  have hminmax := h.minKey_le
  have hoffset := h.offset_le
  have hend := h.lt_end
  have hstart : (hi - b.width + 1).toInt = hi.toInt - limit + 1 := by
    have hwidth : b.width.toInt = limit := hfull ▸ toInt_width (by omega)
    have hsub : (hi - b.width).toInt = hi.toInt - limit := by
      rw [toInt_sub (by omega) (by omega), hwidth]
    rw [toInt_add_one (by omega), hsub]
  unfold arrange
  dsimp only
  rw [if_pos (by rw [width_lt_iff hlo hhi (by omega) hroom]; omega)]
  generalize hi - b.width + 1 = start at hstart
  by_cases hall : b.maxKey ≤ start
  · rw [if_pos hall, if_neg (by rw [Array.isEmpty_iff_size_eq_zero]; omega)]
    rw [Int32.le_iff_toInt_le] at hall
    refine ⟨_, rfl, ?_⟩
    exact cut_widens h hhi hhigh hfull hstart (by omega) (by omega) (by simp)
      fun ks hks => countAt_cut_low (by omega) hall hks
  · rw [if_neg hall]
    rw [Int32.le_iff_toInt_le] at hall
    obtain ⟨counts, hfold, hsize, hcounts⟩ :=
      arrange_folds start h (by omega) (by omega) (by omega)
    obtain ⟨moved, hmove, hmoved, hwindow⟩ :=
      moveTo_eq (b := { b with counts }) start (by dsimp only; omega) (by dsimp only; omega)
    rw [hfold, hmove]
    refine ⟨_, rfl, ?_⟩
    refine cut_widens h hhi hhigh hfull hstart (by omega) (by omega) (hmoved.trans hsize)
      fun ks hks k => (hwindow k).trans ?_
    dsimp only
    rw [hcounts ks hks]
    split
    · rfl
    -- A key without a bin is not among the keys.
    · rw [List.count_eq_zero_of_not_mem]
      · rfl
      · intro hmem
        obtain ⟨k', hk', rfl⟩ := List.mem_map.mp hmem
        have := hks.within k' hk'
        omega

/-- If all keys have a bin already, the range is widened in place. -/
theorem inside_widens (h : b.Laid limit) (hlo : lo.toInt = b.minKey.toInt)
    (hhi : b.maxKey.toInt ≤ hi.toInt) (hnear : hi.toInt.natAbs ≤ 2 ^ 28)
    (hinside : hi.toInt < b.offset.toInt + b.counts.size) :
    Widens limit b { b with minKey := lo, maxKey := hi } lo.toInt hi.toInt := by
  have hsize := h.size_le
  have hoffset := h.offset_le
  have hminmax := h.minKey_le
  have hmin := h.minKey_near
  refine ⟨?_, rfl, rfl, ?_, fun _ => rfl, fun ks hks => ?_⟩
  · refine
      { limit_eq := h.limit_eq
        size_le := h.size_le
        size_le_room := h.size_le_room
        minKey_near := by dsimp only; omega
        maxKey_near := hnear
        minKey_le := by dsimp only; omega
        offset_le := by dsimp only; omega
        lt_end := hinside
        full := fun hcollapsed => ?_ }
    have := h.full hcollapsed
    dsimp only
    omega
  · dsimp only
    omega
  · dsimp only
    rw [map_max_of_le fun k hk => le_trans (by omega) (hks.within k hk).1]
    refine ⟨hks.total_eq, fun k hk => ?_, hks.countAt_eq⟩
    have := hks.within k hk
    dsimp only
    omega

theorem toInt_min_min (key other : Int32) (b : Bins) :
    (min key (min other b.minKey)).toInt =
      min (min key.toInt other.toInt) b.minKey.toInt := by
  rw [toInt_min, toInt_min, min_assoc]

theorem toInt_max_max (key other : Int32) (b : Bins) :
    (max key (max other b.maxKey)).toInt =
      max (max key.toInt other.toInt) b.maxKey.toInt := by
  rw [toInt_max, toInt_max, max_assoc]

/-- Two keys that would fit into the bins are taken into their range. -/
theorem cover_widens {key other : Int32} (h : b.Laid limit) (hkey : key.toInt.natAbs ≤ 2 ^ 28)
    (hother : other.toInt.natAbs ≤ 2 ^ 28) (hspan : (key.toInt - other.toInt).natAbs < limit) :
    ∃ c, b.cover key other = some c ∧
      Widens limit b c (min (min key.toInt other.toInt) b.minKey.toInt)
        (max (max key.toInt other.toInt) b.maxKey.toInt) := by
  have hsize_le := h.size_le
  have hroom := h.size_le_room
  have hminmax := h.minKey_le
  have hoffset := h.offset_le
  have hend := h.lt_end
  have hmin := h.minKey_near
  have hmax := h.maxKey_near
  rw [← toInt_min_min, ← toInt_max_max]
  have hlo := toInt_min_min key other b
  have hhi := toInt_max_max key other b
  unfold cover
  dsimp only
  generalize min key (min other b.minKey) = lo at hlo
  generalize max key (max other b.maxKey) = hi at hhi
  rw [if_neg (by rw [Array.isEmpty_iff_size_eq_zero]; omega)]
  have hwidth : (b.offset + b.width).toInt = b.offset.toInt + b.counts.size := by
    rw [toInt_add (by rw [toInt_width (by omega)]; omega) (by rw [toInt_width (by omega)]; omega),
      toInt_width (by omega)]
  by_cases hinside : b.minKey ≤ lo ∧ hi < b.offset + b.width
  · rw [if_pos hinside]
    rw [Int32.le_iff_toInt_le, Int32.lt_iff_toInt_lt, hwidth] at hinside
    exact ⟨_, rfl, inside_widens h (by omega) (by omega) (by omega) hinside.2⟩
  · rw [if_neg hinside]
    have hlo' : lo.toInt.natAbs ≤ 2 ^ 28 := by omega
    have hhi' : hi.toInt.natAbs ≤ 2 ^ 28 := by omega
    obtain ⟨hroomy, hwide⟩ := sizeFor_spec b hlo' hhi' (by omega)
    have hlimited := b.sizeFor_le lo hi
    rw [h.limit_eq] at hwide hlimited
    obtain ⟨grown, hgrow, hgrown, hsize, hmin_eq, hmax_eq, htotal, hholds⟩ :=
      growTo_laid h hlimited hroomy
    have hgrown_le := hgrown.size_le
    rw [hgrow]
    -- What widens the grown bins widens `b`.
    suffices ∃ c, grown.arrange lo hi = some c ∧ Widens limit grown c lo.toInt hi.toInt by
      obtain ⟨c, harrange, hwidens⟩ := this
      exact ⟨c, harrange, { hwidens with
        total_eq := hwidens.total_eq.trans htotal
        holds := fun ks hks => hwidens.holds ks (hholds ks hks) }⟩
    rw [← hmin_eq] at hlo
    rw [← hmax_eq] at hhi
    by_cases hnear : hi.toInt - lo.toInt < grown.counts.size
    · exact arrange_near_widens hgrown hlo' hhi' (by omega) (by omega) hnear
    · exact arrange_far_widens hgrown hlo' hhi' (by omega) (by omega) (by omega) (by omega)
        (by omega)

theorem eq_nil_of_holds_empty {ks : List Int} (h : (empty limit).Holds ks) : ks = [] := by
  refine List.eq_nil_iff_forall_not_mem.mpr fun k hk => ?_
  have hrange := h.within k hk
  have hmin : (empty limit).minKey.toInt = 2 ^ 31 - 1 := by rfl
  have hmax : (empty limit).maxKey.toInt = -2 ^ 31 := by rfl
  omega

/-- The first key is put into the middle of new bins. -/
theorem cover_empty {key : Int32} (hlimit : 0 < limit) (hkey : key.toInt.natAbs ≤ 2 ^ 28) :
    ∃ c, (empty limit).cover key key = some c ∧
      Widens limit (empty limit) c key.toInt key.toInt := by
  have hlo : min key (min key Int32.maxValue) = key := by
    rw [← Int32.toInt_inj, toInt_min, toInt_min]
    have : Int32.maxValue.toInt = 2 ^ 31 - 1 := by decide
    omega
  have hhi : max key (max key Int32.minValue) = key := by
    rw [← Int32.toInt_inj, toInt_max, toInt_max]
    have : Int32.minValue.toInt = -2 ^ 31 := by decide
    omega
  obtain ⟨hroomy, hwide⟩ := sizeFor_spec (empty limit) hkey hkey le_rfl
  have hlimited : (empty limit).sizeFor key key ≤ limit := (empty limit).sizeFor_le key key
  change _ ∨ _ = limit at hwide
  unfold cover
  dsimp only
  rw [show (empty limit).minKey = Int32.maxValue from rfl, hlo,
    show (empty limit).maxKey = Int32.minValue from rfl, hhi,
    if_pos (show (empty limit).counts.isEmpty = true from rfl)]
  generalize (empty limit).sizeFor key key = size at *
  have hcounts : (empty limit).counts ++ Array.replicate (size - (empty limit).counts.size) 0 =
      Array.replicate size 0 := by simp [empty]
  have hsize : (Array.replicate size (0 : UInt64)).size = size := Array.size_replicate
  have hzero (k : Int) :
      countAt { empty limit with counts := .replicate size 0, offset := key } k = 0 := by
    unfold countAt
    dsimp only
    rw [getD_replicate_zero, ite_self]
  unfold growTo
  rw [if_neg (by omega), hcounts]
  dsimp only [Option.bind_eq_bind, Option.bind_some]
  generalize Array.replicate size (0 : UInt64) = counts at hsize hzero
  obtain ⟨counts', offset, harrange, hsize', hlo', hhi', hwindow⟩ :=
    arrange_near (b := { empty limit with counts, offset := key }) hkey hkey le_rfl
      (by dsimp only; omega) (by dsimp only; omega) key.toInt ⟨le_rfl, le_rfl⟩
      ⟨le_rfl, by dsimp only; omega⟩
  rw [harrange]
  dsimp only at hsize' hhi' hwindow
  refine ⟨_, rfl, ?_, rfl, rfl, ?_, fun _ => rfl, fun ks hks => ?_⟩
  · exact
      { limit_eq := rfl
        size_le := by dsimp only; omega
        size_le_room := by dsimp only; omega
        minKey_near := hkey
        maxKey_near := hkey
        minKey_le := le_rfl
        offset_le := hlo'
        lt_end := by dsimp only; omega
        full := nofun }
  · dsimp only
    omega
  · obtain rfl := eq_nil_of_holds_empty hks
    refine ⟨rfl, nofun, fun k => (hwindow k).trans ?_⟩
    rw [hzero, ite_self]
    rfl

/-- Folded bins are what they would be for lower keys, too. -/
theorem Laid.widens_self (h : b.Laid limit) {lo : Int} (hlo : lo ≤ b.minKey.toInt)
    (hwhole : b.collapsed = true ∨ lo = b.minKey.toInt) :
    Widens limit b b lo b.maxKey.toInt := by
  have hsize := h.size_le
  have hoffset := h.offset_le
  have hend := h.lt_end
  refine ⟨h, rfl, rfl, ?_, fun hcollapsed => ?_, fun ks hks => ?_⟩
  · rcases hwhole with hcollapsed | rfl
    · have := h.full hcollapsed
      omega
    · omega
  · rcases hwhole with hfolded | rfl
    · rw [hcollapsed] at hfolded
      cases hfolded
    · rfl
  · rw [map_max_of_le fun k hk => (hks.within k hk).1]
    exact hks

/-! ## Counting a key -/

/-- The bins `c` are `b` and one more key. -/
structure Adds (limit : Nat) (b c : Bins) (key : Int) : Prop where
  laid : c.Laid limit
  total_eq : c.total = b.total + 1
  maxKey_eq : c.maxKey.toInt = max b.maxKey.toInt key
  minKey_eq : c.minKey.toInt = max (min b.minKey.toInt key) (c.maxKey.toInt - limit + 1)
  holds : ∀ ks, b.Holds ks → c.Holds ((ks ++ [key]).map (max c.minKey.toInt))

theorem bump_adds {d : Bins} {key : Int} {index : Nat}
    (h : Widens limit b d (min b.minKey.toInt key) (max b.maxKey.toInt key))
    (hbin : d.offset.toInt + index = max d.minKey.toInt key) :
    ∃ c, d.bump index = some c ∧ Adds limit b c key := by
  have hminmax := h.laid.minKey_le
  have hend := h.laid.lt_end
  have hmax := h.maxKey_eq
  have hindex : index < d.counts.size := by omega
  unfold bump
  rw [if_pos hindex]
  refine ⟨_, rfl, ?_, by rw [h.total_eq], hmax, ?_, fun ks hks => ?_⟩
  · exact { h.laid with
      size_le := (size_increase _ _ _).trans_le h.laid.size_le
      size_le_room := (size_increase _ _ _).trans_le h.laid.size_le_room
      lt_end := by
        dsimp only
        rwa [size_increase] }
  · dsimp only
    rw [hmax]
    exact h.minKey_eq
  · have hholds := h.holds ks hks
    rw [List.map_append, List.map_singleton]
    refine ⟨?_, fun k hk => ?_, fun k => ?_⟩
    · rw [List.length_append, List.length_singleton]
      dsimp only
      rw [hholds.total_eq, UInt64.ofNat_add]
      rfl
    · rcases List.mem_append.mp hk with hk | hk
      · exact hholds.within k hk
      · rw [List.mem_singleton.mp hk]
        dsimp only
        omega
    · refine (countAt_increase hindex 1 k).trans ?_
      rw [hholds.countAt_eq, hbin, List.count_append, List.count_singleton, UInt64.ofNat_add]
      congr 1
      simp only [beq_iff_eq, eq_comm (a := k)]
      split <;> rfl

theorem bumpKey_adds {d : Bins} {key : Int32}
    (h : Widens limit b d (min b.minKey.toInt key.toInt) (max b.maxKey.toInt key.toInt))
    (hkey : d.minKey.toInt ≤ key.toInt) :
    ∃ c, d.bumpKey key = some c ∧ Adds limit b c key.toInt := by
  have hoffset := h.laid.offset_le
  have hroom := h.laid.size_le_room
  have hend := h.laid.lt_end
  have hmax := h.maxKey_eq
  unfold bumpKey
  rw [index?_eq (by omega) (by omega) (by omega)]
  exact bump_adds h (by omega)

/-- A key below the range counts for the lowest key that is kept. -/
theorem bump_low_adds {d : Bins} {key : Int32}
    (h : Widens limit b d (min b.minKey.toInt key.toInt) (max b.maxKey.toInt key.toInt))
    (hlow : key.toInt ≤ b.minKey.toInt) :
    ∃ c, (if d.collapsed then d.bump 0 else d.bumpKey key) = some c ∧
      Adds limit b c key.toInt := by
  have hoffset := h.laid.offset_le
  have hsize := h.laid.size_le
  have hend := h.laid.lt_end
  have hmin := h.minKey_eq
  by_cases hcollapsed : d.collapsed = true
  · have hfull := h.laid.full hcollapsed
    rw [if_pos hcollapsed]
    exact bump_adds h (by omega)
  · have hwhole := h.whole (Bool.eq_false_iff.mpr hcollapsed)
    rw [if_neg hcollapsed]
    exact bumpKey_adds h (by omega)

/-- Every key that is near enough is counted. -/
theorem add_adds {key : Int32} (h : b.Laid limit) (hkey : key.toInt.natAbs ≤ 2 ^ 28) :
    ∃ c, b.add key = some c ∧ Adds limit b c key.toInt := by
  have hminmax := h.minKey_le
  have hoffset := h.offset_le
  have hsize := h.size_le
  have hend := h.lt_end
  obtain ⟨d, hcover, hwidens⟩ := cover_widens h hkey hkey (by omega)
  rw [min_self, max_self, min_comm, max_comm] at hwidens
  unfold add
  by_cases hlow : key < b.minKey
  · rw [if_pos hlow]
    rw [Int32.lt_iff_toInt_lt] at hlow
    by_cases hcollapsed : b.collapsed = true
    · have hfull := h.full hcollapsed
      rw [if_pos hcollapsed]
      refine bump_adds (d := b) ?_ (by omega)
      rw [max_eq_left (by omega)]
      exact h.widens_self (by omega) (.inl hcollapsed)
    · rw [if_neg hcollapsed, hcover]
      exact bump_low_adds hwidens hlow.le
  · rw [if_neg hlow]
    rw [Int32.lt_iff_toInt_lt] at hlow
    by_cases hhigh : b.maxKey < key
    · rw [if_pos hhigh, hcover]
      rw [Int32.lt_iff_toInt_lt] at hhigh
      have hmin := hwidens.minKey_eq
      have hmax := hwidens.laid.minKey_le
      have hmax' := hwidens.maxKey_eq
      exact bumpKey_adds hwidens (by omega)
    · rw [if_neg hhigh]
      rw [Int32.lt_iff_toInt_lt] at hhigh
      refine bumpKey_adds (d := b) ?_ (by omega)
      rw [max_eq_left (by omega)]
      exact h.widens_self (by omega) (.inr (by omega))

/-- The first key is counted. -/
theorem add_empty_adds {key : Int32} (hlimit : 0 < limit) (hkey : key.toInt.natAbs ≤ 2 ^ 28) :
    ∃ c, (empty limit).add key = some c ∧ Adds limit (empty limit) c key.toInt := by
  have hmin : (empty limit).minKey.toInt = 2 ^ 31 - 1 := by rfl
  have hmax : (empty limit).maxKey.toInt = -2 ^ 31 := by rfl
  obtain ⟨d, hcover, hwidens⟩ := cover_empty hlimit hkey
  unfold add
  rw [if_pos (by rw [Int32.lt_iff_toInt_lt, hmin]; omega), if_neg (by rintro ⟨⟩), hcover]
  refine bump_low_adds ?_ (by omega)
  rwa [min_eq_right (by omega), max_eq_right (by omega)]

end Bins

end SpanRollup
