import Mathlib
import SpanRollup.Proofs.Digest.Merging
import SpanRollup.Proofs.Sketch.KeyValue
import SpanRollup.Proofs.Sketch.Rank

/-!
# Inner quantiles that are zero

An inner quantile is zero if and only if the duration at its rank, among all durations in order, is
not more than one nanosecond. So a duration of one nanosecond counts as none.

- `le_iff_lt_countP`: where the durations in order pass a bound.
- `inner_quantile_zero`: when an inner quantile is zero.
-/

namespace SpanRollup

/-- In a list that ascends, the numbers up to a bound come first. -/
theorem le_iff_lt_countP {ns : List Int} (h : ns.Pairwise (· ≤ ·)) {i : Nat} {n : Int}
    (hi : ns[i]? = some n) (bound : Int) : n ≤ bound ↔ i < ns.countP (· ≤ bound) := by
  induction ns generalizing i with
  | nil => cases hi
  | cons m ns ih =>
    obtain ⟨hm, hns⟩ := List.pairwise_cons.mp h
    by_cases hle : m ≤ bound
    · rw [List.countP_cons_of_pos (by simpa using hle)]
      cases i with
      | zero =>
        obtain rfl : m = n := Option.some.inj hi
        exact iff_of_true hle (Nat.succ_pos _)
      | succ i => rw [ih hns hi, Nat.succ_lt_succ_iff]
    · have hnone : (m :: ns).countP (· ≤ bound) = 0 := by
        rw [List.countP_eq_zero]
        intro k hk
        rw [decide_eq_true_iff]
        rcases List.mem_cons.mp hk with rfl | hk
        · exact hle
        · have := hm k hk
          omega
      have hmn : m ≤ n := by
        rcases List.mem_cons.mp (List.mem_of_getElem? hi) with rfl | hn
        · exact le_rfl
        · exact hm n hn
      rw [hnone]
      exact iff_of_false (by omega) (Nat.not_lt_zero i)

/-! ## Keys at ranks -/

namespace Bins

variable {limit : Nat} {b : Bins} {ks : List Int}

/-- The key at a rank is not below the least one that was given. -/
theorem Ranges.le_keyAtRank (h : Ranges limit ks b) (hkeeps : b.Keeps ks) (hne : ks ≠ []) {lo : Int}
    (hlo : ∀ k ∈ ks, lo ≤ k) (rank : UInt64) : lo ≤ (b.keyAtRank rank).toInt := by
  cases h with
  | empty => exact absurd rfl hne
  | keys h =>
    obtain ⟨least, hleast, hmin⟩ := h.least
    have hle := hlo least (List.min?_eq_some_iff.mp hleast).1
    have hminmax := h.laid.minKey_le
    have hnear := h.laid.minKey_near
    have hnear' := h.laid.maxKey_near
    rw [keyAtRank_eq h.laid fun _ => hkeeps.countAt_eq_zero]
    cases hindex : indexAtRank rank b.spread 0 0 with
    | none =>
      dsimp only
      omega
    | some index =>
      have hlt := indexAtRank_lt hindex
      rw [spread, List.length_map, List.length_range] at hlt
      have hofNat : (Int32.ofNat index).toInt = index := Int32.toInt_ofNat_of_lt (by omega)
      have hkey : (Int32.ofNat index + b.minKey).toInt = index + b.minKey.toInt := by
        rw [toInt_add (by omega) (by omega), hofNat]
      dsimp only
      omega

end Bins

/-! ## Zero and other quantiles -/

namespace Digest

/-- What counts of some durations, in order. -/
def ascending (durations : List Int64) : List Int := (durations.map nanoseconds).insertionSort (· ≤ ·)

variable {r : Resolution} {ns : List Int} {d : Digest}

/-- The estimate at a rank is zero up to the number of zeros, and positive beyond it. -/
theorem Takes.valueAtRank (hr : r.IsLegal) (h : Takes r ns d)
    (hkeeps : d.sketch.positive.Keeps (r.keys ns)) (hlen : ns.length < 2 ^ 64) {rank : UInt64}
    (hrank : rank.toNat < ns.length) :
    (rank.toNat < ns.countP (· ≤ 1) → d.sketch.valueAtRank rank = .zero) ∧
      (ns.countP (· ≤ 1) ≤ rank.toNat →
        Binary64.zero.lt (d.sketch.valueAtRank rank) = true) := by
  have hzeros : d.sketch.zeros.toNat = ns.countP (· ≤ 1) := by
    rw [h.zeros_eq, UInt64.toNat_ofNat_of_lt' (lt_of_le_of_lt List.countP_le_length hlen)]
  have hnegative : d.sketch.negative.total = 0 := by
    rw [h.negative_eq]
    rfl
  have hnot : ¬rank < 0 := by
    rw [UInt64.lt_iff_toNat_lt]
    exact Nat.not_lt_zero _
  have hbefore : rank < d.sketch.zeros ↔ rank.toNat < ns.countP (· ≤ 1) := by
    rw [UInt64.lt_iff_toNat_lt, hzeros]
  unfold Sketch.valueAtRank
  rw [hnegative, if_neg hnot, UInt64.add_zero]
  refine ⟨fun hlt => if_pos (hbefore.mpr hlt), fun hle => ?_⟩
  rw [if_neg (mt hbefore.mp (Nat.not_lt.mpr hle)), h.scale_eq]
  refine Resolution.zero_lt_value hr ?_
  -- There are durations beyond the zeros, so there are keys.
  have hsome : r.keys ns ≠ [] := by
    intro hnil
    have := r.length_keys_add ns
    rw [hnil, List.length_nil] at this
    omega
  refine h.positive.le_keyAtRank hkeeps hsome (fun key hkey => ?_) _
  obtain ⟨n, hn, rfl⟩ := List.mem_map.mp hkey
  obtain ⟨hn, hlong⟩ := List.mem_filter.mp hn
  exact (Resolution.key_range hr (of_decide_eq_true hlong) (h.durations n hn).2).1

/-- An inner quantile of some durations exists. It is zero if the duration at its rank is not more
than one nanosecond, and positive otherwise. -/
theorem inner_quantile_zero (accuracy : Binary64) (maxBins : Nat) (durations : List Int64)
    (hne : durations ≠ []) (hlen : durations.length < 2 ^ 64) (q : Binary64)
    (hpos : Binary64.zero.lt q = true) (hone : q.lt .one = true) :
    ∃ d n value, (empty (.ofSettings accuracy maxBins)).recordAll? durations = some d ∧
      (ascending durations)[(d.sketch.rank q).toNat]? = some n ∧
      d.quantile q = some value ∧
      (n ≤ 1 → value = .zero) ∧ (1 < n → Binary64.zero.lt value = true) := by
  have hr := Resolution.ofSettings_isLegal accuracy maxBins
  obtain ⟨d, hrecord, htakes, hkeeps⟩ := recordAll_empty_takes hr durations
  have hlength : (durations.map nanoseconds).length = durations.length := List.length_map _
  have hperm : (ascending durations).Perm (durations.map nanoseconds) := List.perm_insertionSort _ _
  have hsorted : (ascending durations).Pairwise (· ≤ ·) := List.pairwise_insertionSort _ _
  have hcount : d.sketch.count ≠ 0 := by
    rw [htakes.sketch_count, hlength]
    exact Bins.ofNat_ne_zero (mt List.eq_nil_of_length_eq_zero hne) hlen
  have hrank := d.sketch.rank_lt hpos hone hcount
  rw [htakes.sketch_count, hlength, UInt64.toNat_ofNat_of_lt' hlen] at hrank
  obtain ⟨n, hn⟩ : ∃ n, (ascending durations)[(d.sketch.rank q).toNat]? = some n :=
    ⟨_, List.getElem?_eq_getElem (by rwa [hperm.length_eq, hlength])⟩
  obtain ⟨hzero, hlong⟩ := htakes.valueAtRank hr hkeeps (hlength ▸ hlen) (hlength ▸ hrank)
  have hbound := le_iff_lt_countP hsorted hn 1
  rw [hperm.countP_eq] at hbound
  refine ⟨d, n, d.sketch.valueAtRank (d.sketch.rank q), hrecord, hn, ?_, ?_, ?_⟩
  · rw [quantile, Sketch.inner_quantile hpos hone, if_neg hcount]
  · exact fun hle => hzero (hbound.mp hle)
  · exact fun hlt => hlong (by omega)

set_option maxRecDepth 10000 in
/-- A duration of none, one of a nanosecond and one that is longer: the one in the middle counts as
none. -/
theorem inner_quantile_zero_median :
    let durations : List Int64 := [7, 1, -4]
    let half : Binary64 := .ofRatio false 1 2
    durations ≠ [] ∧ durations.length < 2 ^ 64 ∧ Binary64.zero.lt half = true ∧
      half.lt .one = true ∧
      ∃ d, (empty (.ofSettings Resolution.defaultAccuracy 2048)).recordAll? durations = some d ∧
        (ascending durations)[(d.sketch.rank half).toNat]? = some 1 ∧
        d.quantile half = some .zero := by
  intro durations half
  have hpos : Binary64.zero.lt half = true := by decide +kernel
  have hone : half.lt .one = true := by decide +kernel
  obtain ⟨d, n, value, hrecord, hn, hquantile, hzero, -⟩ :=
    inner_quantile_zero Resolution.defaultAccuracy 2048 durations (by decide) (by decide) half
      hpos hone
  have hrank : ((empty (.ofSettings Resolution.defaultAccuracy 2048)).recordAll? durations).map
      (fun d => (ascending durations)[(d.sketch.rank half).toNat]?) = some (some 1) := by
    decide +kernel
  rw [hrecord, Option.map_some, hn] at hrank
  obtain rfl : n = 1 := Option.some.inj (Option.some.inj hrank)
  obtain rfl : value = .zero := hzero le_rfl
  exact ⟨by decide, by decide, hpos, hone, d, hrecord, hn, hquantile⟩

set_option maxRecDepth 10000 in
/-- The only duration is one nanosecond, and the median is zero. -/
theorem quantile_one_nanosecond :
    let half : Binary64 := .ofRatio false 1 2
    (do
      let d ← (empty (.ofSettings Resolution.defaultAccuracy 2048)).recordAll? [1]
      some ((ascending [1])[(d.sketch.rank half).toNat]?, d.quantile half)) =
    some (some 1, some .zero) := by
  decide +kernel

end Digest

end SpanRollup
