import Mathlib
import SpanRollup.Proofs.Digest.Taken

/-!
# Merged digests and digests that took everything

Main statement: `merge_recordAll`. To merge two digests and to take in all durations by one makes
no difference to the count and to the sum, nor to the counts of bins above the lowest one. It makes
none to the inner quantiles either, as long as the merge itself folds no bins of the other digest.
-/

namespace SpanRollup

/-! ## Bins above the lowest one -/

namespace Bins

/-- The bins have the same range and count as many keys, each above the lowest one as often. -/
structure AgreesAbove (b c : Bins) : Prop where
  minKey_eq : b.minKey = c.minKey
  maxKey_eq : b.maxKey = c.maxKey
  total_eq : b.total = c.total
  countAt_eq : ∀ key, b.minKey.toInt < key → b.countAt key = c.countAt key

theorem agreesAbove {limit : Nat} {ks : List Int} {b c : Bins} (hb : Ranges limit ks b)
    (hc : Ranges limit ks c) (hkb : b.KeepsAbove ks) (hkc : c.Keeps ks) : b.AgreesAbove c := by
  have htotal : b.total = c.total := hb.total_eq.trans hc.total_eq.symm
  cases hb with
  | empty =>
    cases hc with
    | empty => exact ⟨rfl, rfl, rfl, fun _ _ => rfl⟩
    | keys hc => exact absurd rfl hc.ne_nil
  | keys hb =>
    cases hc with
    | empty => exact absurd rfl hb.ne_nil
    | keys hc =>
      obtain ⟨hmin, hmax⟩ := hb.ends_eq hc
      refine ⟨hmin, hmax, htotal, fun key hkey => ?_⟩
      rw [hkb key hkey, hkc.countAt_eq, hmin]

end Bins

/-! ## Digests -/

namespace Digest

/-- Takes in durations one by one. -/
def recordAll? (d : Digest) (durations : List Int64) : Option Digest :=
  durations.foldlM record? d

variable {r : Resolution}

theorem recordAll_takes (hr : r.IsLegal) (durations : List Int64) {ns : List Int} {d : Digest}
    (h : Takes r ns d) (hkeeps : d.sketch.positive.Keeps (r.keys ns)) :
    ∃ e, d.recordAll? durations = some e ∧ Takes r (ns ++ durations.map nanoseconds) e ∧
      e.sketch.positive.Keeps (r.keys (ns ++ durations.map nanoseconds)) := by
  induction durations generalizing ns d with
  | nil =>
    rw [List.map_nil, List.append_nil]
    exact ⟨d, rfl, h, hkeeps⟩
  | cons duration durations ih =>
    obtain ⟨next, hrecord, htakes, hnext, -, -⟩ := record_takes hr h duration
    obtain ⟨e, hall, he⟩ := ih htakes (hnext hkeeps)
    rw [List.append_assoc, List.singleton_append] at he
    refine ⟨e, ?_, he⟩
    rw [recordAll?, List.foldlM_cons, hrecord]
    exact hall

/-- A digest of all durations exists, whatever they are. -/
theorem recordAll_empty_takes (hr : r.IsLegal) (durations : List Int64) :
    ∃ e, (empty r).recordAll? durations = some e ∧ Takes r (durations.map nanoseconds) e ∧
      e.sketch.positive.Keeps (r.keys (durations.map nanoseconds)) :=
  recordAll_takes hr durations (takes_empty r) (Bins.keeps_empty _)

/-- A merged digest and the one that took in all durations by itself. The condition of the last
part fails only if a long duration of the first digest is greater than all of the second, and some
of the second lie so far below it that there are no bins for them. -/
theorem merge_recordAll (accuracy : Binary64) (maxBins : Nat) (xs ys : List Int64)
    (hlen : xs.length + ys.length < 2 ^ 64) :
    let r := Resolution.ofSettings accuracy maxBins
    ∃ first second whole merged,
      (empty r).recordAll? xs = some first ∧ (empty r).recordAll? ys = some second ∧
      (empty r).recordAll? (xs ++ ys) = some whole ∧ first.merge second = .ok merged ∧
      merged.count = whole.count ∧ merged.sum = whole.sum ∧
      merged.sketch.zeros = whole.sketch.zeros ∧ merged.sketch.negative = whole.sketch.negative ∧
      merged.sketch.positive.AgreesAbove whole.sketch.positive ∧
      (Bins.Clear r.maxBins.toNat (r.keys (xs.map nanoseconds)) (r.keys (ys.map nanoseconds)) →
        ∀ q : Binary64, Binary64.zero.lt q = true → q.lt .one = true →
          merged.quantile q = whole.quantile q) := by
  intro r
  have hr : r.IsLegal := Resolution.ofSettings_isLegal accuracy maxBins
  obtain ⟨first, hfirst, hxs, hkeeps⟩ := recordAll_empty_takes hr xs
  obtain ⟨second, hsecond, hys, hkeeps'⟩ := recordAll_empty_takes hr ys
  obtain ⟨whole, hwhole, hall, hkeepsAll⟩ := recordAll_empty_takes hr (xs ++ ys)
  obtain ⟨merged, hmerge, hmerged, hkept, -⟩ :=
    merge_takes hr hxs hys (by rw [List.length_map]; omega) (by rw [List.length_map]; omega)
  obtain ⟨habove, hclear⟩ := hkept hkeeps hkeeps'
  rw [List.map_append] at hall hkeepsAll
  refine ⟨first, second, whole, merged, hfirst, hsecond, hwhole, hmerge, ?_, ?_, ?_, ?_, ?_, ?_⟩
  · rw [hmerged.count_eq, hall.count_eq]
  · rw [hmerged.sum_eq, hall.sum_eq]
  · rw [hmerged.zeros_eq, hall.zeros_eq]
  · rw [hmerged.negative_eq, hall.negative_eq]
  · exact Bins.agreesAbove hmerged.positive hall.positive habove hkeepsAll
  · intro h q hpos hone
    exact (hmerged.sameCounts hall (hclear h) hkeepsAll).inner_quantile_eq hpos hone

/-- One long duration and two that have bins of their own below it. -/
theorem merge_recordAll_near :
    let r := Resolution.ofSettings Resolution.defaultAccuracy 2048
    Bins.Clear r.maxBins.toNat (r.keys ([1000].map nanoseconds))
        (r.keys ([2, 2].map nanoseconds)) ∧
      ∃ whole merged, (empty r).recordAll? [1000, 2, 2] = some whole ∧
        (∃ first second, (empty r).recordAll? [1000] = some first ∧
          (empty r).recordAll? [2, 2] = some second ∧ first.merge second = .ok merged) ∧
        ∀ q : Binary64, Binary64.zero.lt q = true → q.lt .one = true →
          merged.quantile q = whole.quantile q := by
  intro r
  have hclear : Bins.Clear r.maxBins.toNat (r.keys ([1000].map nanoseconds))
      (r.keys ([2, 2].map nanoseconds)) := by
    unfold Bins.Clear
    decide +kernel
  obtain ⟨first, second, whole, merged, hfirst, hsecond, hwhole, hmerge, -, -, -, -, -, hq⟩ :=
    merge_recordAll Resolution.defaultAccuracy 2048 [1000] [2, 2] (by decide)
  exact ⟨hclear, whole, merged, hwhole, ⟨first, second, hfirst, hsecond, hmerge⟩, hq hclear⟩

set_option maxRecDepth 10000 in
/-- The same durations with room for two bins only: the merge puts the long one into the lowest bin
once more, and forgets that the two others fell into it. -/
theorem quantile_merge_folded :
    let r := Resolution.ofSettings Resolution.defaultAccuracy 2
    let half : Binary64 := .ofRatio false 1 2
    (do
      let first ← (empty r).recordAll? [1000]
      let second ← (empty r).recordAll? [2, 2]
      let merged ← (first.merge second).toOption
      merged.quantile half) ≠
    (do
      let whole ← (empty r).recordAll? [1000, 2, 2]
      whole.quantile half) := by
  decide +kernel

end Digest

end SpanRollup
