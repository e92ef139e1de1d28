import SpanRollup.Proofs.Digest.Intact
import SpanRollup.Proofs.Sketch.Rank

/-!
# Digests that are accepted

A digest that is read is accepted by its resolution and by its count. Its quantiles exist then, but
whether it takes in durations and can be merged depends on its sketch, of which neither the scale
nor the bins are looked at.

- `Sketch.Estimates`: what a sketch may answer if its keys have bins.
- `received_safe`: what can be done with an accepted digest, and with one that is intact.
- `received_damaged`: an accepted digest that cannot take in a duration.
-/

namespace SpanRollup

/-! ## Quantiles -/

namespace Sketch

variable {s : Sketch} {limit : Nat}

/-- There is a quantile as soon as there are values, whatever the bins are like. -/
theorem quantile_eq_none_iff (s : Sketch) {q : Binary64} (hzero : Binary64.zero.le q = true)
    (hone : q.le .one = true) : s.quantile q = none ↔ s.count = 0 := by
  unfold quantile
  rw [Binary64.not_lt_of_le hzero, Binary64.not_lt_of_le hone, Bool.false_or, Bool.false_or]
  by_cases hcount : s.count = 0
  · rw [if_pos (decide_eq_true hcount)]
    exact iff_of_true rfl hcount
  · rw [if_neg (by simpa using hcount)]
    refine iff_of_false ?_ hcount
    split
    · nofun
    · split <;> nofun

/-- Zero, or the value of a key that has a bin. -/
inductive Estimates (s : Sketch) : Binary64 → Prop where
  | zero : Estimates s .zero
  | positive {key : Int32} :
    (s.positive.index? key).isSome = true → Estimates s (s.scale.value key)
  | negative {key : Int32} :
    (s.negative.index? key).isSome = true → Estimates s (s.scale.value key).neg

/-- Bins that are empty have no ranks, so that a key is only ever taken from bins with keys. -/
theorem Sound.estimates (h : s.Sound limit) {rank : UInt64} (hrank : rank < s.count) :
    s.Estimates (s.valueAtRank rank) := by
  unfold valueAtRank
  split
  · rename_i hnegative
    rcases h.2 with hempty | hlaid
    · rw [hempty, UInt64.lt_iff_toNat_lt] at hnegative
      exact absurd hnegative (Nat.not_lt_zero _)
    · exact .negative (hlaid.index?_keyAtRank _)
  split
  · exact .zero
  · rename_i hzeros
    rcases h.1 with hempty | hlaid
    · have hcount : s.count = s.zeros + s.negative.total := by
        rw [count, hempty]
        exact congrArg (· + s.negative.total) (UInt64.zero_add _)
      exact absurd (hcount ▸ hrank) hzeros
    · exact .positive (hlaid.index?_keyAtRank _)

theorem Sound.inner_quantile (h : s.Sound limit) {q value : Binary64}
    (hpos : Binary64.zero.lt q = true) (hone : q.lt .one = true)
    (hquantile : s.quantile q = some value) : s.Estimates value := by
  rw [Sketch.inner_quantile hpos hone] at hquantile
  split at hquantile
  · cases hquantile
  · rename_i hcount
    cases hquantile
    exact h.estimates (UInt64.lt_iff_toNat_lt.mpr (s.rank_lt hpos hone hcount))

end Sketch

/-! ## Digests -/

namespace Digest

theorem Takes.intact {r : Resolution} {ns : List Int} {d : Digest} (hr : r.IsLegal)
    (h : Takes r ns d) : d.Intact := by
  have hsound := h.sound
  rw [← h.resolution_eq] at hr hsound
  exact ⟨hr, by rw [h.scale_eq, h.resolution_eq], hsound⟩

/-- The quantiles of every digest that is accepted exist as soon as it counts anything. If its
sketch is on the scale of its resolution and has sound bins, then it takes in every duration, no
estimate leaves its bins, and it can be merged with each digest from here of the same resolution in
either direction. The outcome is intact, so all this holds of it again.

Counts are numbers modulo `2 ^ 64`, and nothing bounds those that are received: near the limit the
count, or that of a bin, starts over from zero when more is counted. A build that checks for
overflow stops there instead, so of such a build this holds as long as no count overflows. -/
theorem received_safe {input : List UInt8} {s : Digest} (hs : decode input = .ok s) :
    (∀ q : Binary64, Binary64.zero.le q = true → q.le .one = true →
        (s.quantile q = none ↔ s.count = 0)) ∧
      (s.sketch.scale = s.resolution.scale → s.sketch.Sound s.resolution.maxBins.toNat →
        (∀ duration, ∃ e, s.record? duration = some e ∧ e.Intact) ∧
        (∀ q value : Binary64, Binary64.zero.lt q = true → q.lt .one = true →
          s.quantile q = some value → s.sketch.Estimates value) ∧
        ∀ (accuracy : Binary64) (maxBins : Nat) (durations : List Int64) (t : Digest),
          (empty (.ofSettings accuracy maxBins)).recordAll? durations = some t →
          t.resolution.same s.resolution = true →
          (∃ m, s.merge t = .ok m ∧ m.Intact) ∧ ∃ m, t.merge s = .ok m ∧ m.Intact) := by
  obtain ⟨hlegal, hcount⟩ := decode_eq_ok hs
  refine ⟨fun q hzero hone => ?_, fun hscale hsound => ?_⟩
  · rw [quantile, s.sketch.quantile_eq_none_iff hzero hone, hcount]
  have hintact : s.Intact := ⟨hlegal, hscale, hsound⟩
  refine ⟨fun duration => ?_, fun q value hpos hone => hsound.inner_quantile hpos hone,
    fun accuracy maxBins durations t ht hsame => ?_⟩
  · obtain ⟨e, hrecord, -, he⟩ := hintact.record duration
    exact ⟨e, hrecord, he⟩
  · have hr := Resolution.ofSettings_isLegal accuracy maxBins
    obtain ⟨t', ht', htakes, -⟩ := recordAll_empty_takes hr durations
    obtain rfl : t' = t := Option.some.inj (ht'.symm.trans ht)
    have hother : t'.Intact := htakes.intact hr
    obtain ⟨m, hmerge, -, hm⟩ := hintact.merge_of_same hother (by rwa [Resolution.same_comm])
    obtain ⟨m', hmerge', -, hm'⟩ := hother.merge_of_same hintact hsame
    exact ⟨⟨m, hmerge, hm⟩, m', hmerge', hm'⟩

/-- A digest that was written by another one of its kind. -/
theorem received_safe_own :
    let r := Resolution.ofSettings Resolution.defaultAccuracy 2048
    ∃ input s, decode input = .ok s ∧ s.sketch.scale = s.resolution.scale ∧
      s.sketch.Sound s.resolution.maxBins.toNat ∧
      (∀ duration, ∃ e, s.record? duration = some e ∧ e.Intact) ∧
      ∃ t, (empty r).recordAll? [7] = some t ∧ t.resolution.same s.resolution = true ∧
        (∃ m, s.merge t = .ok m ∧ m.Intact) ∧ ∃ m, t.merge s = .ok m ∧ m.Intact := by
  intro r
  have hr : r.IsLegal := Resolution.ofSettings_isLegal _ _
  obtain ⟨s, -, hstakes, -⟩ := recordAll_empty_takes hr [5]
  obtain ⟨t, ht, htakes, -⟩ := recordAll_empty_takes hr [7]
  have hread : decode s.encode = .ok s := decode_encode (hstakes.formed hr)
  have hintact := hstakes.intact hr
  have hsame : t.resolution.same s.resolution = true := by
    rw [htakes.resolution_eq, hstakes.resolution_eq, Resolution.same_self hr]
  obtain ⟨hrecord, -, hmerge⟩ := (received_safe hread).2 hintact.scale_eq hintact.sound
  exact ⟨s.encode, s, hread, hintact.scale_eq, hintact.sound, hrecord, t, ht, hsame,
    hmerge _ _ _ t ht hsame⟩

set_option maxRecDepth 10000 in
/-- A digest that counts nothing is accepted with a range of keys for which it has no bins. It
cannot take in a duration whose key is in the range. -/
theorem received_damaged :
    let r := Resolution.ofSettings Resolution.defaultAccuracy 2048
    let bins := { Bins.empty 2048 with minKey := 0, maxKey := 1000 }
    let s := { empty r with sketch := { Sketch.empty r.scale with positive := bins } }
    decode s.encode = .ok s ∧ s.record? 5 = none := by
  intro r bins s
  have hempty := Sketch.counts_empty r.scale
  have hcounts : s.sketch.Counts s.count :=
    ⟨⟨by decide +kernel, Nat.zero_le _, rfl⟩, hempty.negative, by decide +kernel⟩
  exact ⟨decode_encode ⟨Resolution.ofSettings_isLegal _ _, hcounts⟩, by decide +kernel⟩

end Digest

end SpanRollup
