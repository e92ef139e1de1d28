import SpanRollup.Digest.Basic
import SpanRollup.Proofs.Number.Order
import SpanRollup.Proofs.Sketch.Room
import SpanRollup.Series.Cell

/-!
# Digests that are formed here

A resolution is legal if it is what comes of its own settings, as that of any settings is. A digest
is formed if its resolution is legal and it counts what its sketch counts, within the limit of its
bins. All that an empty digest takes in, and all that is merged of such digests, is formed.
-/

namespace SpanRollup

/-! ## Resolutions -/

namespace Resolution

theorem accuracies_ascend : Binary64.zero.lt minAccuracy = true ∧
    minAccuracy.lt defaultAccuracy = true ∧ defaultAccuracy.lt .one = true := by decide +kernel

theorem minAccuracy_pos : Binary64.zero.lt minAccuracy = true := accuracies_ascend.1

theorem minAccuracy_lt_default : minAccuracy.lt defaultAccuracy = true := accuracies_ascend.2.1

theorem defaultAccuracy_lt_one : defaultAccuracy.lt .one = true := accuracies_ascend.2.2

theorem minAccuracy_lt_one : minAccuracy.lt .one = true :=
  Binary64.lt_trans minAccuracy_lt_default defaultAccuracy_lt_one

theorem defaultAccuracy_pos : Binary64.zero.lt defaultAccuracy = true :=
  Binary64.lt_trans minAccuracy_pos minAccuracy_lt_default

/-- A legal resolution comes of its own settings, and its accuracy is a number. -/
structure IsLegal (r : Resolution) : Prop where
  ofSettings_eq : ofSettings r.accuracy r.maxBins.toNat = r
  accuracy_same : r.accuracy.same r.accuracy = true

theorem accuracy_ofSettings (a : Binary64) (n : Nat) :
    let b := (ofSettings a n).accuracy
    Binary64.zero.lt b = true ∧ b.lt .one = true ∧ b.lt minAccuracy = false := by
  unfold ofSettings
  dsimp only
  split
  · rename_i h
    rw [Bool.and_eq_true] at h
    split
    · exact ⟨minAccuracy_pos, minAccuracy_lt_one, Binary64.lt_irrefl _⟩
    · rename_i hmin
      exact ⟨h.1, h.2, Bool.eq_false_iff.mpr hmin⟩
  · exact ⟨defaultAccuracy_pos, defaultAccuracy_lt_one,
      Binary64.not_lt_of_lt minAccuracy_lt_default⟩

theorem toNat_maxBins_ofSettings (a : Binary64) (n : Nat) :
    (ofSettings a n).maxBins.toNat = min (2 ^ 32 - 1) (max 1 n) := by
  unfold ofSettings
  dsimp only
  rw [UInt32.toNat_ofNat']
  omega

theorem ofSettings_isLegal (a : Binary64) (n : Nat) : (ofSettings a n).IsLegal := by
  obtain ⟨hpos, hone, hmin⟩ := accuracy_ofSettings a n
  have hbins := toNat_maxBins_ofSettings a n
  generalize ofSettings a n = r at *
  refine ⟨?_, Binary64.same_self (Binary64.isNaN_of_lt hone).1⟩
  obtain ⟨accuracy, maxBins⟩ := r
  dsimp only at *
  have hround : UInt32.ofNat (min (2 ^ 32 - 1) (max 1 maxBins.toNat)) = maxBins := by
    rw [← UInt32.toNat_inj, UInt32.toNat_ofNat']
    omega
  unfold ofSettings
  rw [hround, if_pos (by rw [hpos, hone]; rfl), if_neg (by rw [hmin]; decide)]

end Resolution

/-! ## Sketches -/

namespace Sketch

/-- Both kinds of bins keep to the limit of the scale, and `n` values are counted. -/
structure Counts (n : UInt64) (s : Sketch) : Prop where
  positive : s.positive.Within s.scale.maxBins.toNat s.positive.total
  negative : s.negative.Within s.scale.maxBins.toNat s.negative.total
  count_eq : s.count = n

theorem counts_empty (scale : Scale) : (empty scale).Counts 0 :=
  ⟨Bins.within_empty _, Bins.within_empty _, rfl⟩

theorem add_counts {s t : Sketch} {n : UInt64} {v : Binary64} (h : s.Counts n)
    (he : s.add v = some t) : t.Counts (n + 1) := by
  have hcount := h.count_eq
  unfold count at hcount
  unfold add at he
  split at he
  · simp only [Option.bind_eq_bind, Option.bind_eq_some_iff] at he
    obtain ⟨positive, hp, _, hset, he⟩ := he
    cases hset; cases he
    have hp := Bins.add_within h.positive hp
    refine ⟨hp.total_eq ▸ hp, h.negative, ?_⟩
    simp only [count, hp.total_eq, ← hcount]
    ac_rfl
  · split at he
    · simp only [Option.bind_eq_bind, Option.bind_eq_some_iff] at he
      obtain ⟨negative, hn, _, hset, he⟩ := he
      cases hset; cases he
      have hn := Bins.add_within h.negative hn
      refine ⟨h.positive, hn.total_eq ▸ hn, ?_⟩
      simp only [count, hn.total_eq, ← hcount]
      ac_rfl
    · cases he
      refine ⟨h.positive, h.negative, ?_⟩
      simp only [count, ← hcount]
      ac_rfl

theorem maxBins_eq_of_same {r s : Scale} (h : r.same s = true) : r.maxBins = s.maxBins := by
  simp only [Scale.same, Bool.and_eq_true, decide_eq_true_eq] at h
  exact h.1.1.1.1

theorem merge_counts {s other t : Sketch} {n m : UInt64} (h : s.Counts n) (ho : other.Counts m)
    (he : s.merge other = .ok t) : t.Counts (n + m) := by
  unfold merge at he
  split at he
  · cases he
  · rename_i hs
    have hbins := maxBins_eq_of_same (by simpa using hs)
    split at he
    · rename_i positive negative hp hn
      cases he
      have hp := Bins.merge_within h.positive (hbins ▸ ho.positive) hp
      have hn := Bins.merge_within h.negative (hbins ▸ ho.negative) hn
      refine ⟨hp.total_eq ▸ hp, hn.total_eq ▸ hn, ?_⟩
      simp only [count, hp.total_eq, hn.total_eq, ← h.count_eq, ← ho.count_eq]
      ac_rfl
    · cases he

end Sketch

/-! ## Digests -/

namespace Digest

structure Formed (d : Digest) : Prop where
  legal : d.resolution.IsLegal
  counts : d.sketch.Counts d.count

theorem formed_empty {r : Resolution} (h : r.IsLegal) : (empty r).Formed :=
  ⟨h, Sketch.counts_empty r.scale⟩

theorem record_formed {d : Digest} (h : d.Formed) (duration : Int64) :
    (d.record duration).Formed := by
  unfold record
  cases he : d.record? duration with
  | none => exact h
  | some e =>
    unfold record? at he
    simp only [Option.bind_eq_bind, Option.bind_eq_some_iff] at he
    obtain ⟨sketch, hs, he⟩ := he
    cases he
    exact ⟨h.legal, Sketch.add_counts h.counts hs⟩

theorem merge_formed {d other e : Digest} (h : d.Formed) (ho : other.Formed)
    (he : d.merge other = .ok e) : e.Formed := by
  unfold merge at he
  split at he
  · cases he
  split at he
  · cases he; exact h
  split at he
  · rename_i sketch hs
    cases he
    exact ⟨h.legal, Sketch.merge_counts h.counts ho.counts hs⟩
  · cases he
  · cases he

end Digest

/-! ## Cells -/

namespace Cell

/-- What an empty cell of a legal resolution becomes by observations and by merging. -/
inductive Reached : Cell → Prop where
  | empty (accuracy : Binary64) (maxBins : Nat) :
    Reached (.empty (.ofSettings accuracy maxBins))
  | record {c : Cell} (o : Observation) : Reached c → Reached (c.record o)
  | merge {c other merged : Cell} :
    Reached c → Reached other → c.merge other = .ok merged → Reached merged

theorem Reached.formed {c : Cell} (h : c.Reached) : c.ok.Formed ∧ c.failed.Formed := by
  induction h with
  | empty accuracy maxBins =>
    have := Resolution.ofSettings_isLegal accuracy maxBins
    exact ⟨Digest.formed_empty this, Digest.formed_empty this⟩
  | record o _ ih =>
    unfold Cell.record
    dsimp only
    split
    · exact ⟨ih.1, Digest.record_formed ih.2 _⟩
    · exact ⟨Digest.record_formed ih.1 _, ih.2⟩
  | @merge c other merged _ _ he ih iho =>
    unfold Cell.merge at he
    cases hok : c.ok.merge other.ok with
    | error e => rw [hok] at he; cases he
    | ok ok =>
      cases hfailed : c.failed.merge other.failed with
      | error e => rw [hok, hfailed] at he; cases he
      | ok failed =>
        rw [hok, hfailed] at he
        cases he
        exact ⟨Digest.merge_formed ih.1 iho.1 hok, Digest.merge_formed ih.2 iho.2 hfailed⟩

end Cell

end SpanRollup
