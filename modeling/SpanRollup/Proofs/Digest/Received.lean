import Mathlib
import SpanRollup.Proofs.Digest.Merging
import SpanRollup.Proofs.Digest.ReadBack

/-!
# Digests that are received

Digests that come about by the operations read back as they were written. A digest from elsewhere
is accepted if its resolution is legal and its count is that of its sketch. Whether the sketch is on
the scale of the resolution is not looked at, so a merge may find the two incompatible.

- `Digest.Reached`: what comes about by the operations.
- `Reached.reads_back`: it is read as it was written.
- `decode_eq_ok`: what is known of a digest that has been read.
- `merge_received`: when such a digest can be merged.
-/

namespace SpanRollup

namespace Digest

/-! ## Digests from here -/

/-- What becomes of empty digests by durations, by merges, which change nothing if they fail, and
by being written and read. -/
inductive Reached : Digest → Prop where
  | empty (accuracy : Binary64) (maxBins : Nat) : Reached (.empty (.ofSettings accuracy maxBins))
  | record {d : Digest} (duration : Int64) : Reached d → Reached (d.record duration)
  | merge {d other : Digest} : Reached d → Reached other →
    Reached ((d.merge other).toOption.getD d)
  | reread {d e : Digest} : Reached d → decode d.encode = .ok e → Reached e

theorem Reached.formed {d : Digest} (h : d.Reached) : d.Formed := by
  induction h with
  | empty accuracy maxBins => exact formed_empty (Resolution.ofSettings_isLegal accuracy maxBins)
  | record duration _ ih => exact record_formed ih duration
  | @merge d other _ _ ih iho =>
    cases hmerge : d.merge other with
    | ok e => exact merge_formed ih iho hmerge
    | error _ => exact ih
  | reread _ hread ih =>
    rw [decode_encode ih] at hread
    cases hread
    exact ih

/-- What is written of a digest is read as the same digest, in every field. -/
theorem Reached.reads_back {d : Digest} (h : d.Reached) : decode d.encode = .ok d :=
  decode_encode h.formed

set_option maxRecDepth 10000 in
/-- Durations, a merge that fails, and one that does not. -/
theorem reads_back_merged :
    let r := Resolution.ofSettings Resolution.defaultAccuracy 2048
    let coarse := Resolution.ofSettings (.ofRatio false 1 50) 2048
    let d := (empty r).record 5
    let same := (d.merge ((empty coarse).record 7)).toOption.getD d
    let both := (same.merge ((empty r).record (-3))).toOption.getD same
    both.Reached ∧ both.count = 2 ∧ decode both.encode = .ok both := by
  intro r coarse d same both
  have hd : d.Reached := .record 5 (.empty _ _)
  have hsame : same.Reached := .merge hd (.record 7 (.empty _ _))
  have hboth : both.Reached := .merge hsame (.record (-3) (.empty _ _))
  exact ⟨hboth, by decide +kernel, hboth.reads_back⟩

/-! ## Digests from elsewhere -/

theorem ofEnvelope_eq_ok {envelope : Envelope} {s : Digest} (h : ofEnvelope envelope = .ok s) :
    s.resolution.IsLegal ∧ s.count = s.sketch.count := by
  unfold ofEnvelope at h
  dsimp only at h
  split at h
  · cases h
  split at h
  · cases h
  · rename_i hcount
    cases h
    exact ⟨Resolution.ofSettings_isLegal _ _, (not_not.mp hcount).symm⟩

/-- What is looked at when a digest is read. -/
theorem decode_eq_ok {input : List UInt8} {s : Digest} (h : decode input = .ok s) :
    s.resolution.IsLegal ∧ s.count = s.sketch.count := by
  unfold decode at h
  obtain ⟨_, _, h⟩ := bind_eq_ok h
  dsimp only at h
  split at h
  · cases h
  obtain ⟨_, _, h⟩ := bind_eq_ok h
  split at h
  · cases h
  obtain ⟨⟨envelope, _⟩, _, h⟩ := bind_eq_ok h
  exact ofEnvelope_eq_ok (mapError_eq_ok h)

end Digest

/-! ## Compatible sketches -/

namespace Sketch

theorem Sound.merge {limit : Nat} {s t : Sketch} (hs : s.Sound limit) (ht : t.Sound limit)
    (hscale : s.scale.same t.scale = true) :
    ∃ m, s.merge t = .ok m ∧ m.scale = s.scale ∧ m.Sound limit := by
  obtain ⟨positive, hp, hsound⟩ := hs.1.merge ht.1
  obtain ⟨negative, hn, hsound'⟩ := hs.2.merge ht.2
  obtain ⟨m, hmerge, hscale', rfl, rfl, -⟩ := merge_eq_ok hscale hp hn
  exact ⟨m, hmerge, hscale', hsound, hsound'⟩

theorem merge_eq_differentScales_iff (s t : Sketch) :
    s.merge t = .error .differentScales ↔ s.scale.same t.scale = false := by
  unfold merge
  cases s.scale.same t.scale with
  | false => exact iff_of_true rfl rfl
  | true =>
    refine iff_of_false ?_ (by decide)
    rw [Bool.not_true, if_neg (by decide)]
    split <;> nofun

end Sketch

theorem Scale.same_comm (s t : Scale) : s.same t = t.same s := by
  unfold same
  rw [Binary64.same_comm s.gamma, Binary64.same_comm s.lnGamma, Binary64.same_comm s.minValue,
    decide_eq_decide.mpr (eq_comm (a := s.maxBins)), decide_eq_decide.mpr (eq_comm (a := s.offset))]

theorem Resolution.same_comm (r s : Resolution) : r.same s = s.same r := by
  unfold same
  rw [Binary64.same_comm, decide_eq_decide.mpr (eq_comm (a := r.maxBins))]

/-! ## Merging what is received -/

namespace Digest

variable {d other : Digest}

/-- When digests of the same resolution are found incompatible. -/
theorem merge_eq_incompatible_iff (h : d.resolution.same other.resolution = true) :
    d.merge other = .error .incompatible ↔
      other.count ≠ 0 ∧ d.sketch.scale.same other.sketch.scale = false := by
  unfold merge
  rw [h, Bool.not_true, if_neg (by decide), ← Sketch.merge_eq_differentScales_iff]
  by_cases hcount : other.count = 0
  · rw [if_pos hcount]
    exact iff_of_false nofun fun h => h.1 hcount
  · rw [if_neg hcount, and_iff_right hcount]
    cases hmerge : d.sketch.merge other.sketch with
    | ok sketch => exact iff_of_false nofun nofun
    | error e =>
      cases e with
      | differentScales => exact iff_of_true rfl rfl
      | damaged => exact iff_of_false nofun nofun

theorem merge_sound {limit : Nat} (h : d.resolution.same other.resolution = true)
    (hscale : d.sketch.scale.same other.sketch.scale = true) (hd : d.sketch.Sound limit)
    (ho : other.sketch.Sound limit) : ∃ m, d.merge other = .ok m := by
  obtain ⟨sketch, hmerge, -⟩ := hd.merge ho hscale
  unfold merge
  rw [h, Bool.not_true, if_neg (by decide)]
  split
  · exact ⟨d, rfl⟩
  · rw [hmerge]
    exact ⟨_, rfl⟩

/-- When a digest that has been read can be merged with one from here: its sketch has to be on the
same scale and sound, of which reading makes sure of neither. -/
theorem merge_received {input : List UInt8} {s t : Digest} (hs : decode input = .ok s)
    {accuracy : Binary64} {maxBins : Nat} {durations : List Int64}
    (ht : (empty (.ofSettings accuracy maxBins)).recordAll? durations = some t)
    (hsame : t.resolution.same s.resolution = true) :
    (t.merge s = .error .incompatible ↔
        s.sketch.count ≠ 0 ∧ t.sketch.scale.same s.sketch.scale = false) ∧
      (s.merge t = .error .incompatible ↔
        t.count ≠ 0 ∧ t.sketch.scale.same s.sketch.scale = false) ∧
      (t.sketch.scale.same s.sketch.scale = true → s.sketch.Sound t.resolution.maxBins.toNat →
        (∃ m, t.merge s = .ok m) ∧ ∃ m, s.merge t = .ok m) := by
  obtain ⟨e, he, htakes, -⟩ :=
    recordAll_empty_takes (Resolution.ofSettings_isLegal accuracy maxBins) durations
  obtain rfl : e = t := Option.some.inj (he.symm.trans ht)
  have hsame' : s.resolution.same e.resolution = true := by rwa [Resolution.same_comm]
  refine ⟨?_, ?_, fun hscale hsound => ?_⟩
  · rw [merge_eq_incompatible_iff hsame, (decode_eq_ok hs).2]
  · rw [merge_eq_incompatible_iff hsame', Scale.same_comm]
  · have hsound' := htakes.sound
    rw [← htakes.resolution_eq] at hsound'
    exact ⟨merge_sound hsame hscale hsound' hsound,
      merge_sound hsame' (by rwa [Scale.same_comm]) hsound hsound'⟩

/-- A digest that was written by another one of its kind. -/
theorem merge_received_own :
    let r := Resolution.ofSettings Resolution.defaultAccuracy 2048
    ∃ input s t, decode input = .ok s ∧ (empty r).recordAll? [7] = some t ∧
      t.resolution.same s.resolution = true ∧ t.sketch.scale.same s.sketch.scale = true ∧
      s.sketch.Sound t.resolution.maxBins.toNat ∧
      (∃ m, t.merge s = .ok m) ∧ ∃ m, s.merge t = .ok m := by
  intro r
  have hr : r.IsLegal := Resolution.ofSettings_isLegal _ _
  obtain ⟨t, ht, htakes, -⟩ := recordAll_empty_takes hr [7]
  obtain ⟨s, -, hstakes, -⟩ := recordAll_empty_takes hr [5]
  have hread : decode s.encode = .ok s := decode_encode (hstakes.formed hr)
  have hsame : t.resolution.same s.resolution = true := by
    rw [htakes.resolution_eq, hstakes.resolution_eq, Resolution.same_self hr]
  have hscale : t.sketch.scale.same s.sketch.scale = true := by
    rw [htakes.scale_eq, hstakes.scale_eq, Resolution.scale_same hr]
  have hsound := hstakes.sound
  rw [← htakes.resolution_eq] at hsound
  exact ⟨s.encode, s, t, hread, ht, hsame, hscale, hsound,
    (merge_received hread ht hsame).2.2 hscale hsound⟩

/-- A digest of one resolution with the sketch of another is accepted. -/
theorem decode_encode_sketch (hd : d.Formed) (ho : other.Formed) (hcount : d.count = other.count) :
    decode { d with sketch := other.sketch }.encode = .ok { d with sketch := other.sketch } :=
  decode_encode ⟨hd.legal, by rw [hcount]; exact ho.counts⟩

set_option maxRecDepth 10000 in
/-- Such a digest says that it has the resolution of those that it cannot be merged with. -/
theorem merge_received_foreign :
    let fine := Resolution.ofSettings Resolution.defaultAccuracy 2048
    let coarse := Resolution.ofSettings (.ofRatio false 1 50) 2048
    let s := { (empty fine).record 1 with sketch := ((empty coarse).record 1).sketch }
    let t := (empty fine).record 1
    decode s.encode = .ok s ∧ (empty fine).recordAll? [1] = some t ∧
      t.resolution = s.resolution ∧
      t.merge s = .error .incompatible ∧ s.merge t = .error .incompatible := by
  intro fine coarse s t
  have hread : decode s.encode = .ok s :=
    decode_encode_sketch (record_formed (formed_empty (Resolution.ofSettings_isLegal _ _)) 1)
      (record_formed (formed_empty (Resolution.ofSettings_isLegal _ _)) 1) (by decide +kernel)
  have hrest : (empty fine).recordAll? [1] = some t ∧ t.resolution = s.resolution ∧
      t.merge s = .error .incompatible ∧ s.merge t = .error .incompatible := by
    decide +kernel
  exact ⟨hread, hrest⟩

end Digest

end SpanRollup
