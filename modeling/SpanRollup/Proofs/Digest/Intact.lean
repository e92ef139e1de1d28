import SpanRollup.Proofs.Digest.Received

/-!
# Digests that stay intact

A digest is intact if its sketch is on the scale of its resolution, which is legal, and has sound
bins. What comes about by the operations is intact, however much it counts, so that it can take in
every duration, and a merge fails for no other reason than that the two are incompatible.

- `Reached.intact`: what comes about by the operations is intact.
- `Intact.merge_of_same`: intact digests of the same resolution are compatible.
-/

namespace SpanRollup

theorem Resolution.maxBins_eq_of_same {r s : Resolution} (h : r.same s = true) :
    r.maxBins = s.maxBins := by
  simp only [same, Bool.and_eq_true, decide_eq_true_eq] at h
  exact h.2

/-! ## Resolutions that are the same -/

theorem Resolution.IsLegal.eq_of_same {r s : Resolution} (hr : r.IsLegal) (h : r.same s = true) :
    r = s := by
  have hpos := (hr.ofSettings_eq ▸ accuracy_ofSettings r.accuracy r.maxBins.toNat).1
  have hbins := maxBins_eq_of_same h
  rw [same, Bool.and_eq_true] at h
  obtain ⟨accuracy, maxBins⟩ := r
  obtain ⟨accuracy', maxBins'⟩ := s
  obtain rfl : maxBins = maxBins' := hbins
  obtain rfl : accuracy = accuracy' := Binary64.eq_of_same hpos h.1
  rfl

/-! ## Intact digests -/

namespace Digest

structure Intact (d : Digest) : Prop where
  legal : d.resolution.IsLegal
  scale_eq : d.sketch.scale = d.resolution.scale
  sound : d.sketch.Sound d.resolution.maxBins.toNat

variable {d other : Digest}

theorem intact_empty {r : Resolution} (hr : r.IsLegal) : (empty r).Intact :=
  ⟨hr, rfl, .inl rfl, .inl rfl⟩

theorem Intact.add_sketch (h : d.Intact) {n : Int} (hn : IsDuration n) :
    ∃ t, d.sketch.add (.ofInt n) = some t ∧ t.scale = d.sketch.scale ∧
      t.Sound d.resolution.maxBins.toNat := by
  have hscale : d.sketch.scale.minValue = .one := by
    rw [h.scale_eq, Resolution.minValue_scale]
  rw [Sketch.add_ofInt hscale hn, h.scale_eq]
  by_cases hlong : 1 < n
  · obtain ⟨hlow, hhigh⟩ := Resolution.key_range h.legal hlong hn.2
    obtain ⟨positive, hadd, hadds⟩ :=
      h.sound.1.add (Resolution.maxBins_pos h.legal) (d.resolution.scale.key (.ofInt n)) (by omega)
    rw [if_pos hlong, hadd]
    exact ⟨_, rfl, rfl, .inr hadds.laid, h.sound.2⟩
  · rw [if_neg hlong]
    exact ⟨_, rfl, rfl, h.sound⟩

theorem Intact.record (h : d.Intact) (duration : Int64) :
    ∃ e, d.record? duration = some e ∧ e.resolution = d.resolution ∧ e.Intact := by
  obtain ⟨t, hadd, hscale, hsound⟩ := h.add_sketch (isDuration_nanoseconds duration)
  unfold record?
  change ∃ e, (d.sketch.add (.ofInt (nanoseconds duration)) >>= _) = some e ∧ _
  rw [hadd]
  exact ⟨_, rfl, rfl, h.legal, hscale.trans h.scale_eq, hsound⟩

theorem Intact.merge (h : d.Intact) (ho : other.Intact) :
    d.merge other = .error .incompatible ∨
      ∃ e, d.merge other = .ok e ∧ e.resolution = d.resolution ∧ e.Intact := by
  unfold Digest.merge
  cases hsame : d.resolution.same other.resolution with
  | false => exact .inl rfl
  | true =>
    rw [Bool.not_true, if_neg Bool.false_ne_true]
    by_cases hcount : other.count = 0
    · rw [if_pos hcount]
      exact .inr ⟨d, rfl, rfl, h⟩
    rw [if_neg hcount]
    cases hscale : d.sketch.scale.same other.sketch.scale with
    | false =>
      rw [(Sketch.merge_eq_differentScales_iff _ _).mpr hscale]
      exact .inl rfl
    | true =>
      have hother := ho.sound
      rw [← Resolution.maxBins_eq_of_same hsame] at hother
      obtain ⟨m, hmerge, hscale', hsound⟩ := h.sound.merge hother hscale
      rw [hmerge]
      exact .inr ⟨_, rfl, rfl, h.legal, hscale'.trans h.scale_eq, hsound⟩

theorem merge_of_not_same (h : d.resolution.same other.resolution = false) :
    d.merge other = .error .incompatible := by
  rw [Digest.merge, h]
  rfl

/-- The scale follows from the resolution, so it cannot stand in the way. -/
theorem Intact.merge_of_same (h : d.Intact) (ho : other.Intact)
    (hsame : d.resolution.same other.resolution = true) :
    ∃ e, d.merge other = .ok e ∧ e.resolution = d.resolution ∧ e.Intact := by
  rcases h.merge ho with hmerge | hmerge
  · rw [merge_eq_incompatible_iff hsame, h.scale_eq, ho.scale_eq, ← h.legal.eq_of_same hsame,
      Resolution.scale_same h.legal] at hmerge
    cases hmerge.2
  · exact hmerge

theorem Reached.intact (h : d.Reached) : d.Intact := by
  induction h with
  | empty accuracy maxBins => exact intact_empty (Resolution.ofSettings_isLegal accuracy maxBins)
  | record duration _ ih =>
    obtain ⟨e, hrecord, -, he⟩ := ih.record duration
    rw [Digest.record, hrecord]
    exact he
  | merge _ _ ih iho =>
    rcases ih.merge iho with hmerge | ⟨e, hmerge, -, he⟩
    · rw [hmerge]
      exact ih
    · rw [hmerge]
      exact he
  | reread hd hread ih =>
    rw [decode_encode hd.formed] at hread
    cases hread
    exact ih

end Digest

end SpanRollup
