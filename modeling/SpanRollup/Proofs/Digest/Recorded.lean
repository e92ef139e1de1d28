import SpanRollup.Proofs.Digest.History

/-!
# Digests that have recorded their durations

A digest into which nothing was merged answers alike whatever the order in which its durations
came: its bins may lie elsewhere, but they count the same within the same range.

- `Digest.Recorded`: a digest has recorded some durations.
- `Recorded.perm`: it has recorded them in any other order, too.
- `Recorded.alike`: two such digests give the same answers.
-/

namespace SpanRollup

variable {ks ls : List Int}

/-! ## Lists in another order -/

theorem min?_eq_of_perm (h : ks.Perm ls) : ks.min? = ls.min? := by
  cases hl : ls.min? with
  | none =>
    rw [List.min?_eq_none_iff.mp hl] at h
    rw [h.eq_nil, List.min?_nil]
  | some l =>
    obtain ⟨hmem, hleast⟩ := List.min?_eq_some_iff.mp hl
    apply List.min?_eq_some_iff.mpr
    exact ⟨h.mem_iff.mpr hmem, fun k hk => hleast k (h.mem_iff.mp hk)⟩

theorem max?_eq_of_perm (h : ks.Perm ls) : ks.max? = ls.max? := by
  cases hl : ls.max? with
  | none =>
    rw [List.max?_eq_none_iff.mp hl] at h
    rw [h.eq_nil, List.max?_nil]
  | some l =>
    obtain ⟨hmem, hgreatest⟩ := List.max?_eq_some_iff.mp hl
    apply List.max?_eq_some_iff.mpr
    exact ⟨h.mem_iff.mpr hmem, fun k hk => hgreatest k (h.mem_iff.mp hk)⟩

theorem Resolution.keys_perm (r : Resolution) (h : ks.Perm ls) : (r.keys ks).Perm (r.keys ls) :=
  (h.filter _).map _

namespace Bins

variable {limit : Nat} {b : Bins}

theorem Ranges.perm (h : Ranges limit ks b) (hp : ls.Perm ks) : Ranges limit ls b := by
  cases h with
  | empty =>
    rw [hp.eq_nil]
    exact .empty
  | keys h =>
    obtain ⟨lo, hlo, hmin⟩ := h.least
    exact .keys
      { laid := h.laid
        total_eq := by rw [h.total_eq, hp.length_eq]
        greatest := (max?_eq_of_perm hp).trans h.greatest
        least := ⟨lo, (min?_eq_of_perm hp).trans hlo, hmin⟩ }

theorem Keeps.perm (h : b.Keeps ks) (hp : ls.Perm ks) : b.Keeps ls := by
  have hmap := hp.map (max b.minKey.toInt)
  refine ⟨?_, ?_, ?_⟩
  · rw [h.total_eq, hmap.length_eq]
  · intro k hk
    exact h.within k (hmap.mem_iff.mp hk)
  · intro key
    rw [h.countAt_eq, hmap.count_eq]

end Bins

/-! ## Digests -/

namespace Digest

/-- The digest has recorded the durations, and nothing was merged into it. -/
structure Recorded (r : Resolution) (ns : List Int) (d : Digest) : Prop extends Takes r ns d where
  keeps : d.sketch.positive.Keeps (r.keys ns)
  min_eq : d.sketch.min = lowest ns
  max_eq : d.sketch.max = highest ns

variable {r : Resolution} {ns ms : List Int} {d e : Digest}

theorem recorded_empty (r : Resolution) : Recorded r [] (empty r) :=
  ⟨takes_empty r, Bins.keeps_empty _, rfl, rfl⟩

theorem Recorded.record (hr : r.IsLegal) (h : Recorded r ns d) (duration : Int64) :
    Recorded r (ns ++ [nanoseconds duration]) (d.record duration) := by
  obtain ⟨e, hrecord, htakes, hkeeps, hmin, hmax⟩ := record_takes hr h.toTakes duration
  have hnew : ∀ n ∈ [nanoseconds duration], IsDuration n := by
    intro n hn
    rw [List.mem_singleton.mp hn]
    exact isDuration_nanoseconds duration
  rw [Digest.record, hrecord]
  refine ⟨htakes, hkeeps h.keeps, ?_, ?_⟩
  · rw [← lower_lowest h.durations hnew (List.cons_ne_nil _ _), ← h.min_eq]
    exact hmin
  · rw [← upper_highest h.durations hnew (List.cons_ne_nil _ _), ← h.max_eq]
    exact hmax

theorem Takes.perm (h : Takes r ns d) (hp : ms.Perm ns) : Takes r ms d where
  durations := fun n hn => h.durations n (hp.mem_iff.mp hn)
  resolution_eq := h.resolution_eq
  scale_eq := h.scale_eq
  count_eq := by rw [h.count_eq, hp.length_eq]
  sum_eq := by rw [h.sum_eq, hp.sum_eq]
  positive := h.positive.perm (r.keys_perm hp)
  negative_eq := h.negative_eq
  zeros_eq := by rw [h.zeros_eq, hp.countP_eq]

theorem Recorded.perm (h : Recorded r ns d) (hp : ms.Perm ns) : Recorded r ms d where
  toTakes := h.toTakes.perm hp
  keeps := h.keeps.perm (r.keys_perm hp)
  min_eq := by rw [h.min_eq, lowest, lowest, min?_eq_of_perm hp]
  max_eq := by rw [h.max_eq, highest, highest, max?_eq_of_perm hp]

/-- Two digests give the same answers. -/
structure Alike (d e : Digest) : Prop where
  count_eq : d.count = e.count
  sum_eq : d.sum = e.sum
  quantile_eq : ∀ q, d.quantile q = e.quantile q

theorem Recorded.alike (h : Recorded r ns d) (he : Recorded r ns e) : d.Alike e where
  count_eq := h.count_eq.trans he.count_eq.symm
  sum_eq := h.sum_eq.trans he.sum_eq.symm
  quantile_eq := (h.sameCounts he.toTakes h.keeps he.keeps).quantile_eq
    (h.min_eq.trans he.min_eq.symm) (h.max_eq.trans he.max_eq.symm)

end Digest

end SpanRollup
