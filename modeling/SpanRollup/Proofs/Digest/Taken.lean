import Mathlib
import SpanRollup.Proofs.Digest.Formed
import SpanRollup.Proofs.Sketch.Content
import SpanRollup.Proofs.Sketch.KeyRange

/-!
# What a digest has taken in

A digest is described by the list of the durations that it has taken in, by itself or from others:
how many there are, their sum, and the keys of those that are longer than one nanosecond.

- `Digest.Takes`: a digest has taken in some durations.
- `record_takes`: a duration is taken in.
- `merge_takes`: a digest of the same resolution is taken in.
-/

namespace SpanRollup

/-! ## Durations -/

/-- What counts of a duration: a negative one is none at all. -/
def nanoseconds (duration : Int64) : Int := (max 0 duration).toInt

theorem nanoseconds_eq (duration : Int64) : nanoseconds duration = max 0 duration.toInt := by
  unfold nanoseconds
  change (if (0 : Int64) ≤ duration then duration else 0).toInt = _
  split
  · rename_i h
    rw [Int64.le_iff_toInt_le, Int64.toInt_zero] at h
    omega
  · rename_i h
    rw [Int64.le_iff_toInt_le, Int64.toInt_zero] at h
    rw [Int64.toInt_zero]
    omega

/-- The whole numbers that are durations. -/
def IsDuration (n : Int) : Prop := 0 ≤ n ∧ n < 2 ^ 63

theorem isDuration_nanoseconds (duration : Int64) : IsDuration (nanoseconds duration) := by
  have := duration.toInt_lt
  rw [nanoseconds_eq]
  exact ⟨by omega, by omega⟩

/-- A duration as it is added to a sum. -/
theorem max_zero_eq (duration : Int64) :
    max 0 duration = .ofInt (min (2 ^ 63 - 1) (nanoseconds duration)) := by
  have := (isDuration_nanoseconds duration).2
  rw [min_eq_right (by omega), nanoseconds, Int64.ofInt_toInt]

/-- Sums are held at the end of the range, whenever they reach it. -/
theorem saturatingAdd_ofInt {m n : Int} (hm : 0 ≤ m) (hn : 0 ≤ n) :
    saturatingAdd (.ofInt (min (2 ^ 63 - 1) m)) (.ofInt (min (2 ^ 63 - 1) n)) =
      .ofInt (min (2 ^ 63 - 1) (m + n)) := by
  unfold saturatingAdd
  rw [Int64.toInt_ofInt_of_le (by omega) (by omega), Int64.toInt_ofInt_of_le (by omega) (by omega)]
  congr 1
  omega

namespace Resolution

/-- The keys of the durations that are counted in bins. -/
def keys (r : Resolution) (ns : List Int) : List Int :=
  (ns.filter (1 < ·)).map fun n => (r.scale.key (.ofInt n)).toInt

variable {r : Resolution} {ns ms : List Int} {n : Int}

theorem keys_append (r : Resolution) (ns ms : List Int) :
    r.keys (ns ++ ms) = r.keys ns ++ r.keys ms := by
  unfold keys
  rw [List.filter_append, List.map_append]

theorem length_keys (r : Resolution) (ns : List Int) :
    (r.keys ns).length = ns.countP (1 < ·) := by
  rw [keys, List.length_map, List.countP_eq_length_filter]

theorem length_keys_le (r : Resolution) (ns : List Int) : (r.keys ns).length ≤ ns.length := by
  rw [length_keys]
  exact List.countP_le_length

/-- Durations are counted in bins or as zeros. -/
theorem length_keys_add (r : Resolution) (ns : List Int) :
    (r.keys ns).length + ns.countP (· ≤ 1) = ns.length := by
  rw [length_keys, List.length_eq_countP_add_countP (1 < ·)]
  congr 1
  exact List.countP_congr fun n _ => by simp

theorem keys_singleton (h : 1 < n) :
    r.keys [n] = [(r.scale.key (.ofInt n)).toInt] := by
  unfold keys
  rw [List.filter_singleton, decide_eq_true h]
  rfl

theorem keys_singleton_of_le (h : n ≤ 1) : r.keys [n] = [] := by
  unfold keys
  rw [List.filter_singleton, decide_eq_false (by omega)]
  rfl

theorem maxBins_pos (h : r.IsLegal) : 0 < r.maxBins.toNat := by
  have := toNat_maxBins_ofSettings r.accuracy r.maxBins.toNat
  rw [h.ofSettings_eq] at this
  omega

theorem same_self (h : r.IsLegal) : r.same r = true := by
  unfold same
  rw [h.accuracy_same, decide_eq_true rfl]
  rfl

end Resolution

/-! ## Sketches -/

namespace Sketch

variable {s t : Sketch} {n : Int}

/-- How a sketch on a scale of durations takes one in. -/
theorem add_ofInt (hs : s.scale.minValue = .one) (hn : IsDuration n) :
    s.add (.ofInt n) =
      if 1 < n then (s.positive.add (s.scale.key (.ofInt n))).map fun positive =>
        { s with positive, min := lower (.ofInt n) s.min, max := upper (.ofInt n) s.max
                 sum := s.sum.add (.ofInt n) }
      else some { s with
        zeros := s.zeros + 1, min := lower (.ofInt n) s.min, max := upper (.ofInt n) s.max
        sum := s.sum.add (.ofInt n) } := by
  have hneg : (Binary64.ofInt n).lt Binary64.one.neg = false := by
    have hrank : Binary64.one.neg.rank < 0 := by
      rw [Binary64.rank, Binary64.isNegative_neg, Binary64.isNegative_one, Binary64.magnitude_neg,
        Binary64.magnitude_one]
      decide
    have hnonneg : 0 ≤ (Binary64.ofInt n).rank := by
      rw [Binary64.rank_ofInt hn.1]
      exact Int.natCast_nonneg _
    exact Binary64.not_lt_of_rank_le (by omega)
  unfold add
  rw [hs, Binary64.one_lt_ofInt hn.1 hn.2, hneg]
  by_cases h : 1 < n
  · rw [decide_eq_true h, if_pos rfl, if_pos h]
    cases s.positive.add (s.scale.key (.ofInt n)) <;> rfl
  · rw [decide_eq_false h, if_neg h]
    rfl

/-- Both kinds of bins are sound. -/
def Sound (limit : Nat) (s : Sketch) : Prop := s.positive.Sound limit ∧ s.negative.Sound limit

/-- What comes of a merge of sketches on the same scale. -/
theorem merge_eq_ok {positive negative : Bins} (hscale : s.scale.same t.scale = true)
    (hp : s.positive.merge t.positive = some positive)
    (hn : s.negative.merge t.negative = some negative) :
    ∃ m, s.merge t = .ok m ∧ m.scale = s.scale ∧ m.positive = positive ∧
      m.negative = negative ∧ m.zeros = s.zeros + t.zeros ∧
      (m.min, m.max) =
        if s.positive.total = 0 then (t.min, t.max)
        else if 0 < t.positive.total then (lower t.min s.min, upper t.max s.max)
        else (s.min, s.max) := by
  unfold merge
  rw [hscale, hp, hn]
  generalize (if s.positive.total = 0 then (t.min, t.max)
    else if 0 < t.positive.total then (lower t.min s.min, upper t.max s.max)
    else (s.min, s.max)) = extremes
  exact ⟨_, rfl, rfl, rfl, rfl, rfl, rfl⟩

/-! ### Quantiles -/

theorem quantile_zero (s : Sketch) :
    s.quantile .zero = if s.count = 0 then none else some s.min := by
  have hlt : Binary64.zero.lt .zero = false := Binary64.lt_irrefl _
  have hone : Binary64.one.lt .zero = false := Binary64.not_lt_of_lt Binary64.zero_lt_one
  have hsame : Binary64.zero.same .zero = true := Binary64.same_self Binary64.isNaN_zero
  unfold quantile
  rw [hlt, hone, hsame]
  simp

theorem quantile_one (s : Sketch) :
    s.quantile .one = if s.count = 0 then none else some s.max := by
  have hlt : Binary64.one.lt .zero = false := Binary64.not_lt_of_lt Binary64.zero_lt_one
  have hone : Binary64.one.lt .one = false := Binary64.lt_irrefl _
  have hzero : Binary64.one.same .zero = false := by
    rw [Binary64.same_comm, Binary64.not_same_of_lt Binary64.zero_lt_one]
  have hsame : Binary64.one.same .one = true := Binary64.same_self Binary64.isNaN_one
  unfold quantile
  rw [hlt, hone, hzero, hsame]
  simp

/-- Two sketches on one scale that count the same, with the same key at each rank. -/
structure SameCounts (s t : Sketch) : Prop where
  scale_eq : s.scale = t.scale
  total_eq : s.positive.total = t.positive.total
  negative_eq : s.negative = t.negative
  zeros_eq : s.zeros = t.zeros
  keyAtRank_eq : ∀ rank, s.positive.keyAtRank rank = t.positive.keyAtRank rank

theorem SameCounts.count_eq (h : s.SameCounts t) : s.count = t.count := by
  unfold count
  rw [h.total_eq, h.negative_eq, h.zeros_eq]

theorem SameCounts.valueAtRank_eq (h : s.SameCounts t) (q : Binary64) :
    s.valueAtRank (s.rank q) = t.valueAtRank (t.rank q) := by
  unfold valueAtRank rank
  rw [h.count_eq, h.scale_eq, h.negative_eq, h.zeros_eq, h.keyAtRank_eq]

/-- Quantiles are a matter of the counts and of the extremes. -/
theorem SameCounts.quantile_eq (h : s.SameCounts t) (hmin : s.min = t.min) (hmax : s.max = t.max)
    (q : Binary64) : s.quantile q = t.quantile q := by
  unfold quantile
  rw [h.count_eq, h.valueAtRank_eq, hmin, hmax]

/-- Inner quantiles are estimates of the value at their rank. -/
theorem inner_quantile {q : Binary64} (hpos : Binary64.zero.lt q = true)
    (hone : q.lt .one = true) :
    s.quantile q = if s.count = 0 then none else some (s.valueAtRank (s.rank q)) := by
  have hzero : q.same .zero = false := by rw [Binary64.same_comm, Binary64.not_same_of_lt hpos]
  have hnot : q.same .one = false := Binary64.not_same_of_lt hone
  unfold quantile
  rw [Binary64.not_lt_of_lt hpos, Binary64.not_lt_of_lt hone, hzero, hnot]
  simp

/-- Inner quantiles are a matter of the counts. -/
theorem SameCounts.inner_quantile_eq (h : s.SameCounts t) {q : Binary64}
    (hpos : Binary64.zero.lt q = true) (hone : q.lt .one = true) :
    s.quantile q = t.quantile q := by
  rw [inner_quantile hpos hone, inner_quantile hpos hone, h.count_eq, h.valueAtRank_eq]

end Sketch

/-! ## Digests -/

namespace Digest

/-- The digest of resolution `r` has taken in the durations `ns`. -/
structure Takes (r : Resolution) (ns : List Int) (d : Digest) : Prop where
  durations : ∀ n ∈ ns, IsDuration n
  resolution_eq : d.resolution = r
  scale_eq : d.sketch.scale = r.scale
  count_eq : d.count = .ofNat ns.length
  sum_eq : d.sum = .ofInt (min (2 ^ 63 - 1) ns.sum)
  positive : Bins.Ranges r.maxBins.toNat (r.keys ns) d.sketch.positive
  negative_eq : d.sketch.negative = .empty r.maxBins.toNat
  zeros_eq : d.sketch.zeros = .ofNat (ns.countP (· ≤ 1))

variable {r : Resolution} {ns ms : List Int} {d e : Digest}

theorem takes_empty (r : Resolution) : Takes r [] (empty r) where
  durations := nofun
  resolution_eq := rfl
  scale_eq := rfl
  count_eq := rfl
  sum_eq := rfl
  positive := .empty
  negative_eq := rfl
  zeros_eq := rfl

/-- The bins of a digest are sound. -/
theorem Takes.sound (h : Takes r ns d) : d.sketch.Sound r.maxBins.toNat :=
  ⟨h.positive.sound, .inl h.negative_eq⟩

theorem Takes.sum_nonneg (h : Takes r ns d) : 0 ≤ ns.sum :=
  List.sum_nonneg fun n hn => (h.durations n hn).1

theorem Takes.sketch_count (h : Takes r ns d) : d.sketch.count = .ofNat ns.length := by
  unfold Sketch.count
  rw [h.positive.total_eq, h.zeros_eq, h.negative_eq, ← r.length_keys_add ns, UInt64.ofNat_add]
  exact UInt64.add_zero _

/-- Digests that have kept the counts of the same durations count the same. -/
theorem Takes.sameCounts (h : Takes r ns d) (he : Takes r ns e)
    (hkeeps : d.sketch.positive.Keeps (r.keys ns)) (hkeeps' : e.sketch.positive.Keeps (r.keys ns)) :
    d.sketch.SameCounts e.sketch where
  scale_eq := h.scale_eq.trans he.scale_eq.symm
  total_eq := h.positive.total_eq.trans he.positive.total_eq.symm
  negative_eq := h.negative_eq.trans he.negative_eq.symm
  zeros_eq := h.zeros_eq.trans he.zeros_eq.symm
  keyAtRank_eq := Bins.keyAtRank_congr h.positive he.positive hkeeps hkeeps'

theorem Takes.formed (hr : r.IsLegal) (h : Takes r ns d) : d.Formed := by
  have hbins : d.sketch.scale.maxBins.toNat = r.maxBins.toNat := by
    rw [h.scale_eq, Resolution.scale, Scale.ofAccuracy]
  refine ⟨by rwa [h.resolution_eq], ?_, ?_, ?_⟩
  · rw [hbins]
    exact ⟨h.positive.sound.limit_eq, h.positive.sound.size_le, rfl⟩
  · rw [hbins, h.negative_eq]
    exact Bins.within_empty _
  · rw [h.sketch_count, h.count_eq]

/-- What the sketch of a digest becomes with one more duration. -/
theorem Takes.add_sketch (hr : r.IsLegal) (h : Takes r ns d) {n : Int} (hn : IsDuration n) :
    ∃ t, d.sketch.add (.ofInt n) = some t ∧ t.scale = r.scale ∧
      Bins.Ranges r.maxBins.toNat (r.keys (ns ++ [n])) t.positive ∧
      t.negative = d.sketch.negative ∧ t.zeros = .ofNat ((ns ++ [n]).countP (· ≤ 1)) ∧
      (d.sketch.positive.Keeps (r.keys ns) → t.positive.Keeps (r.keys (ns ++ [n]))) ∧
      t.min = Sketch.lower (.ofInt n) d.sketch.min ∧
      t.max = Sketch.upper (.ofInt n) d.sketch.max := by
  have hscale : d.sketch.scale.minValue = .one := by rw [h.scale_eq, Resolution.minValue_scale]
  rw [Sketch.add_ofInt hscale hn, h.scale_eq, Resolution.keys_append, List.countP_append,
    UInt64.ofNat_add, ← h.zeros_eq]
  by_cases hlong : 1 < n
  · obtain ⟨hlow, hhigh⟩ := Resolution.key_range hr hlong hn.2
    obtain ⟨positive, hadd, hspans, hkeeps⟩ :=
      h.positive.add (Resolution.maxBins_pos hr) (r.scale.key (.ofInt n)) (by omega)
    rw [if_pos hlong, hadd, Resolution.keys_singleton hlong, List.countP_singleton,
      if_neg (by simpa using hlong)]
    exact ⟨_, rfl, rfl, .keys hspans, rfl, (UInt64.add_zero _).symm, hkeeps, rfl, rfl⟩
  · rw [if_neg hlong, Resolution.keys_singleton_of_le (by omega), List.append_nil,
      List.countP_singleton, if_pos (by simpa using hlong)]
    exact ⟨_, rfl, rfl, h.positive, rfl, rfl, id, rfl, rfl⟩

theorem record_takes (hr : r.IsLegal) (h : Takes r ns d) (duration : Int64) :
    ∃ e, d.record? duration = some e ∧ Takes r (ns ++ [nanoseconds duration]) e ∧
      (d.sketch.positive.Keeps (r.keys ns) →
        e.sketch.positive.Keeps (r.keys (ns ++ [nanoseconds duration]))) ∧
      e.sketch.min = Sketch.lower (.ofInt (nanoseconds duration)) d.sketch.min ∧
      e.sketch.max = Sketch.upper (.ofInt (nanoseconds duration)) d.sketch.max := by
  have hduration := isDuration_nanoseconds duration
  obtain ⟨t, hadd, hscale, hpositive, hnegative, hzeros, hrest⟩ := h.add_sketch hr hduration
  unfold record?
  change ∃ e, (d.sketch.add (.ofInt (nanoseconds duration)) >>= _) = some e ∧ _
  rw [hadd]
  refine ⟨_, rfl, ?_, hrest⟩
  exact
    { durations := by
        intro n hn
        rcases List.mem_append.mp hn with hn | hn
        · exact h.durations n hn
        · rwa [List.mem_singleton.mp hn]
      resolution_eq := h.resolution_eq
      scale_eq := hscale
      count_eq := by
        dsimp only
        rw [h.count_eq, List.length_append, UInt64.ofNat_add]
        rfl
      sum_eq := by
        dsimp only
        rw [h.sum_eq, max_zero_eq, saturatingAdd_ofInt h.sum_nonneg hduration.1, List.sum_append,
          List.sum_singleton]
      positive := hpositive
      negative_eq := hnegative.trans h.negative_eq
      zeros_eq := hzeros }

/-! ### Merging -/

theorem Takes.total_eq_zero_iff (h : Takes r ns d) (hlen : ns.length < 2 ^ 64) :
    d.sketch.positive.total = 0 ↔ r.keys ns = [] := by
  have := r.length_keys_le ns
  rw [h.positive.total_eq]
  constructor
  · intro htotal
    by_contra hne
    exact Bins.ofNat_ne_zero (fun h0 => hne (List.eq_nil_of_length_eq_zero h0)) (by omega) htotal
  · intro hnil
    rw [hnil]
    rfl

theorem Takes.count_eq_zero_iff (h : Takes r ns d) (hlen : ns.length < 2 ^ 64) :
    d.count = 0 ↔ ns = [] := by
  rw [h.count_eq]
  constructor
  · intro hcount
    by_contra hne
    exact Bins.ofNat_ne_zero (fun h0 => hne (List.eq_nil_of_length_eq_zero h0)) hlen hcount
  · rintro rfl
    rfl

/-- The extremes of a merged sketch: those of `other` if it alone has long durations, and those of
both if both have some. -/
def mergedExtremes (r : Resolution) (ns ms : List Int) (s other : Sketch) : Binary64 × Binary64 :=
  if ms = [] then (s.min, s.max)
  else if r.keys ns = [] then (other.min, other.max)
  else if r.keys ms = [] then (s.min, s.max)
  else (Sketch.lower other.min s.min, Sketch.upper other.max s.max)

theorem merge_takes (hr : r.IsLegal) (h : Takes r ns d) (ho : Takes r ms e)
    (hns : ns.length < 2 ^ 64) (hms : ms.length < 2 ^ 64) :
    ∃ m, d.merge e = .ok m ∧ Takes r (ns ++ ms) m ∧
      (d.sketch.positive.Keeps (r.keys ns) → e.sketch.positive.Keeps (r.keys ms) →
        m.sketch.positive.KeepsAbove (r.keys (ns ++ ms)) ∧
        (Bins.Clear r.maxBins.toNat (r.keys ns) (r.keys ms) →
          m.sketch.positive.Keeps (r.keys (ns ++ ms)))) ∧
      (m.sketch.min, m.sketch.max) = mergedExtremes r ns ms d.sketch e.sketch := by
  have hsame : (!d.resolution.same e.resolution) = false := by
    rw [h.resolution_eq, ho.resolution_eq, Resolution.same_self hr]
    rfl
  unfold merge
  rw [hsame, if_neg (by decide)]
  unfold mergedExtremes
  by_cases hnil : ms = []
  · subst hnil
    rw [if_pos ((ho.count_eq_zero_iff hms).mpr rfl), if_pos rfl, List.append_nil]
    exact ⟨d, rfl, h, fun hd _ => ⟨hd.above, fun _ => hd⟩, rfl⟩
  have hlen := r.length_keys_le ns
  have hlen' := r.length_keys_le ms
  obtain ⟨positive, hmerge, hranges, hkeeps⟩ :=
    h.positive.merge ho.positive (by omega) (by omega)
  have hscale : d.sketch.scale.same e.sketch.scale = true := by
    rw [h.scale_eq, ho.scale_eq, Resolution.scale_same hr]
  have hnegative : d.sketch.negative.merge e.sketch.negative =
      some (.empty r.maxBins.toNat) := by
    rw [h.negative_eq, ho.negative_eq]
    exact if_pos rfl
  obtain ⟨sketch, hsketch, hscale', rfl, hnegative', hzeros, hextremes⟩ :=
    Sketch.merge_eq_ok hscale hmerge hnegative
  rw [if_neg fun hcount => hnil ((ho.count_eq_zero_iff hms).mp hcount), if_neg hnil,
    Resolution.keys_append, hsketch]
  refine ⟨_, rfl, ?_, hkeeps, hextremes.trans ?_⟩
  · exact
      { durations := fun n hn => (List.mem_append.mp hn).elim (h.durations n) (ho.durations n)
        resolution_eq := h.resolution_eq
        scale_eq := hscale'.trans h.scale_eq
        count_eq := by
          dsimp only
          rw [h.count_eq, ho.count_eq, List.length_append, UInt64.ofNat_add]
        sum_eq := by
          dsimp only
          rw [h.sum_eq, ho.sum_eq, saturatingAdd_ofInt h.sum_nonneg ho.sum_nonneg,
            List.sum_append]
        positive := by
          rw [Resolution.keys_append]
          exact hranges
        negative_eq := hnegative'
        zeros_eq := by
          dsimp only
          rw [hzeros, h.zeros_eq, ho.zeros_eq, List.countP_append, UInt64.ofNat_add] }
  · have hpos : 0 < e.sketch.positive.total ↔ ¬r.keys ms = [] := by
      rw [← ho.total_eq_zero_iff hms, UInt64.pos_iff_ne_zero]
    rw [if_congr (h.total_eq_zero_iff hns) rfl rfl, if_congr hpos rfl rfl, ite_not]

end Digest

end SpanRollup
