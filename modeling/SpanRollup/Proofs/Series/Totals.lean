import SpanRollup.Proofs.Digest.Recorded
import SpanRollup.Proofs.Series.Tally

/-!
# The totals of cells

However a cell came about, its totals are those of the observations that went into it, in whatever
order and by whichever merges. Sums are held at the end of the range, in the cell and in each of its
digests, wherever they reach it.

- `Cell.Takes`: a cell has taken in some observations.
- `Cell.Origin`: the tree of observations and merges that a cell comes of.
- `Origin.totals`: the totals of the cell.
-/

namespace SpanRollup

/-! ## Observations -/

/-- The durations of observations, as they count. -/
def durations (os : List Observation) : List Int := os.map fun o => nanoseconds o.duration

/-- The observations of spans without an error. -/
def successes (os : List Observation) : List Observation := os.filter fun o => !o.isError

/-- The observations of spans with an error. -/
def failures (os : List Observation) : List Observation := os.filter fun o => o.isError

theorem nanoseconds_clamped (o : Observation) : nanoseconds o.clamped = nanoseconds o.duration := by
  have hduration := (isDuration_nanoseconds o.duration).1
  rw [nanoseconds_eq, Observation.clamped]
  exact max_eq_right hduration

theorem durations_append (os ps : List Observation) :
    durations (os ++ ps) = durations os ++ durations ps := List.map_append

theorem sum_durations_nonneg (os : List Observation) : 0 ≤ (durations os).sum := by
  apply List.sum_nonneg
  intro n hn
  obtain ⟨o, -, rfl⟩ := List.mem_map.mp hn
  exact (isDuration_nanoseconds o.duration).1

/-- A sum that is held at the end of the range. -/
theorem toInt_sum_durations (os : List Observation) :
    (Int64.ofInt (min (2 ^ 63 - 1) (durations os).sum)).toInt =
      min (2 ^ 63 - 1) (durations os).sum := by
  have hsum := sum_durations_nonneg os
  exact Int64.toInt_ofInt_of_le (by omega) (by omega)

theorem length_durations_filter_le (p : Observation → Bool) (os : List Observation) :
    (durations (os.filter p)).length ≤ os.length := by
  rw [durations, List.length_map]
  exact List.length_filter_le _ _

theorem successes_append_failures (os : List Observation) :
    (successes os ++ failures os).Perm os := by
  have hperm := List.filter_append_perm (fun o : Observation => !o.isError) os
  simpa [successes, failures] using hperm

theorem length_successes_add_failures (os : List Observation) :
    (successes os).length + (failures os).length = os.length := by
  rw [← List.length_append, (successes_append_failures os).length_eq]

theorem sum_successes_add_failures (os : List Observation) :
    (durations (successes os)).sum + (durations (failures os)).sum = (durations os).sum := by
  rw [← List.sum_append, ← durations_append]
  exact ((successes_append_failures os).map _).sum_eq

/-! ## Digests of observations -/

namespace Digest

variable {r : Resolution} {ns : List Int} {d : Digest}

theorem Takes.record (hr : r.IsLegal) (h : Takes r ns d) (duration : Int64) :
    Takes r (ns ++ [nanoseconds duration]) (d.record duration) := by
  obtain ⟨e, hrecord, htakes, -⟩ := record_takes hr h duration
  rwa [Digest.record, hrecord]

end Digest

/-! ## Cells -/

namespace Cell

/-- A cell of resolution `r` has taken in the observations `os`. -/
structure Takes (r : Resolution) (os : List Observation) (c : Cell) : Prop where
  hits_eq : c.hits = .ofNat os.length
  errors_eq : c.errors = .ofNat (failures os).length
  topLevel_eq : c.topLevel = .ofNat (os.countP (·.isTopLevel))
  duration_eq : c.duration = .ofInt (min (2 ^ 63 - 1) (durations os).sum)
  ok : Digest.Takes r (durations (successes os)) c.ok
  failed : Digest.Takes r (durations (failures os)) c.failed

variable {r : Resolution} {os ps : List Observation} {c d : Cell}

theorem takes_empty (r : Resolution) : Takes r [] (empty r) :=
  ⟨rfl, rfl, rfl, rfl, Digest.takes_empty r, Digest.takes_empty r⟩

/-- The digests after an observation: one takes its duration in, the other stays. -/
theorem record_digests {P : List Int → Digest → Prop}
    (hrecord : ∀ {ns d} duration, P ns d → P (ns ++ [nanoseconds duration]) (d.record duration))
    (hok : P (durations (successes os)) c.ok) (hfailed : P (durations (failures os)) c.failed)
    (o : Observation) :
    P (durations (successes (os ++ [o]))) (c.record o).ok ∧
      P (durations (failures (os ++ [o]))) (c.record o).failed := by
  have hnew : durations [o] = [nanoseconds o.clamped] := by
    rw [nanoseconds_clamped]
    rfl
  unfold successes failures at *
  rw [List.filter_append, List.filter_append, durations_append, durations_append]
  cases herror : o.isError with
  | true =>
    rw [List.filter_singleton, List.filter_singleton, herror]
    simp only [record, herror, if_true]
    refine ⟨by simpa [durations] using hok, ?_⟩
    show P (_ ++ durations [o]) _
    rw [hnew]
    exact hrecord _ hfailed
  | false =>
    rw [List.filter_singleton, List.filter_singleton, herror]
    simp only [record, herror, Bool.false_eq_true, if_false]
    refine ⟨?_, by simpa [durations] using hfailed⟩
    show P (_ ++ durations [o]) _
    rw [hnew]
    exact hrecord _ hok

theorem Takes.record (hr : r.IsLegal) (h : Takes r os c) (o : Observation) :
    Takes r (os ++ [o]) (c.record o) := by
  obtain ⟨hok, hfailed⟩ := record_digests (fun duration h => h.record hr duration) h.ok h.failed o
  refine ⟨?_, ?_, ?_, ?_, hok, hfailed⟩
  · rw [List.length_append, UInt64.ofNat_add, ← h.hits_eq]
    rfl
  · unfold failures
    rw [List.filter_append, List.length_append, UInt64.ofNat_add]
    simp only [Cell.record, h.errors_eq, failures]
    cases herror : o.isError <;> simp [herror]
  · rw [List.countP_append, UInt64.ofNat_add, ← h.topLevel_eq]
    simp only [Cell.record]
    cases htop : o.isTopLevel <;> simp [htop]
  · have hsum : (durations (os ++ [o])).sum = (durations os).sum + nanoseconds o.duration := by
      rw [durations_append, List.sum_append]
      simp [durations]
    rw [hsum, ← saturatingAdd_ofInt (sum_durations_nonneg os) (isDuration_nanoseconds _).1,
      ← h.duration_eq, ← max_zero_eq]
    rfl

theorem Takes.merge (hr : r.IsLegal) (h : Takes r os c) (hd : Takes r ps d)
    (hlen : os.length + ps.length < 2 ^ 64) :
    ∃ m, c.merge d = .ok m ∧ Takes r (os ++ ps) m := by
  have hlt (p : Observation → Bool) : (durations (os.filter p)).length < 2 ^ 64 := by
    have := length_durations_filter_le p os
    omega
  have hlt' (p : Observation → Bool) : (durations (ps.filter p)).length < 2 ^ 64 := by
    have := length_durations_filter_le p ps
    omega
  obtain ⟨ok, hok, htakes, -⟩ := Digest.merge_takes hr h.ok hd.ok (hlt _) (hlt' _)
  obtain ⟨failed, hfailed, htakes', -⟩ :=
    Digest.merge_takes hr h.failed hd.failed (hlt _) (hlt' _)
  unfold Cell.merge
  rw [hok, hfailed]
  refine ⟨_, rfl, ?_, ?_, ?_, ?_, ?_, ?_⟩
  · rw [List.length_append, UInt64.ofNat_add, ← h.hits_eq, ← hd.hits_eq]
  · unfold failures
    rw [List.filter_append, List.length_append, UInt64.ofNat_add]
    show c.errors + d.errors = _
    rw [h.errors_eq, hd.errors_eq]
    rfl
  · rw [List.countP_append, UInt64.ofNat_add, ← h.topLevel_eq, ← hd.topLevel_eq]
  · rw [durations_append, List.sum_append,
      ← saturatingAdd_ofInt (sum_durations_nonneg os) (sum_durations_nonneg ps),
      ← h.duration_eq, ← hd.duration_eq]
  · unfold successes at *
    rwa [List.filter_append, durations_append]
  · unfold failures at *
    rwa [List.filter_append, durations_append]

/-! ## Trees of observations and merges -/

/-- How a cell comes about. -/
inductive Origin where
  | empty
  | record (t : Origin) (o : Observation)
  | merge (t other : Origin)

namespace Origin

/-- The cell that comes about, unless a merge fails. -/
def cell? (r : Resolution) : Origin → Option Cell
  | .empty => some (Cell.empty r)
  | .record t o => do (← t.cell? r).record o
  | .merge t other => do ((← t.cell? r).merge (← other.cell? r)).toOption

/-- All observations that went into it. -/
def outcomes : Origin → List Observation
  | .empty => []
  | .record t o => t.outcomes ++ [o]
  | .merge t other => t.outcomes ++ other.outcomes

theorem cell?_takes (hr : r.IsLegal) (t : Origin) (hlen : t.outcomes.length < 2 ^ 64) :
    ∃ c, t.cell? r = some c ∧ Takes r t.outcomes c := by
  induction t with
  | empty => exact ⟨Cell.empty r, rfl, takes_empty r⟩
  | record t o ih =>
    rw [outcomes, List.length_append] at hlen
    obtain ⟨c, hcell, htakes⟩ := ih (by omega)
    refine ⟨c.record o, ?_, htakes.record hr o⟩
    rw [cell?, hcell]
    rfl
  | merge t other ih iho =>
    rw [outcomes, List.length_append] at hlen
    obtain ⟨c, hcell, htakes⟩ := ih (by omega)
    obtain ⟨d, hcell', htakes'⟩ := iho (by omega)
    obtain ⟨m, hmerge, hm⟩ := htakes.merge hr htakes' hlen
    refine ⟨m, ?_, hm⟩
    rw [cell?, hcell, hcell']
    show (c.merge d).toOption = some m
    rw [hmerge]
    rfl

/-- Whatever the tree, the totals of the cell are those of the observations in it, as long as these
can be counted. So the totals agree with each other, and those of another tree with the same
observations are the same. -/
theorem totals (accuracy : Binary64) (maxBins : Nat) (t : Origin)
    (hlen : t.outcomes.length < 2 ^ 64) :
    let os := t.outcomes
    ∃ c, t.cell? (.ofSettings accuracy maxBins) = some c ∧
      c.hits.toNat = os.length ∧
      c.errors.toNat = (failures os).length ∧
      c.topLevel.toNat = os.countP (·.isTopLevel) ∧
      c.ok.count.toNat = (successes os).length ∧
      c.failed.count.toNat = (failures os).length ∧
      c.duration.toInt = min (2 ^ 63 - 1) (durations os).sum ∧
      c.ok.sum.toInt = min (2 ^ 63 - 1) (durations (successes os)).sum ∧
      c.failed.sum.toInt = min (2 ^ 63 - 1) (durations (failures os)).sum ∧
      c.hits.toNat = c.ok.count.toNat + c.failed.count.toNat ∧
      c.errors = c.failed.count ∧
      c.topLevel.toNat ≤ c.hits.toNat ∧
      c.duration = saturatingAdd c.ok.sum c.failed.sum := by
  intro os
  obtain ⟨c, hcell, h⟩ : ∃ c, t.cell? (.ofSettings accuracy maxBins) = some c ∧ Takes _ os c :=
    cell?_takes (Resolution.ofSettings_isLegal accuracy maxBins) t hlen
  have hsplit := length_successes_add_failures os
  have htop : os.countP (·.isTopLevel) ≤ os.length := List.countP_le_length
  have hcount {n : Nat} (hn : n ≤ os.length) : (UInt64.ofNat n).toNat = n :=
    UInt64.toNat_ofNat_of_lt' (lt_of_le_of_lt hn hlen)
  have hhits : c.hits.toNat = os.length := by rw [h.hits_eq, hcount le_rfl]
  have hok : c.ok.count.toNat = (successes os).length := by
    rw [h.ok.count_eq, durations, List.length_map, hcount (by omega)]
  have hfailed : c.failed.count.toNat = (failures os).length := by
    rw [h.failed.count_eq, durations, List.length_map, hcount (by omega)]
  have htopLevel : c.topLevel.toNat = os.countP (·.isTopLevel) := by
    rw [h.topLevel_eq, hcount htop]
  refine ⟨c, hcell, hhits, ?_, htopLevel, hok, hfailed, ?_, ?_, ?_, ?_, ?_, ?_, ?_⟩
  · rw [h.errors_eq, hcount (by omega)]
  · rw [h.duration_eq, toInt_sum_durations]
  · rw [h.ok.sum_eq, toInt_sum_durations]
  · rw [h.failed.sum_eq, toInt_sum_durations]
  · rw [hhits, hok, hfailed, hsplit]
  · rw [h.errors_eq, h.failed.count_eq, durations, List.length_map]
  · rw [hhits, htopLevel]
    exact htop
  · rw [h.duration_eq, h.ok.sum_eq, h.failed.sum_eq,
      saturatingAdd_ofInt (sum_durations_nonneg _) (sum_durations_nonneg _),
      sum_successes_add_failures]

/-- Two spans that take all the time there is, and one that ends before it starts, in two cells of
which one fails twice. -/
theorem totals_saturated :
    let o : Observation := { duration := Int64.maxValue, isTopLevel := true }
    let late : Observation := { duration := -5, isError := true }
    let t : Origin := .merge (.record (.record .empty o) late)
      (.merge .empty (.record (.record .empty { o with isError := true }) { duration := 7 }))
    t.outcomes.length < 2 ^ 64 ∧
      ∃ c, t.cell? (.ofSettings Resolution.defaultAccuracy 16) = some c ∧
        c.hits.toNat = 4 ∧ c.errors.toNat = 2 ∧ c.topLevel.toNat = 2 ∧
        c.ok.count.toNat = 2 ∧ c.failed.count.toNat = 2 ∧
        c.duration.toInt = 2 ^ 63 - 1 ∧ c.ok.sum.toInt = 2 ^ 63 - 1 ∧
        c.failed.sum.toInt = 2 ^ 63 - 1 := by
  intro o late t
  have hlen : t.outcomes.length < 2 ^ 64 := by decide +kernel
  obtain ⟨c, hcell, hhits, herrors, htop, hok, hfailed, hduration, hoksum, hfailedsum, -⟩ :=
    totals Resolution.defaultAccuracy 16 t hlen
  have hsums : (durations t.outcomes).sum = 2 * (2 ^ 63 - 1) + 7 ∧
      (durations (successes t.outcomes)).sum = 2 ^ 63 - 1 + 7 ∧
      (durations (failures t.outcomes)).sum = 2 ^ 63 - 1 := by decide +kernel
  refine ⟨hlen, c, hcell, hhits, herrors, htop, hok, hfailed, ?_, ?_, ?_⟩
  · rw [hduration, hsums.1]
    rfl
  · rw [hoksum, hsums.2.1]
    rfl
  · rw [hfailedsum, hsums.2.2]
    rfl

end Origin

end Cell

end SpanRollup
