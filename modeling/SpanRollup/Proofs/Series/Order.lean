import SpanRollup.Proofs.Series.Capacity
import SpanRollup.Proofs.Series.Totals

/-!
# The order of observations

As long as there are no more series than a window admits, the bucket does not show in which order
the observations came. Its cells need not be equal, since their bins may lie elsewhere, but they
answer alike.

- `Cell.Alike`: two cells give the same answers.
- `Cell.Recorded.alike`: cells that have recorded the same observations are alike.
- `Recorder.recordAll_fits`: with few enough series every observation gets to its own.
- `Recorder.bucketOf_perm`: buckets of the same observations.
-/

namespace SpanRollup

/-! ## Cells -/

namespace Cell

/-- The cell has recorded the observations, and nothing was merged into it. -/
structure Recorded (r : Resolution) (os : List Observation) (c : Cell) : Prop
    extends Takes r os c where
  ok_recorded : Digest.Recorded r (durations (successes os)) c.ok
  failed_recorded : Digest.Recorded r (durations (failures os)) c.failed

/-- Two cells give the same answers. -/
structure Alike (c d : Cell) : Prop where
  hits_eq : c.hits = d.hits
  errors_eq : c.errors = d.errors
  topLevel_eq : c.topLevel = d.topLevel
  duration_eq : c.duration = d.duration
  ok : c.ok.Alike d.ok
  failed : c.failed.Alike d.failed

variable {r : Resolution} {os ps : List Observation} {c d : Cell}

theorem recorded_empty (r : Resolution) : Recorded r [] (empty r) :=
  ⟨takes_empty r, Digest.recorded_empty r, Digest.recorded_empty r⟩

theorem Recorded.record (hr : r.IsLegal) (h : Recorded r os c) (o : Observation) :
    Recorded r (os ++ [o]) (c.record o) := by
  obtain ⟨hok, hfailed⟩ := record_digests (fun duration h => h.record hr duration)
    h.ok_recorded h.failed_recorded o
  exact ⟨h.toTakes.record hr o, hok, hfailed⟩

theorem recordAll_recorded (hr : r.IsLegal) (os : List Observation) :
    Recorded r os ((empty r).recordAll os) := by
  induction os using List.reverseRecOn with
  | nil => exact recorded_empty r
  | append_singleton os o ih =>
    rw [recordAll_concat]
    exact ih.record hr o

theorem Recorded.alike (h : Recorded r os c) (hd : Recorded r ps d) (hp : os.Perm ps) :
    c.Alike d := by
  have hok : (durations (successes os)).Perm (durations (successes ps)) := (hp.filter _).map _
  have hfailed : (durations (failures os)).Perm (durations (failures ps)) := (hp.filter _).map _
  exact
    { hits_eq := by rw [h.hits_eq, hd.hits_eq, hp.length_eq]
      errors_eq := by rw [h.errors_eq, hd.errors_eq, failures, failures, (hp.filter _).length_eq]
      topLevel_eq := by rw [h.topLevel_eq, hd.topLevel_eq, hp.countP_eq]
      duration_eq := by
        have hdurations : (durations os).Perm (durations ps) := hp.map _
        rw [h.duration_eq, hd.duration_eq, hdurations.sum_eq]
      ok := h.ok_recorded.alike (hd.ok_recorded.perm hok)
      failed := h.failed_recorded.alike (hd.failed_recorded.perm hfailed) }

end Cell

/-! ## Histories -/

namespace History

/-- Observations as they are offered, each with the series it belongs to. -/
def ofOffered (os : List (SeriesKey × Observation)) : History :=
  os.map fun e => (e.2.seriesKey e.1, e.2)

/-- The series that need a cell of their own. -/
def series (history : History) : Finset SeriesKey :=
  (history.map Prod.fst).toFinset.erase .overflow

variable {history other : History} {key : SeriesKey} {o : Observation} {r : Resolution}

theorem series_concat_of_ne (history : History) (o : Observation) (h : key ≠ .overflow) :
    series (history ++ [(key, o)]) = insert key history.series := by
  rw [series, series, List.map_append, List.toFinset_append, Finset.erase_union_distrib]
  show _ ∪ Finset.erase {key} .overflow = _
  rw [Finset.erase_eq_of_notMem fun hmem => h (Finset.mem_singleton.mp hmem).symm,
    Finset.union_comm]
  rfl

theorem series_subset_concat (history : History) (e : SeriesKey × Observation) :
    history.series ⊆ series (history ++ [e]) := by
  unfold series
  rw [List.map_append, List.toFinset_append]
  exact Finset.erase_subset_erase _ Finset.subset_union_left

theorem outcomesOf_perm (hp : history.Perm other) (key : SeriesKey) :
    (history.outcomesOf key).Perm (other.outcomesOf key) := (hp.filter _).map _

/-- The cells of the same series, if there are observations of it. -/
theorem cell?_alike (hr : r.IsLegal) (hp : history.Perm other) (key : SeriesKey) :
    Option.Rel Cell.Alike (history.cell? r key) (other.cell? r key) := by
  have hkey := outcomesOf_perm hp key
  unfold cell?
  cases hos : history.outcomesOf key with
  | nil =>
    rw [hos] at hkey
    rw [hkey.nil_eq.symm]
    exact .none
  | cons o os =>
    rw [hos] at hkey
    cases hps : other.outcomesOf key with
    | nil => exact absurd (hps ▸ hkey).eq_nil (List.cons_ne_nil o os)
    | cons p ps =>
      rw [hps] at hkey
      exact .some ((Cell.recordAll_recorded hr _).alike (Cell.recordAll_recorded hr _) hkey)

end History

theorem Tallies.series_eq {resolution : Resolution} {history : History} {w : Window}
    (h : Tallies resolution history w.table) : w.series = history.series := by
  have hkeys : w.keys.toFinset = (history.map Prod.fst).toFinset := by
    ext key
    rw [List.mem_toFinset, List.mem_toFinset, ← History.outcomesOf_ne_nil]
    exact h.mem_keys key
  rw [Window.series, hkeys, History.series]

/-! ## Recorders -/

namespace Recorder

def recordAll (r : Recorder) (os : List (SeriesKey × Observation)) : Recorder :=
  os.foldl (fun r e => (r.record e.1 e.2).1) r

theorem recordAll_concat (r : Recorder) (os : List (SeriesKey × Observation))
    (e : SeriesKey × Observation) :
    r.recordAll (os ++ [e]) = ((r.recordAll os).record e.1 e.2).1 := by
  rw [recordAll, List.foldl_concat]
  rfl

/-- The bucket of the window in which the observations came. -/
def bucketOf (r : Recorder) (start : Int64) (os : List (SeriesKey × Observation)) : Bucket :=
  ((r.recordAll os).rotate start).2.1

variable {r : Recorder}

/-- An observation of a series for which there is room gets into its cell. -/
theorem record_fits (hopen : r.isShutdown = false) {history : History}
    (hcapped : r.window.Capped r.maxKeys) (htallies : Tallies r.resolution history r.window.table)
    (key : SeriesKey) (o : Observation)
    (hfit : (History.series (history ++ [(o.seriesKey key, o)])).card ≤ r.maxKeys) :
    ∃ w, (r.record key o).1 = { r with window := w } ∧ w.Capped r.maxKeys ∧
      Tallies r.resolution (history ++ [(o.seriesKey key, o)]) w.table := by
  have hadmits : r.window.admits r.maxKeys (o.seriesKey key) = true := by
    by_contra hnot
    rw [Bool.not_eq_true, hcapped.admits_eq_false_iff, htallies.series_eq] at hnot
    obtain ⟨hkey, hnew, hfull⟩ := hnot
    have hnotMem : o.seriesKey key ∉ history.series := by
      rw [← htallies.series_eq, Window.mem_series]
      rintro ⟨-, hmem⟩
      exact hnew hmem
    -- the series would be one too many
    rw [History.series_concat_of_ne history o hkey, Finset.card_insert_of_notMem hnotMem] at hfit
    omega
  refine ⟨_, ?_, hcapped.record r.resolution (o.seriesKey key) o, ?_⟩
  · rw [record, hopen, if_neg Bool.false_ne_true]
  · rw [Window.record_of_admits hadmits]
    exact tallies_add htallies _ o

/-- With few enough series every observation gets into the cell of its own. -/
theorem recordAll_fits (hopen : r.isShutdown = false) (hempty : r.window = .empty)
    (os : List (SeriesKey × Observation)) (hfit : (History.ofOffered os).series.card ≤ r.maxKeys) :
    ∃ w, r.recordAll os = { r with window := w } ∧ w.Capped r.maxKeys ∧
      Tallies r.resolution (.ofOffered os) w.table := by
  induction os using List.reverseRecOn with
  | nil =>
    refine ⟨.empty, ?_, Window.capped_empty _, tallies_nil _⟩
    rw [← hempty]
    rfl
  | append_singleton os e ih =>
    have hoffered : History.ofOffered (os ++ [e]) =
        History.ofOffered os ++ [(e.2.seriesKey e.1, e.2)] := List.map_append
    rw [hoffered] at hfit ⊢
    have hless := Finset.card_le_card
      (History.series_subset_concat (.ofOffered os) (e.2.seriesKey e.1, e.2))
    obtain ⟨w, hw, hcapped, htallies⟩ := ih (hless.trans hfit)
    rw [recordAll_concat, hw]
    exact record_fits (r := { r with window := w }) hopen hcapped htallies e.1 e.2 hfit

/-- What is in the bucket if the series are few enough. -/
theorem bucketOf_tallies (hopen : r.isShutdown = false) (hempty : r.window = .empty)
    (start : Int64) (os : List (SeriesKey × Observation))
    (hfit : (History.ofOffered os).series.card ≤ r.maxKeys) :
    Tallies r.resolution (.ofOffered os) (r.bucketOf start os).entries := by
  obtain ⟨w, hw, -, htallies⟩ := recordAll_fits hopen hempty os hfit
  rw [bucketOf, hw]
  exact htallies.entries

/-- Two new recorders are told of the same observations in any two orders, of no more series than a
window admits. Then their buckets have the same series, each once, and the cells of a series give
the same answers. -/
theorem bucketOf_perm (accuracy : Binary64) (maxBins maxKeys : Nat) (period : Duration)
    (start start' : Int64) {os ps : List (SeriesKey × Observation)} (hp : os.Perm ps)
    (hfit : (History.ofOffered os).series.card ≤ maxKeys) :
    let r : Recorder := { maxKeys, resolution := .ofSettings accuracy maxBins, period }
    let b := r.bucketOf start os
    let c := r.bucketOf start' ps
    (b.entries.map Prod.fst).Nodup ∧ (c.entries.map Prod.fst).Nodup ∧
      (∀ key, key ∈ b.entries.map Prod.fst ↔ ∃ e ∈ os, e.2.seriesKey e.1 = key) ∧
      (∀ key, key ∈ b.entries.map Prod.fst ↔ key ∈ c.entries.map Prod.fst) ∧
      ∀ key, Option.Rel Cell.Alike (b.get? key) (c.get? key) := by
  intro r b c
  have hr : r.resolution.IsLegal := Resolution.ofSettings_isLegal accuracy maxBins
  have hoffered : (History.ofOffered os).Perm (History.ofOffered ps) := hp.map _
  have hfit' : (History.ofOffered ps).series.card ≤ maxKeys := by
    have hkeys := List.toFinset_eq_of_perm _ _ (hoffered.map Prod.fst)
    rwa [History.series, ← hkeys]
  have hb : Tallies r.resolution (.ofOffered os) b.entries :=
    bucketOf_tallies rfl rfl start os hfit
  have hc : Tallies r.resolution (.ofOffered ps) c.entries :=
    bucketOf_tallies rfl rfl start' ps hfit'
  refine ⟨hb.nodup, hc.nodup, ?_, ?_, ?_⟩
  · intro key
    rw [hb.mem_keys, History.outcomesOf_ne_nil, History.ofOffered, List.map_map, List.mem_map]
    rfl
  · intro key
    rw [hb.mem_keys, hc.mem_keys, History.outcomesOf_ne_nil, History.outcomesOf_ne_nil]
    exact (hoffered.map Prod.fst).mem_iff
  · intro key
    rw [Bucket.get?, Bucket.get?, hb.find?, hc.find?]
    exact History.cell?_alike hr hoffered key

/-- One series that names its status in two ways, and an observation that is offered as overflow. In
reverse the durations lead to other bins. -/
theorem bucketOf_perm_reversed :
    let key : SeriesKey :=
      { service := "web", operation := "get", resource := "", kind := "web", status := 0 }
    let os : List (SeriesKey × Observation) :=
      [(key, { duration := 1000, status := some 200 }), (.overflow, { duration := 7 }),
        (key.withStatus 200, { duration := 1000, status := some 404 }),
        (key, { duration := 1020, status := some 200 }),
        (key.withStatus 200, { duration := Int64.maxValue, isError := true })]
    let resolution := Resolution.ofSettings Resolution.defaultAccuracy 4
    let r : Recorder := { maxKeys := 1, resolution, period := .ofParts 10 0 }
    os.Perm os.reverse ∧ (History.ofOffered os).series.card ≤ 1 ∧
      (r.recordAll os).window.get? (key.withStatus 200) ≠
        (r.recordAll os.reverse).window.get? (key.withStatus 200) ∧
      ∀ key, Option.Rel Cell.Alike ((r.bucketOf 0 os).get? key)
        ((r.bucketOf 0 os.reverse).get? key) := by
  intro key os resolution r
  have hp : os.Perm os.reverse := os.reverse_perm.symm
  have hfit : (History.ofOffered os).series.card ≤ 1 := by decide
  obtain ⟨-, -, -, -, halike⟩ := bucketOf_perm Resolution.defaultAccuracy 4 1 (.ofParts 10 0)
    0 0 hp hfit
  exact ⟨hp, hfit, by decide +kernel, halike⟩

end Recorder

end SpanRollup
