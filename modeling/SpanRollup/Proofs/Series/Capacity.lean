import SpanRollup.Proofs.Series.Accounting

/-!
# Windows take a limited number of series

A window counts the series that it has admitted beside the table that has their cells. Both agree,
and the limit is kept, whatever is recorded. The overflow cell is not counted.

- `Window.series`: the series that have a cell of their own.
- `Window.Capped`: the count is that of the series, and it is within the limit.
- `Window.Grows`: what is there stays there, and nothing comes to a full window.
- `Recorder.after_capped`: the limit in every run of a recorder.
-/

namespace SpanRollup

/-! ## Windows -/

namespace Window

/-- The series that have a cell, the overflow cell among them. -/
def keys (w : Window) : List SeriesKey := w.table.map Prod.fst

/-- The series that have a cell of their own. -/
def series (w : Window) : Finset SeriesKey := w.keys.toFinset.erase .overflow

structure Capped (maxKeys : Nat) (w : Window) : Prop where
  nodup : w.keys.Nodup
  admitted_eq : w.admitted = w.series.card
  admitted_le : w.admitted ≤ maxKeys

variable {maxKeys : Nat} {resolution : Resolution} {key : SeriesKey} {o : Observation}
  {u v w : Window}

theorem mem_series : key ∈ w.series ↔ key ≠ .overflow ∧ key ∈ w.keys := by
  rw [series, Finset.mem_erase, List.mem_toFinset]

theorem contains_iff : w.contains key = true ↔ key ∈ w.keys := by
  simp [contains, keys]

theorem isOverflow_iff : key.isOverflow = true ↔ key = .overflow := decide_eq_true_iff

theorem capped_empty (maxKeys : Nat) : Capped maxKeys empty :=
  ⟨List.nodup_nil, rfl, Nat.zero_le _⟩

/-- An observation gets into the cell of its own series unless the series is new to a window that
has all that it may admit. -/
theorem Capped.admits_iff (h : w.Capped maxKeys) :
    w.admits maxKeys key = true ↔ key ∈ w.keys ∨ key = .overflow ∨ w.series.card < maxKeys := by
  rw [admits, Bool.or_eq_true, Bool.or_eq_true, contains_iff, isOverflow_iff, decide_eq_true_iff,
    h.admitted_eq, or_assoc]

/-- What is admitted as new finds room. -/
theorem Capped.room_of_new (h : w.Capped maxKeys) (hadmits : w.admits maxKeys key = true)
    (hnew : key ∉ w.keys ∧ key ≠ .overflow) : w.series.card < maxKeys := by
  rcases h.admits_iff.mp hadmits with hmem | hover | hroom
  · exact absurd hmem hnew.1
  · exact absurd hover hnew.2
  · exact hroom

theorem Capped.admits_eq_false_iff (h : w.Capped maxKeys) :
    w.admits maxKeys key = false ↔
      key ≠ .overflow ∧ key ∉ w.keys ∧ w.series.card = maxKeys := by
  have hle : w.series.card ≤ maxKeys := h.admitted_eq ▸ h.admitted_le
  rw [← Bool.not_eq_true, h.admits_iff, not_or, not_or, not_lt]
  constructor
  · rintro ⟨hnew, hkey, hfull⟩
    exact ⟨hkey, hnew, le_antisymm hle hfull⟩
  · rintro ⟨hkey, hnew, hfull⟩
    exact ⟨hnew, hkey, hfull.ge⟩

/-! ### Recording -/

theorem record_of_admits (h : w.admits maxKeys key = true) :
    w.record maxKeys resolution key o =
      ({ w with
          table := add w.table resolution key o
          admitted := if !w.contains key && !key.isOverflow then w.admitted + 1 else w.admitted },
        .recorded, []) := if_pos h

theorem record_of_not_admits (resolution : Resolution) (o : Observation)
    (h : w.admits maxKeys key = false) :
    ∃ events, w.record maxKeys resolution key o =
      ({ w with table := add w.table resolution .overflow o, fullReported := true },
        .overflowed, events) := by
  unfold record
  rw [h, if_neg Bool.false_ne_true]
  exact ⟨_, rfl⟩

/-- When an observation goes to the overflow cell in place of its own. -/
theorem Capped.record_overflowed_iff (h : w.Capped maxKeys) (resolution : Resolution)
    (key : SeriesKey) (o : Observation) :
    (w.record maxKeys resolution key o).2.1 = .overflowed ↔
      key ≠ .overflow ∧ key ∉ w.keys ∧ w.series.card = maxKeys := by
  rw [← h.admits_eq_false_iff]
  cases hadmits : w.admits maxKeys key with
  | true =>
    rw [record_of_admits hadmits]
    exact iff_of_false nofun nofun
  | false =>
    obtain ⟨events, hrecord⟩ := record_of_not_admits resolution o hadmits
    rw [hrecord]
    exact iff_of_true rfl rfl

/-- The series after an observation was added to the cell of `key`. -/
theorem series_add (key : SeriesKey) (hw : v.table = add w.table resolution key o) :
    v.series = if key = .overflow then w.series else insert key w.series := by
  ext k
  have hkeys : k ∈ v.keys ↔ k ∈ w.keys ∨ k = key := by
    rw [keys, hw, keys_add]
    show k ∈ (if key ∈ w.keys then w.keys else w.keys ++ [key]) ↔ _
    split
    · rename_i hmem
      exact (or_iff_left_of_imp fun hk => hk ▸ hmem).symm
    · rw [List.mem_append, List.mem_singleton]
  rw [mem_series, hkeys]
  split
  · rename_i hkey
    rw [mem_series, hkey, and_or_left, or_iff_left fun h => h.1 h.2]
  · rename_i hkey
    rw [Finset.mem_insert, mem_series, and_or_left, or_comm]
    exact or_congr_left (and_iff_right_of_imp fun hk => hk ▸ hkey)

theorem nodup_add (h : w.keys.Nodup) (hw : v.table = add w.table resolution key o) :
    v.keys.Nodup := by
  rw [keys, hw, keys_add]
  split
  · exact h
  · rename_i hnew
    exact List.concat_eq_append ▸ h.concat hnew

/-- What is no new series of its own changes nothing. -/
theorem series_add_of_not_new (hnew : ¬(key ∉ w.keys ∧ key ≠ .overflow))
    (hw : v.table = add w.table resolution key o) : v.series = w.series := by
  rw [series_add key hw]
  split
  · rfl
  · rename_i hkey
    have hmem : key ∈ w.keys := by
      by_contra hmem
      exact hnew ⟨hmem, hkey⟩
    exact Finset.insert_eq_of_mem (mem_series.mpr ⟨hkey, hmem⟩)

theorem isNew_iff :
    (!w.contains key && !key.isOverflow) = true ↔ key ∉ w.keys ∧ key ≠ .overflow := by
  rw [Bool.and_eq_true, Bool.not_eq_true', Bool.not_eq_true', ← Bool.not_eq_true,
    ← Bool.not_eq_true, contains_iff, isOverflow_iff]

/-- The count stays that of the series, and within the limit. -/
theorem Capped.record (h : w.Capped maxKeys) (resolution : Resolution) (key : SeriesKey)
    (o : Observation) : (w.record maxKeys resolution key o).1.Capped maxKeys := by
  cases hadmits : w.admits maxKeys key with
  | true =>
    rw [record_of_admits hadmits]
    by_cases hnew : key ∉ w.keys ∧ key ≠ .overflow
    · have hroom := h.room_of_new hadmits hnew
      have hcard : (insert key w.series).card = w.series.card + 1 :=
        Finset.card_insert_of_notMem fun hmem => hnew.1 (mem_series.mp hmem).2
      rw [if_pos (isNew_iff.mpr hnew)]
      refine ⟨nodup_add h.nodup rfl, ?_, (Nat.add_le_add_right h.admitted_eq.le 1).trans hroom⟩
      rw [series_add (w := w) key rfl, if_neg hnew.2, hcard]
      exact congrArg (· + 1) h.admitted_eq
    · rw [if_neg (mt isNew_iff.mp hnew)]
      refine ⟨nodup_add h.nodup rfl, ?_, h.admitted_le⟩
      rw [series_add_of_not_new (w := w) hnew rfl]
      exact h.admitted_eq
  | false =>
    obtain ⟨events, hrecord⟩ := record_of_not_admits resolution o hadmits
    rw [hrecord]
    refine ⟨nodup_add h.nodup rfl, ?_, h.admitted_le⟩
    rw [series_add_of_not_new (w := w) (fun hnew => hnew.2 rfl) rfl]
    exact h.admitted_eq

/-! ### What stays -/

/-- The window `v` comes of `w` by observations. -/
structure Grows (maxKeys : Nat) (w v : Window) : Prop where
  keys_subset : w.keys ⊆ v.keys
  full : w.series.card = maxKeys → v.series = w.series

theorem Grows.refl (maxKeys : Nat) (w : Window) : Grows maxKeys w w :=
  ⟨List.Subset.refl _, fun _ => rfl⟩

theorem Grows.trans (h : Grows maxKeys w v) (h' : Grows maxKeys v u) : Grows maxKeys w u := by
  refine ⟨List.Subset.trans h.keys_subset h'.keys_subset, ?_⟩
  intro hfull
  have hseries := h.full hfull
  rw [h'.full (hseries ▸ hfull), hseries]

/-- Besides the overflow cell there is one cell for each series that was admitted. -/
theorem Capped.length_own (h : w.Capped maxKeys) :
    (w.table.filter (·.1 ≠ .overflow)).length = w.series.card := by
  have hmap : ((w.table.filter (·.1 ≠ .overflow)).map Prod.fst) =
      w.keys.filter (· ≠ .overflow) := by
    rw [keys, List.filter_map]
    rfl
  rw [← List.length_map (f := Prod.fst), hmap,
    ← List.toFinset_card_of_nodup (h.nodup.filter _), List.toFinset_filter]
  congr 1
  ext k
  rw [mem_series, Finset.mem_filter, List.mem_toFinset, decide_eq_true_iff, and_comm]

theorem Capped.length_table (h : w.Capped maxKeys) : w.table.length ≤ w.series.card + 1 := by
  have hcard : w.table.length = w.keys.toFinset.card := by
    rw [List.toFinset_card_of_nodup h.nodup, keys, List.length_map]
  have := Finset.pred_card_le_card_erase (s := w.keys.toFinset) (a := .overflow)
  rw [hcard, series]
  omega

end Window

/-- Few enough cells are in the bucket. -/
structure Bucket.IsCapped (maxKeys : Nat) (b : Bucket) : Prop where
  size_le : b.size ≤ maxKeys + 1
  own_le : (b.entries.filter (·.1 ≠ .overflow)).length ≤ maxKeys

theorem Window.Capped.isCapped {maxKeys : Nat} {w : Window} (h : w.Capped maxKeys)
    (start duration : Int64) : Bucket.IsCapped maxKeys ⟨start, duration, w.entries⟩ := by
  have hperm : w.entries.Perm w.table := List.mergeSort_perm _ _
  have hcard : w.series.card ≤ maxKeys := h.admitted_eq ▸ h.admitted_le
  constructor
  · rw [Bucket.size, hperm.length_eq]
    exact h.length_table.trans (Nat.succ_le_succ hcard)
  · rw [(hperm.filter _).length_eq, h.length_own]
    exact hcard

/-! ## Runs of recorders -/

namespace Recorder

open Window (Grows)

variable {r : Recorder} {run : Run}

/-- What the limit means for a run. -/
structure Run.IsCapped (maxKeys : Nat) (run : Run) : Prop where
  maxKeys_eq : run.recorder.maxKeys = maxKeys
  window : run.recorder.window.Capped maxKeys
  buckets : ∀ b ∈ run.trace.filterMap closedBucket, b.IsCapped maxKeys

/-- What a recorder does with its window when it is told of an observation. -/
theorem record_window (r : Recorder) (key : SeriesKey) (o : Observation) :
    (r.record key o).1.maxKeys = r.maxKeys ∧
      ((r.record key o).1.window = r.window ∨
        (r.record key o).1.window =
          (r.window.record r.maxKeys r.resolution (o.seriesKey key) o).1) := by
  cases h : r.isShutdown with
  | true =>
    rw [record_rejected h]
    exact ⟨rfl, .inl rfl⟩
  | false =>
    rw [record, h, if_neg Bool.false_ne_true]
    exact ⟨rfl, .inr rfl⟩

theorem next_isCapped {maxKeys : Nat} (h : run.IsCapped maxKeys) (c : Call) :
    (run.next c).IsCapped maxKeys := by
  have hbuckets (step : Call × Answer) (hstep : ∀ b ∈ closedBucket step, b.IsCapped maxKeys) :
      ∀ b ∈ (run.trace ++ [step]).filterMap closedBucket, b.IsCapped maxKeys := by
    intro b hb
    rw [filterMap_concat, List.mem_append, Option.mem_toList] at hb
    exact hb.elim (h.buckets b) (hstep b)
  cases c with
  | record key o =>
    obtain ⟨hmax, hwindow⟩ := record_window run.recorder key o
    refine ⟨hmax.trans h.maxKeys_eq, ?_, hbuckets _ nofun⟩
    show (run.recorder.record key o).1.window.Capped maxKeys
    rcases hwindow with hsame | hrecord
    · rw [hsame]
      exact h.window
    · rw [hrecord, h.maxKeys_eq]
      exact h.window.record _ _ _
  | rotate start =>
    refine ⟨h.maxKeys_eq, Window.capped_empty maxKeys, hbuckets _ ?_⟩
    rintro b ⟨rfl⟩
    exact h.window.isCapped _ _
  | shutdown => exact ⟨h.maxKeys_eq, h.window, hbuckets _ nofun⟩

theorem after_isCapped (maxKeys : Nat) (resolution : Resolution) (period : Duration)
    (calls : List Call) :
    (Run.after { maxKeys, resolution, period } calls).IsCapped maxKeys := by
  induction calls using List.reverseRecOn with
  | nil => exact ⟨rfl, Window.capped_empty maxKeys, nofun⟩
  | append_singleton calls c ih =>
    rw [Run.after_concat]
    exact next_isCapped ih c

/-- When a recorder answers that an observation went to the overflow cell. -/
theorem record_overflowed_iff (h : r.window.Capped r.maxKeys) (key : SeriesKey)
    (o : Observation) :
    (r.record key o).2.1 = .overflowed ↔
      r.isShutdown = false ∧ o.seriesKey key ≠ .overflow ∧ o.seriesKey key ∉ r.window.keys ∧
        r.window.series.card = r.maxKeys := by
  cases hshut : r.isShutdown with
  | true =>
    rw [record_rejected hshut]
    exact iff_of_false nofun nofun
  | false =>
    rw [record, hshut, if_neg Bool.false_ne_true,
      ← h.record_overflowed_iff r.resolution (o.seriesKey key) o]
    exact (and_iff_right rfl).symm

end Recorder

end SpanRollup
