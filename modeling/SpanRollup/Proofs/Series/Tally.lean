import Mathlib
import SpanRollup.Series.Recorder

/-!
# Windows tally what is routed to them

A history lists observations with the series into whose cells they got. `Tallies` says that cells
hold a history, series by series and in order. Main statements: `tallies_add`, one observation more;
`Tallies.sum_length`, no observation is in two cells or in none.
-/

namespace SpanRollup

abbrev History := List (SeriesKey × Observation)

namespace History

/-- What was routed to a series, in order. -/
def outcomesOf (history : History) (key : SeriesKey) : List Observation :=
  (history.filter (·.1 = key)).map (·.2)

/-- What the cell of a series has to be, if there is to be one. -/
def cell? (history : History) (resolution : Resolution) (key : SeriesKey) : Option Cell :=
  match history.outcomesOf key with
  | [] => none
  | o :: os => some ((Cell.empty resolution).recordAll (o :: os))

variable {history : History} {key k : SeriesKey} {o : Observation}

theorem outcomesOf_concat_self (history : History) (key : SeriesKey) (o : Observation) :
    outcomesOf (history ++ [(key, o)]) key = history.outcomesOf key ++ [o] := by
  simp [outcomesOf]

theorem outcomesOf_concat_of_ne (h : k ≠ key) :
    outcomesOf (history ++ [(k, o)]) key = history.outcomesOf key := by
  simp [outcomesOf, h]

theorem length_outcomesOf (history : History) (key : SeriesKey) :
    (history.outcomesOf key).length = (history.map Prod.fst).count key := by
  simp only [outcomesOf, List.length_map, List.count_eq_length_filter, List.filter_map]
  rfl

theorem outcomesOf_ne_nil : history.outcomesOf key ≠ [] ↔ key ∈ history.map Prod.fst := by
  rw [← List.length_pos_iff, length_outcomesOf, List.count_pos_iff]

end History

/-! ## Cells -/

namespace Cell

theorem recordAll_concat (c : Cell) (os : List Observation) (o : Observation) :
    c.recordAll (os ++ [o]) = (c.recordAll os).record o := by
  simp [recordAll]

theorem recordAll_hits (c : Cell) (os : List Observation) :
    (c.recordAll os).hits = c.hits + UInt64.ofNat os.length := by
  induction os generalizing c with
  | nil => simp [recordAll]
  | cons o os ih =>
    have h : c.recordAll (o :: os) = (c.record o).recordAll os := rfl
    rw [h, ih, List.length_cons, UInt64.ofNat_add]
    simp only [record]
    ac_rfl

end Cell

/-! ## Tables -/

/-- The cells of a history: one for each series in it, with what was routed to it. -/
structure Tallies (resolution : Resolution) (history : History) (cells : List (SeriesKey × Cell)) :
    Prop where
  nodup : (cells.map Prod.fst).Nodup
  mem_keys : ∀ key, key ∈ cells.map Prod.fst ↔ history.outcomesOf key ≠ []
  cell : ∀ e ∈ cells, e.2 = (Cell.empty resolution).recordAll (history.outcomesOf e.1)

namespace Window

variable {table : List (SeriesKey × Cell)} {resolution : Resolution} {key : SeriesKey}
  {o : Observation}

/-- The keys after an observation: a new one comes last. -/
theorem keys_add (table : List (SeriesKey × Cell)) (resolution : Resolution) (key : SeriesKey)
    (o : Observation) :
    (add table resolution key o).map Prod.fst =
      if key ∈ table.map Prod.fst then table.map Prod.fst else table.map Prod.fst ++ [key] := by
  induction table with
  | nil => rfl
  | cons e rest ih =>
    obtain ⟨k, c⟩ := e
    unfold add
    by_cases hk : k = key
    · subst hk
      simp
    · rw [if_neg hk, List.map_cons, ih]
      by_cases hmem : key ∈ rest.map Prod.fst
      · simp [hmem]
      · simp [hmem, Ne.symm hk]

/-- The cell of the observation takes it in, and all others stay as they are. -/
theorem mem_add {e : SeriesKey × Cell} (hnodup : (table.map Prod.fst).Nodup)
    (he : e ∈ add table resolution key o) :
    (e.1 ≠ key ∧ e ∈ table) ∨
      e.1 = key ∧ ((∃ c, (key, c) ∈ table ∧ e.2 = c.record o) ∨
        key ∉ table.map Prod.fst ∧ e.2 = (Cell.empty resolution).record o) := by
  induction table with
  | nil =>
    cases List.mem_singleton.mp he
    exact .inr ⟨rfl, .inr ⟨List.not_mem_nil, rfl⟩⟩
  | cons head rest ih =>
    obtain ⟨k, c⟩ := head
    obtain ⟨hnew, hrest⟩ := List.nodup_cons.mp hnodup
    unfold add at he
    by_cases hk : k = key
    · subst hk
      rw [if_pos rfl] at he
      rcases List.mem_cons.mp he with rfl | hmem
      · exact .inr ⟨rfl, .inl ⟨c, List.mem_cons_self, rfl⟩⟩
      · refine .inl ⟨?_, List.mem_cons_of_mem _ hmem⟩
        intro hkey
        have hmap := List.mem_map_of_mem (f := Prod.fst) hmem
        rw [hkey] at hmap
        exact hnew hmap
    · rw [if_neg hk] at he
      rcases List.mem_cons.mp he with rfl | he
      · exact .inl ⟨hk, List.mem_cons_self⟩
      · rcases ih hrest he with ⟨hne, hmem⟩ | ⟨heq, ⟨c', hmem, hc⟩ | ⟨hnot, hc⟩⟩
        · exact .inl ⟨hne, List.mem_cons_of_mem _ hmem⟩
        · exact .inr ⟨heq, .inl ⟨c', List.mem_cons_of_mem _ hmem, hc⟩⟩
        · refine .inr ⟨heq, .inr ⟨?_, hc⟩⟩
          rw [List.map_cons, List.mem_cons, not_or]
          exact ⟨Ne.symm hk, hnot⟩

end Window

theorem tallies_nil (resolution : Resolution) : Tallies resolution [] [] :=
  ⟨List.nodup_nil, by simp [History.outcomesOf], by simp⟩

theorem tallies_add {resolution : Resolution} {history : History}
    {table : List (SeriesKey × Cell)} (h : Tallies resolution history table) (key : SeriesKey)
    (o : Observation) :
    Tallies resolution (history ++ [(key, o)]) (Window.add table resolution key o) := by
  refine ⟨?_, fun k => ?_, fun e he => ?_⟩
  · rw [Window.keys_add]
    split
    · exact h.nodup
    · next hnew => exact List.concat_eq_append ▸ h.nodup.concat hnew
  · rw [Window.keys_add, History.outcomesOf_ne_nil, List.map_append, List.mem_append,
      ← History.outcomesOf_ne_nil, ← h.mem_keys]
    split
    · next hmem =>
      simp only [List.map_cons, List.map_nil, List.mem_singleton, iff_self_or]
      rintro rfl
      exact hmem
    · rw [List.mem_append]
      rfl
  · rcases Window.mem_add h.nodup he with ⟨hne, hmem⟩ | ⟨heq, ⟨c, hmem, hc⟩ | ⟨hnot, hc⟩⟩
    · rw [History.outcomesOf_concat_of_ne (Ne.symm hne)]
      exact h.cell e hmem
    · rw [heq, History.outcomesOf_concat_self, Cell.recordAll_concat, hc]
      exact congrArg (·.record o) (h.cell _ hmem)
    · have hnil : history.outcomesOf key = [] := by
        rw [h.mem_keys] at hnot
        exact not_not.mp hnot
      rw [heq, History.outcomesOf_concat_self, hnil, hc]
      rfl

namespace Tallies

variable {resolution : Resolution} {history : History} {cells more : List (SeriesKey × Cell)}

/-- The order of the cells does not matter. -/
theorem perm (h : Tallies resolution history cells) (hp : more.Perm cells) :
    Tallies resolution history more :=
  ⟨(hp.map Prod.fst).nodup_iff.mpr h.nodup,
    fun key => ((hp.map Prod.fst).mem_iff).trans (h.mem_keys key),
    fun e he => h.cell e (hp.mem_iff.mp he)⟩

theorem entries {w : Window} (h : Tallies resolution history w.table) :
    Tallies resolution history w.entries := h.perm (List.mergeSort_perm _ _)

theorem outcomesOf_ne_nil (h : Tallies resolution history cells) {e : SeriesKey × Cell}
    (he : e ∈ cells) : history.outcomesOf e.1 ≠ [] :=
  (h.mem_keys e.1).mp (List.mem_map_of_mem he)

/-- A cell counts what was routed to its series, which is something. -/
theorem hits (h : Tallies resolution history cells) {e : SeriesKey × Cell} (he : e ∈ cells) :
    0 < (history.outcomesOf e.1).length ∧
      e.2.hits = UInt64.ofNat (history.outcomesOf e.1).length := by
  refine ⟨List.length_pos_iff.mpr (h.outcomesOf_ne_nil he), ?_⟩
  rw [h.cell e he, Cell.recordAll_hits]
  simp [Cell.empty]

/-- No observation is counted twice, and none is left out. -/
theorem sum_length (h : Tallies resolution history cells) :
    (cells.map fun e => (history.outcomesOf e.1).length).sum = history.length := by
  have hp : (cells.map Prod.fst).Perm (history.map Prod.fst).dedup := by
    refine (List.perm_ext_iff_of_nodup h.nodup (List.nodup_dedup _)).mpr fun key => ?_
    rw [h.mem_keys, History.outcomesOf_ne_nil, List.mem_dedup]
  have hsum := List.sum_map_count_dedup_eq_length (history.map Prod.fst)
  rw [List.length_map] at hsum
  rw [← hsum, ← (hp.map fun key => (history.map Prod.fst).count key).sum_nat, List.map_map]
  simp only [Function.comp_def, History.length_outcomesOf]

theorem eq_nil_iff (h : Tallies resolution history cells) : cells = [] ↔ history = [] := by
  constructor
  · rintro rfl
    exact List.eq_nil_of_length_eq_zero h.sum_length.symm
  · rintro rfl
    refine List.eq_nil_iff_forall_not_mem.mpr fun e he => ?_
    exact h.outcomesOf_ne_nil he rfl

/-- The hits of all cells, as they are counted: without the multiples of 2^64. -/
theorem sum_hits (h : Tallies resolution history cells) :
    (cells.map (·.2.hits)).sum = UInt64.ofNat history.length := by
  have hmap : cells.map (·.2.hits) =
      cells.map fun e => UInt64.ofNat (history.outcomesOf e.1).length :=
    List.map_congr_left fun e he => (h.hits he).2
  rw [hmap, ← h.sum_length]
  clear hmap h
  induction cells with
  | nil => rfl
  | cons e es ih =>
    rw [List.map_cons, List.sum_cons, ih, List.map_cons, List.sum_cons, UInt64.ofNat_add]

/-- Looking a series up finds its cell. -/
theorem find? (h : Tallies resolution history cells) (key : SeriesKey) :
    (cells.find? (·.1 = key)).map Prod.snd = history.cell? resolution key := by
  cases hf : cells.find? (·.1 = key) with
  | none =>
    have hnot : key ∉ cells.map Prod.fst := by
      intro hmem
      obtain ⟨e, he, rfl⟩ := List.mem_map.mp hmem
      simpa using List.find?_eq_none.mp hf e he
    rw [h.mem_keys, not_not] at hnot
    simp only [History.cell?, hnot, Option.map_none]
  | some e =>
    have hkey : e.1 = key := by simpa using List.find?_some hf
    have hmem := List.mem_of_find?_eq_some hf
    have hcell := h.cell e hmem
    have hne := h.outcomesOf_ne_nil hmem
    rw [hkey] at hcell hne
    unfold History.cell?
    cases ho : history.outcomesOf key with
    | nil => exact absurd ho hne
    | cons o os => rw [Option.map_some, hcell, ho]

end Tallies

end SpanRollup
