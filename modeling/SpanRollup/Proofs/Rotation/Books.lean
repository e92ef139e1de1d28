import SpanRollup.Proofs.Rotation.Closing
import SpanRollup.Proofs.Series.Accounting

/-!
# Books of a rotation

The books of a rotation list the windows that were closed, with what is known of each, and the
answers to all observations. They say what the counters have to be (`Books.health`). `IsWhole` says
that every observation is in them once.
-/

namespace SpanRollup

open Payload

/-! ## Histories of windows -/

/-- What an observation that was answered so adds to the counters. -/
def Admission.counts : Admission → Health
  | recorded => 0
  | overflowed => { overflowRecords := 1 }
  | rejected => { recordsRejected := 1 }

theorem Admission.sum_counts (admissions : List Admission) :
    (admissions.map counts).sum =
      { recordsRejected := .ofNat (admissions.count .rejected)
        overflowRecords := .ofNat (admissions.count .overflowed) } := by
  induction admissions with
  | nil => rfl
  | cons a admissions ih =>
    rw [List.map_cons, List.sum_cons, ih]
    cases a <;> simp [counts, Health.add_eq, UInt64.ofNat_add, UInt64.add_comm]

namespace History

/-- The history of a window into which observations came that were answered so. -/
def ofWindow (os : List (SeriesKey × Observation)) (admissions : List Admission) : History :=
  (os.zip admissions).filterMap fun x =>
    Recorder.routed (.record x.1.1 x.1.2, .admitted x.2)

variable {os : List (SeriesKey × Observation)} {admissions : List Admission}

theorem ofWindow_append (h : os.length = admissions.length)
    (more : List (SeriesKey × Observation)) (answers : List Admission) :
    ofWindow (os ++ more) (admissions ++ answers) =
      ofWindow os admissions ++ ofWindow more answers := by
  unfold ofWindow
  rw [List.zip_append h, List.filterMap_append]

theorem ofWindow_cons (x : SeriesKey × Observation) (os : List (SeriesKey × Observation))
    (a : Admission) (admissions : List Admission) :
    ofWindow (x :: os) (a :: admissions) =
      (Recorder.routed (.record x.1 x.2, .admitted a)).toList ++ ofWindow os admissions := by
  unfold ofWindow
  rw [List.zip_cons_cons, List.filterMap_cons]
  cases Recorder.routed (.record x.1 x.2, .admitted a) <;> rfl

/-- An observation gets into a cell, or it is rejected. -/
theorem length_ofWindow_add (h : os.length = admissions.length) :
    (ofWindow os admissions).length + admissions.count .rejected = os.length := by
  induction os generalizing admissions with
  | nil => rw [List.eq_nil_of_length_eq_zero h.symm]; rfl
  | cons x os ih =>
    cases admissions with
    | nil => cases h
    | cons a admissions =>
      have ih := ih (Nat.succ_injective h)
      have hone : (Recorder.routed (.record x.1 x.2, .admitted a)).toList.length +
          [a].count .rejected = 1 := by cases a <;> rfl
      rw [ofWindow_cons, List.length_append, List.length_cons, ← List.singleton_append,
        List.count_append]
      omega

theorem length_ofWindow (h : os.length = admissions.length) (hr : .rejected ∉ admissions) :
    (ofWindow os admissions).length = os.length := by
  have := length_ofWindow_add h
  rwa [List.count_eq_zero.mpr hr, Nat.add_zero] at this

/-- The history of late observations. -/
theorem ofWindow_rejected (h : ∀ a ∈ admissions, a = .rejected) : ofWindow os admissions = [] := by
  refine List.filterMap_eq_nil_iff.mpr fun x hx => ?_
  rw [h x.2 (List.of_mem_zip hx).2]
  rfl

end History

/-! ## Books -/

structure Books where
  /-- The windows that were closed with something in them, in order. -/
  closings : List Closing := []
  /-- What is in the open window. -/
  current : History := []
  /-- What is assembled, while the call of the sink has not returned. -/
  inSink : Option Bucket := none
  /-- The answers to all observations. -/
  admissions : List Admission := []
  isShutdown : Bool := false

namespace Books

/-- The counters, but for the texts that were replaced. -/
def health (books : Books) : Health :=
  (books.admissions.map Admission.counts).sum + (books.closings.map Closing.counts).sum

def enter (books : Books) (os : List (SeriesKey × Observation)) (admissions : List Admission) :
    Books :=
  { books with
    current := books.current ++ History.ofWindow os admissions
    admissions := books.admissions ++ admissions }

/-- The open window is closed, and a new one is opened. -/
def close (books : Books) (b : Bucket) (fate : Option Fate) : Books :=
  { books with
    closings :=
      if books.current = [] then books.closings
      else books.closings ++ [{ history := books.current, bucket := b, fate }]
    current := [] }

/-- Every observation is in a window that was closed, in the open one, or was rejected. -/
def IsWhole (books : Books) : Prop :=
  books.admissions.length =
    (books.closings.map (·.history.length)).sum + books.current.length +
      books.admissions.count .rejected

/-- The later books differ only in the fates of windows that were in flight, none of which was
dropped. -/
structure Continues (books later : Books) : Prop where
  lasting : later.closings.map Closing.lasting = books.closings.map Closing.lasting
  current : later.current = books.current
  admissions : later.admissions = books.admissions
  isShutdown : later.isShutdown = books.isShutdown

theorem Continues.refl (books : Books) : books.Continues books := ⟨rfl, rfl, rfl, rfl⟩

theorem Continues.trans {books later last : Books} (h : books.Continues later)
    (h' : later.Continues last) : books.Continues last :=
  ⟨h'.lasting.trans h.lasting, h'.current.trans h.current, h'.admissions.trans h.admissions,
    h'.isShutdown.trans h.isShutdown⟩

theorem Continues.histories {books later : Books} (h : books.Continues later) :
    later.closings.map (·.history) = books.closings.map (·.history) := by
  have := congrArg (List.map Prod.fst) h.lasting
  simpa only [List.map_map, Function.comp_def, Closing.lasting] using this

theorem enter_enter (books : Books) {os : List (SeriesKey × Observation)}
    {admissions : List Admission} (h : os.length = admissions.length)
    (more : List (SeriesKey × Observation)) (answers : List Admission) :
    (books.enter os admissions).enter more answers =
      books.enter (os ++ more) (admissions ++ answers) := by
  simp only [enter, History.ofWindow_append h, List.append_assoc]

theorem health_enter (books : Books) (os : List (SeriesKey × Observation))
    (admissions : List Admission) :
    (books.enter os admissions).health =
      books.health + (admissions.map Admission.counts).sum := by
  simp only [health, enter, List.map_append, List.sum_append]
  abel

theorem histories_close (books : Books) (b : Bucket) (fate : Option Fate) :
    (books.close b fate).closings.map (·.history) =
      books.closings.map (·.history) ++ [books.current].filter (· ≠ []) := by
  unfold close
  split
  · next h => simp [h]
  · next h => simp [h]

theorem IsWhole.enter {books : Books} {os : List (SeriesKey × Observation)}
    {admissions : List Admission} (h : books.IsWhole) (hlen : os.length = admissions.length) :
    (books.enter os admissions).IsWhole := by
  have := History.length_ofWindow_add hlen
  unfold IsWhole at h ⊢
  simp only [Books.enter, List.length_append, List.count_append]
  omega

theorem IsWhole.close {books : Books} (h : books.IsWhole) (b : Bucket) (fate : Option Fate) :
    (books.close b fate).IsWhole := by
  unfold IsWhole at h ⊢
  have hsum := congrArg (fun hs => (hs.map List.length).sum) (books.histories_close b fate)
  simp only [List.map_map, List.map_append, List.sum_append, Function.comp_def] at hsum
  rw [hsum]
  by_cases hcur : books.current = []
  · simpa [Books.close, hcur] using h
  · simpa [Books.close, hcur] using h

theorem Continues.isWhole {books later : Books} (hc : books.Continues later) (h : books.IsWhole) :
    later.IsWhole := by
  unfold IsWhole at h ⊢
  have hsum := congrArg (fun hs => (hs.map List.length).sum) hc.histories
  simp only [List.map_map, Function.comp_def] at hsum
  rw [hsum, hc.current, hc.admissions]
  exact h

end Books

end SpanRollup
