import SpanRollup.Proofs.Series.Capacity

/-!
# Observations that are offered for the overflow cell

The overflow cell is not counted among the series of a window, and there is always room for it. But
a recorder fills the status code of an observation in before the window looks at the key. So an
observation that has one is not taken for an observation of the overflow cell.

- `Window.Receives`: one cell has taken an observation in, and the others have not changed.
- `Recorder.IsExempt`: an observation that is offered for the overflow cell gets there.
- `Recorder.after_catchAll`: the exemption in every run of a recorder, and what is beyond it.
-/

namespace SpanRollup

/-- A cell that takes an observation in is another one. -/
theorem Cell.record_ne_self (c : Cell) (o : Observation) : c.record o ≠ c := by
  intro h
  have hhits : c.hits + 1 = c.hits := congrArg hits h
  exact absurd (UInt64.add_eq_left.mp hhits) (by decide)

/-! ## Cells of a window -/

namespace Window

variable {maxKeys : Nat} {resolution : Resolution} {key key' : SeriesKey} {o : Observation}
  {v w : Window}

/-- The cell of `key` has taken `o` in, and no other cell has changed. -/
def Receives (w v : Window) (resolution : Resolution) (key : SeriesKey) (o : Observation) : Prop :=
  ∀ k, v.get? k =
    if k = key then some (((w.get? k).getD (.empty resolution)).record o) else w.get? k

theorem receives_add (hv : v.table = add w.table resolution key o) :
    w.Receives v resolution key o := by
  intro k
  unfold get?
  rw [hv]
  clear hv
  induction w.table with
  | nil =>
    by_cases hk : k = key
    · subst hk
      simp [add]
    · simp [add, hk, Ne.symm hk]
  | cons e rest ih =>
    obtain ⟨k', c⟩ := e
    unfold add
    by_cases hhead : k' = key
    · rw [if_pos hhead]
      by_cases hk : k = key
      · simp [hk, hhead]
      · simp [hk, hhead, Ne.symm hk]
    · rw [if_neg hhead]
      by_cases hk' : k' = k
      · have hk : k ≠ key := fun hk => hhead (hk'.trans hk)
        simp [hk', hk]
      · simpa [hk'] using ih

/-- An observation gets into one cell only. -/
theorem Receives.key_unique (h : w.Receives v resolution key o)
    (h' : w.Receives v resolution key' o) : key = key' := by
  by_contra hne
  have hsome : w.get? key = some (((w.get? key).getD (.empty resolution)).record o) :=
    calc
      w.get? key = v.get? key := ((h' key).trans (if_neg hne)).symm
      _ = some (((w.get? key).getD (.empty resolution)).record o) := (h key).trans (if_pos rfl)
  cases hcell : w.get? key with
  | none =>
    rw [hcell] at hsome
    cases hsome
  | some c =>
    rw [hcell] at hsome
    exact c.record_ne_self o (Option.some.inj hsome).symm

/-- There is room for the overflow cell, for a series that is there, and below the limit. -/
theorem Capped.record_of_room (h : w.Capped maxKeys) (resolution : Resolution) (o : Observation)
    (hroom : key ∈ w.keys ∨ key = .overflow ∨ w.series.card < maxKeys) :
    ∃ v, w.record maxKeys resolution key o = (v, .recorded, []) ∧
      w.Receives v resolution key o ∧
      v.series = if key = .overflow then w.series else insert key w.series := by
  have hrecord : w.record maxKeys resolution key o = _ :=
    record_of_admits (h.admits_iff.mpr hroom)
  exact ⟨_, hrecord, receives_add rfl, series_add key rfl⟩

/-- Without room the overflow cell takes the observation in. -/
theorem Capped.record_of_full (h : w.Capped maxKeys) (resolution : Resolution) (o : Observation)
    (hkey : key ≠ .overflow) (hnew : key ∉ w.keys) (hfull : w.series.card = maxKeys) :
    ∃ v events, w.record maxKeys resolution key o = (v, .overflowed, events) ∧
      w.Receives v resolution .overflow o ∧ v.series = w.series ∧
      Health.ofEvents events = { overflowRecords := 1 } := by
  have hover := (h.record_overflowed_iff resolution key o).mpr ⟨hkey, hnew, hfull⟩
  obtain ⟨v, admission, events, hrecord, hcases⟩ := w.record_cases maxKeys resolution key o
  rw [hrecord] at hover
  rcases hcases with ⟨hrecorded, -, -⟩ | ⟨-, htable, hevents⟩
  · cases hrecorded.symm.trans hover
  · have hseries : v.series = w.series := (series_add .overflow htable).trans (if_pos rfl)
    exact ⟨v, events, by rw [hrecord, ← hover], receives_add htable, hseries, hevents⟩

end Window

/-! ## Recorders -/

theorem Observation.seriesKey_of_status {o : Observation} {status : UInt16}
    (h : o.status = some status) :
    o.seriesKey .overflow = SeriesKey.overflow.withStatus status := by
  rw [seriesKey, h]
  rfl

theorem SeriesKey.withStatus_eq_overflow {status : UInt16} :
    SeriesKey.overflow.withStatus status = .overflow ↔ status = 0 := by
  constructor
  · exact congrArg SeriesKey.status
  · rintro rfl
    rfl

/-- A status code makes another series of the overflow cell's, unless it is zero. -/
theorem Observation.seriesKey_eq_overflow {o : Observation} :
    o.seriesKey .overflow = .overflow ↔ o.status = none ∨ o.status = some 0 := by
  cases h : o.status with
  | none =>
    rw [seriesKey, h]
    exact iff_of_true rfl (.inl rfl)
  | some status =>
    rw [seriesKey_of_status h, SeriesKey.withStatus_eq_overflow]
    simp

namespace Recorder

open Window (Capped)

variable {r : Recorder} {key : SeriesKey} {o : Observation}

/-- An observation that is offered for the overflow cell is recorded there and nowhere else. It does
not count against the limit, nor as one that overflowed. -/
structure IsExempt (r : Recorder) (o : Observation) : Prop where
  recorded : (r.record .overflow o).2.1 = .recorded
  receives : r.window.Receives (r.record .overflow o).1.window r.resolution .overflow o
  admitted : (r.record .overflow o).1.window.admitted = r.window.admitted
  not_counted : (Health.ofEvents (r.record .overflow o).2.2).overflowRecords = 0

/-- Until the shutdown the open window takes in what the recorder is told. -/
theorem record_open (h : r.isShutdown = false) {v : Window} {admission : Admission}
    {events : List Event}
    (hwindow : r.window.record r.maxKeys r.resolution (o.seriesKey key) o =
      (v, admission, events)) :
    r.record key o = ({ r with window := v }, admission, events) := by
  rw [record, h, if_neg Bool.false_ne_true, hwindow]

/-- What has no status code of its own is exempt. -/
theorem isExempt_of_seriesKey (h : r.isShutdown = false) (hw : r.window.Capped r.maxKeys)
    (hkey : o.seriesKey .overflow = .overflow) : r.IsExempt o := by
  have hcapped := hw.record r.resolution .overflow o
  have hroom : SeriesKey.overflow ∈ r.window.keys ∨ SeriesKey.overflow = .overflow ∨
      r.window.series.card < r.maxKeys := .inr (.inl rfl)
  obtain ⟨v, hrecord, hreceives, hseries⟩ := hw.record_of_room r.resolution o hroom
  rw [hrecord] at hcapped
  rw [if_pos rfl] at hseries
  have hadmitted : v.admitted = r.window.admitted := by
    rw [hcapped.admitted_eq, hseries, hw.admitted_eq]
  have ht : r.record .overflow o = ({ r with window := v }, .recorded, []) :=
    record_open h (by rw [hkey, hrecord])
  constructor <;> rw [ht]
  · exact hreceives
  · exact hadmitted
  · rfl

/-- An observation with a status code is treated as that of a series which has the name of the
overflow cell and that code. If there is no room for such a series, it overflows. -/
theorem record_overflow_of_status (h : r.isShutdown = false) (hw : r.window.Capped r.maxKeys)
    {status : UInt16} (hstatus : o.status = some status) (hne : status ≠ 0) :
    let key := SeriesKey.overflow.withStatus status
    let t := r.record .overflow o
    (key ∈ r.window.keys ∨ r.window.series.card < r.maxKeys →
      t.2.1 = .recorded ∧ r.window.Receives t.1.window r.resolution key o ∧
        t.1.window.admitted = (insert key r.window.series).card ∧ Health.ofEvents t.2.2 = 0) ∧
      (key ∉ r.window.keys → r.window.series.card = r.maxKeys →
        t.2.1 = .overflowed ∧ r.window.Receives t.1.window r.resolution .overflow o ∧
          t.1.window.admitted = r.window.admitted ∧
          Health.ofEvents t.2.2 = { overflowRecords := 1 }) := by
  intro key t
  have hkey : o.seriesKey .overflow = key := Observation.seriesKey_of_status hstatus
  have hover : key ≠ .overflow := mt SeriesKey.withStatus_eq_overflow.mp hne
  have hcapped := hw.record r.resolution key o
  constructor
  · intro hroom
    obtain ⟨v, hrecord, hreceives, hseries⟩ :=
      hw.record_of_room r.resolution o (hroom.imp_right .inr)
    have ht : t = ({ r with window := v }, .recorded, []) :=
      record_open h (by rw [hkey, hrecord])
    rw [hrecord] at hcapped
    rw [if_neg hover] at hseries
    rw [ht]
    exact ⟨rfl, hreceives, by rw [← hseries, hcapped.admitted_eq], rfl⟩
  · intro hnew hfull
    obtain ⟨v, events, hrecord, hreceives, hseries, hevents⟩ :=
      hw.record_of_full r.resolution o hover hnew hfull
    have ht : t = ({ r with window := v }, .overflowed, events) :=
      record_open h (by rw [hkey, hrecord])
    rw [hrecord] at hcapped
    rw [ht]
    exact ⟨rfl, hreceives, by rw [hcapped.admitted_eq, hseries, hw.admitted_eq], hevents⟩

theorem not_isExempt_of_status (h : r.isShutdown = false) (hw : r.window.Capped r.maxKeys)
    {status : UInt16} (hstatus : o.status = some status) (hne : status ≠ 0) :
    ¬r.IsExempt o := by
  intro hexempt
  obtain ⟨hroom, hfull⟩ := record_overflow_of_status h hw hstatus hne
  by_cases hadmits : SeriesKey.overflow.withStatus status ∈ r.window.keys ∨
      r.window.series.card < r.maxKeys
  · have hreceives := (hroom hadmits).2.1
    have hkey := hreceives.key_unique hexempt.receives
    exact hne (SeriesKey.withStatus_eq_overflow.mp hkey)
  · rw [not_or, not_lt] at hadmits
    have hle : r.window.series.card ≤ r.maxKeys := hw.admitted_eq ▸ hw.admitted_le
    have hover := (hfull hadmits.1 (le_antisymm hle hadmits.2)).1
    cases hexempt.recorded.symm.trans hover

/-- Whatever a new recorder has been told, until the shutdown: an observation that is offered for
the overflow cell is exempt from the limit if and only if it has no status code or the code zero.
With any other code it is taken for one of a series that has the name of the overflow cell and the
code. That series is counted as any other is, and there may be no room for it: then the observation
gets into the overflow cell, but it is answered and counted as one that overflowed. -/
theorem after_catchAll (maxKeys : Nat) (resolution : Resolution) (period : Duration)
    {calls : List Call} (hopen : .shutdown ∉ calls) :
    let r := (Run.after { maxKeys, resolution, period } calls).recorder
    (∀ o, r.IsExempt o ↔ o.status = none ∨ o.status = some 0) ∧
      ∀ o status, o.status = some status → status ≠ 0 →
        let key := SeriesKey.overflow.withStatus status
        let t := r.record .overflow o
        (key ∈ r.window.keys ∨ r.window.series.card < maxKeys →
          t.2.1 = .recorded ∧ r.window.Receives t.1.window resolution key o ∧
            t.1.window.admitted = (insert key r.window.series).card ∧
            Health.ofEvents t.2.2 = 0) ∧
          (key ∉ r.window.keys → r.window.series.card = maxKeys →
            t.2.1 = .overflowed ∧ r.window.Receives t.1.window resolution .overflow o ∧
              t.1.window.admitted = r.window.admitted ∧
              Health.ofEvents t.2.2 = { overflowRecords := 1 }) := by
  intro r
  have hcapped := after_isCapped maxKeys resolution period calls
  have hsound := after_isSound maxKeys resolution period calls
  have hmax : r.maxKeys = maxKeys := hcapped.maxKeys_eq
  have hresolution : r.resolution = resolution := hsound.resolution
  have hw : r.window.Capped r.maxKeys := hmax.symm ▸ hcapped.window
  have hshut : r.isShutdown = false := by
    have hiff := hsound.isShutdown
    rw [after_calls] at hiff
    rw [← Bool.not_eq_true, hiff]
    exact hopen
  constructor
  · intro o
    constructor
    · intro hexempt
      cases hstatus : o.status with
      | none => exact .inl rfl
      | some status =>
        by_contra hne
        have hcode : status ≠ 0 := by simpa using hne
        exact not_isExempt_of_status hshut hw hstatus hcode hexempt
    · intro hstatus
      exact isExempt_of_seriesKey hshut hw (Observation.seriesKey_eq_overflow.mpr hstatus)
  · intro o status hstatus hne
    have hcases := record_overflow_of_status hshut hw hstatus hne
    rw [hmax, hresolution] at hcases
    exact hcases

/-- In a full window that was opened by a rotation. -/
theorem after_catchAll_rotated :
    let key : SeriesKey :=
      { service := "web", operation := "get", resource := "/", kind := "web", status := 200 }
    let calls : List Call :=
      [.record .overflow { duration := 5 }, .rotate 0, .record key { duration := 5 }]
    let r :=
      (Run.after { maxKeys := 1, resolution := default, period := .millisecond } calls).recorder
    let o : Observation := { duration := 5, isError := true, status := some 500 }
    .shutdown ∉ calls ∧ r.IsExempt { duration := -1, isTopLevel := true } ∧
      r.IsExempt { o with status := some 0 } ∧ ¬r.IsExempt o ∧
      SeriesKey.overflow.withStatus 500 ∉ r.window.keys ∧ r.window.series.card = 1 ∧
      (r.record .overflow o).2.1 = .overflowed := by
  intro key calls r o
  have hopen : .shutdown ∉ calls := by decide
  have hkeys : SeriesKey.overflow.withStatus 500 ∉ r.window.keys := by decide
  have hfull : r.window.series.card = 1 := by decide
  obtain ⟨hexempt, hseries⟩ := after_catchAll 1 default .millisecond hopen
  have hover := (hseries o 500 rfl (by decide)).2 hkeys hfull
  refine ⟨hopen, (hexempt _).mpr (.inl rfl), (hexempt _).mpr (.inr rfl), ?_, hkeys, hfull, hover.1⟩
  rw [hexempt]
  decide

/-- In an empty window with room for one series, an observation with the status code 500 that is
offered for the overflow cell does not get there but takes the room, and the next one of an ordinary
series overflows. -/
theorem record_overflow_takes_room :
    let r : Recorder := { maxKeys := 1, resolution := default, period := .millisecond }
    let o : Observation := { duration := 5, status := some 500 }
    let later := (r.record .overflow o).1
    let key : SeriesKey :=
      { service := "web", operation := "get", resource := "/", kind := "web", status := 200 }
    later.window.get? .overflow = none ∧ later.window.admitted = 1 ∧
      (later.record key { duration := 5 }).2.1 = .overflowed ∧ ¬r.IsExempt o := by
  intro r o later key
  have hadmitted : later.window.admitted = 1 := by decide
  refine ⟨by decide, hadmitted, by decide, ?_⟩
  intro hexempt
  exact absurd (hadmitted.symm.trans hexempt.admitted) (by decide)

end Recorder

end SpanRollup
