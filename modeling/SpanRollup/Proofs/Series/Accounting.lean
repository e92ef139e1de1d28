import SpanRollup.Proofs.Health
import SpanRollup.Proofs.Series.Tally

/-!
# Recorders account for every observation

A run keeps a trace: what the recorder was told, and what it answered. A `Ledger` is made from the
trace alone; it has the history of each window that was closed, and of the open one. Main
statement: `after_accounts`, the buckets of a run tally the histories of its ledger.
-/

namespace SpanRollup

/-! ## Single observations -/

/-- A window takes every observation in, under its own series or under the catch-all. -/
theorem Window.record_cases (w : Window) (maxKeys : Nat) (resolution : Resolution)
    (key : SeriesKey) (o : Observation) :
    ∃ window admission events, w.record maxKeys resolution key o = (window, admission, events) ∧
      (admission = .recorded ∧ window.table = add w.table resolution key o ∧ events = [] ∨
        admission = .overflowed ∧ window.table = add w.table resolution .overflow o ∧
          Health.ofEvents events = { overflowRecords := 1 }) := by
  unfold Window.record
  split
  · exact ⟨_, _, _, rfl, .inl ⟨rfl, rfl, rfl⟩⟩
  · refine ⟨_, _, _, rfl, .inr ⟨rfl, rfl, ?_⟩⟩
    split <;> rfl

namespace Recorder

/-! ## Runs -/

/-- What a recorder can be told. -/
inductive Call where
  | record (key : SeriesKey) (o : Observation)
  | rotate (start : Int64)
  | shutdown
  deriving DecidableEq

inductive Answer where
  | admitted (a : Admission)
  | closed (b : Bucket)
  | done
  deriving DecidableEq

structure Run where
  recorder : Recorder
  /-- What the recorder was told and what it answered, in order. -/
  trace : List (Call × Answer) := []
  events : List Event := []

namespace Run

def next (run : Run) : Call → Run
  | .record key o =>
    let (recorder, admission, events) := run.recorder.record key o
    { recorder
      trace := run.trace ++ [(.record key o, .admitted admission)]
      events := run.events ++ events }
  | .rotate start =>
    let (recorder, bucket, events) := run.recorder.rotate start
    { recorder
      trace := run.trace ++ [(.rotate start, .closed bucket)]
      events := run.events ++ events }
  | .shutdown =>
    { run with
      recorder := run.recorder.shutdown
      trace := run.trace ++ [(.shutdown, .done)] }

/-- The run of a recorder that is told `calls`. -/
def after (r : Recorder) (calls : List Call) : Run := calls.foldl next { recorder := r }

theorem after_concat (r : Recorder) (calls : List Call) (c : Call) :
    after r (calls ++ [c]) = (after r calls).next c := by
  simp only [after, List.foldl_append, List.foldl_cons, List.foldl_nil]

end Run

/-! ## Ledgers -/

/-- An observation that was taken in, and the series into whose cell it got. -/
def routed : Call × Answer → Option (SeriesKey × Observation)
  | (.record key o, .admitted .recorded) => some (o.seriesKey key, o)
  | (.record _ o, .admitted .overflowed) => some (.overflow, o)
  | _ => none

def closedBucket : Call × Answer → Option Bucket
  | (_, .closed b) => some b
  | _ => none

/-- After the shutdown nothing changes but what is reported. -/
theorem record_rejected {r : Recorder} (h : r.isShutdown = true) (key : SeriesKey)
    (o : Observation) : r.record key o = (r, .rejected, [.rejected key]) := by
  rw [record, if_pos h]

/-- An observation that is taken in is added to the cell of the series it is routed to. -/
theorem record_taken {r : Recorder} (h : r.isShutdown = false) (key : SeriesKey)
    (o : Observation) :
    ∃ window admission events k,
      r.record key o = ({ r with window }, admission, events) ∧
      routed (.record key o, .admitted admission) = some (k, o) ∧
      window.table = Window.add r.window.table r.resolution k o ∧
      (admission = .recorded ∧ Health.ofEvents events = 0 ∨
        admission = .overflowed ∧ Health.ofEvents events = { overflowRecords := 1 }) := by
  obtain ⟨window, admission, events, hw, hcases⟩ :=
    r.window.record_cases r.maxKeys r.resolution (o.seriesKey key) o
  have hrecord : r.record key o = ({ r with window }, admission, events) := by
    simp only [record, h, Bool.false_eq_true, if_false, hw]
  rcases hcases with ⟨rfl, ht, rfl⟩ | ⟨rfl, ht, he⟩
  · exact ⟨_, _, _, _, hrecord, rfl, ht, .inl ⟨rfl, rfl⟩⟩
  · exact ⟨_, _, _, _, hrecord, rfl, ht, .inr ⟨rfl, he⟩⟩

structure Ledger where
  /-- The histories of the windows that were closed, in order. -/
  closed : List History := []
  /-- The history of the open window. -/
  current : History := []

namespace Ledger

def enter (l : Ledger) (step : Call × Answer) : Ledger :=
  match step.1 with
  | .rotate _ => { closed := l.closed ++ [l.current] }
  | .record _ _ | .shutdown => { l with current := l.current ++ (routed step).toList }

def ofTrace (trace : List (Call × Answer)) : Ledger := trace.foldl enter {}

theorem ofTrace_concat (trace : List (Call × Answer)) (step : Call × Answer) :
    ofTrace (trace ++ [step]) = (ofTrace trace).enter step := by
  simp only [ofTrace, List.foldl_append, List.foldl_cons, List.foldl_nil]

end Ledger

/-- The answer to an observation, which depends only on whether the shutdown came before. -/
def Fits (before : List (Call × Answer)) (step : Call × Answer) : Prop :=
  ∀ key o, step.1 = .record key o →
    if .shutdown ∈ before.map Prod.fst then step.2 = .admitted .rejected
    else step.2 = .admitted .recorded ∨ step.2 = .admitted .overflowed

/-- How often an answer was given, as a counter has it. -/
def given (answer : Answer) (trace : List (Call × Answer)) : UInt64 :=
  UInt64.ofNat (trace.countP (·.2 = answer))

theorem given_concat_self (answer : Answer) (trace : List (Call × Answer)) (c : Call) :
    given answer (trace ++ [(c, answer)]) = given answer trace + 1 := by
  unfold given
  rw [List.countP_append, UInt64.ofNat_add, List.countP_singleton]
  simp

/-- Another answer does not count. -/
theorem given_concat_of_ne {answer other : Answer} (h : other ≠ answer)
    (trace : List (Call × Answer)) (c : Call) :
    given answer (trace ++ [(c, other)]) = given answer trace := by
  unfold given
  rw [List.countP_append, List.countP_singleton]
  simp [h]

theorem filterMap_concat {β : Type} (f : Call × Answer → Option β)
    (trace : List (Call × Answer)) (step : Call × Answer) :
    (trace ++ [step]).filterMap f = trace.filterMap f ++ (f step).toList := by
  cases h : f step <;> simp [h]

/-- What holds of every run of a recorder whose window is empty at first. -/
structure Run.IsSound (r : Recorder) (run : Run) : Prop where
  resolution : run.recorder.resolution = r.resolution
  isShutdown : run.recorder.isShutdown = true ↔ .shutdown ∈ run.trace.map Prod.fst
  tallies : Tallies r.resolution (Ledger.ofTrace run.trace).current run.recorder.window.table
  closed : List.Forall₂ (fun history b => Tallies r.resolution history b.entries)
    (Ledger.ofTrace run.trace).closed (run.trace.filterMap closedBucket)
  whole : (Ledger.ofTrace run.trace).closed.flatten ++ (Ledger.ofTrace run.trace).current =
    run.trace.filterMap routed
  fits : ∀ before step after, run.trace = before ++ step :: after → Fits before step
  overflowed : (Health.ofEvents run.events).overflowRecords =
    given (.admitted .overflowed) run.trace
  rejected : (Health.ofEvents run.events).recordsRejected = given (.admitted .rejected) run.trace

/-! ## Steps -/

variable {r : Recorder} {run : Run}

theorem isSound_start (maxKeys : Nat) (resolution : Resolution) (period : Duration) :
    Run.IsSound { maxKeys, resolution, period }
      { recorder := { maxKeys, resolution, period } } where
  resolution := rfl
  isShutdown := by simp
  tallies := tallies_nil resolution
  closed := .nil
  whole := rfl
  fits := by simp
  overflowed := rfl
  rejected := rfl

theorem fits_concat {trace : List (Call × Answer)} {last : Call × Answer}
    (h : ∀ before step after, trace = before ++ step :: after → Fits before step)
    (hlast : Fits trace last) (before : List (Call × Answer)) (step : Call × Answer)
    (after : List (Call × Answer)) (he : trace ++ [last] = before ++ step :: after) :
    Fits before step := by
  rcases List.eq_nil_or_concat after with rfl | ⟨after, x, rfl⟩
  · obtain ⟨rfl, hstep⟩ := List.append_inj' he rfl
    cases hstep
    exact hlast
  · rw [List.concat_eq_append, ← List.cons_append, ← List.append_assoc] at he
    exact h before step after (List.append_inj' he rfl).1

theorem mem_calls_concat {c : Call} {trace : List (Call × Answer)} {step : Call × Answer}
    (h : step.1 ≠ c) : c ∈ (trace ++ [step]).map Prod.fst ↔ c ∈ trace.map Prod.fst := by
  simp [Ne.symm h]

theorem next_rejected (h : run.recorder.isShutdown = true) (key : SeriesKey) (o : Observation) :
    run.next (.record key o) =
      { recorder := run.recorder
        trace := run.trace ++ [(.record key o, .admitted .rejected)]
        events := run.events ++ [.rejected key] } := by
  rw [Run.next, record_rejected h]

theorem next_rejected_isSound (hs : run.IsSound r) (h : run.recorder.isShutdown = true)
    (key : SeriesKey) (o : Observation) : (run.next (.record key o)).IsSound r := by
  rw [next_rejected h]
  have hfits : Fits run.trace (.record key o, .admitted .rejected) := by
    intro k p _
    rw [if_pos (hs.isShutdown.mp h)]
  refine ⟨hs.resolution, ?_, ?_, ?_, ?_, fits_concat hs.fits hfits, ?_, ?_⟩
  · rw [mem_calls_concat (by simp)]
    exact hs.isShutdown
  · rw [Ledger.ofTrace_concat]
    simpa [Ledger.enter, routed] using hs.tallies
  · rw [Ledger.ofTrace_concat, filterMap_concat]
    simpa [Ledger.enter, closedBucket] using hs.closed
  · rw [Ledger.ofTrace_concat, filterMap_concat, ← hs.whole]
    simp [Ledger.enter, routed]
  · rw [Health.ofEvents_append, given_concat_of_ne (by simp), ← hs.overflowed]
    exact UInt64.add_zero _
  · rw [Health.ofEvents_append, given_concat_self, ← hs.rejected]
    rfl

theorem next_taken_isSound (hs : run.IsSound r) (h : run.recorder.isShutdown = false)
    (key : SeriesKey) (o : Observation) : (run.next (.record key o)).IsSound r := by
  obtain ⟨window, admission, events, k, hrecord, hrouted, htable, hcases⟩ := record_taken h key o
  rw [Run.next, hrecord]
  have hbefore : .shutdown ∉ run.trace.map Prod.fst := by
    rw [← hs.isShutdown, h]
    exact Bool.false_ne_true
  have hfits : Fits run.trace (.record key o, .admitted admission) := by
    intro _ _ _
    rw [if_neg hbefore]
    rcases hcases with ⟨rfl, -⟩ | ⟨rfl, -⟩
    · exact .inl rfl
    · exact .inr rfl
  refine ⟨hs.resolution, ?_, ?_, ?_, ?_, fits_concat hs.fits hfits, ?_, ?_⟩
  · rw [mem_calls_concat (by simp)]
    exact hs.isShutdown
  · rw [Ledger.ofTrace_concat, Ledger.enter, hrouted, htable, hs.resolution]
    exact tallies_add hs.tallies k o
  · rw [Ledger.ofTrace_concat, filterMap_concat]
    simpa [Ledger.enter, closedBucket] using hs.closed
  · rw [Ledger.ofTrace_concat, filterMap_concat, ← hs.whole, Ledger.enter, hrouted]
    simp
  · rw [Health.ofEvents_append]
    rcases hcases with ⟨rfl, he⟩ | ⟨rfl, he⟩
    · rw [he, given_concat_of_ne (by simp), ← hs.overflowed]
      exact UInt64.add_zero _
    · rw [he, given_concat_self, ← hs.overflowed]
      rfl
  · rw [Health.ofEvents_append]
    rcases hcases with ⟨rfl, he⟩ | ⟨rfl, he⟩ <;>
      · rw [he, given_concat_of_ne (by simp), ← hs.rejected]
        exact UInt64.add_zero _

theorem next_rotate_isSound (hs : run.IsSound r) (start : Int64) :
    (run.next (.rotate start)).IsSound r := by
  have hfits (b : Bucket) : Fits run.trace (.rotate start, .closed b) := by
    intro _ _ hc
    cases hc
  refine ⟨hs.resolution, ?_, ?_, ?_, ?_, fits_concat hs.fits (hfits _), ?_, ?_⟩
  · refine hs.isShutdown.trans ?_
    exact (mem_calls_concat (by simp)).symm
  · simp only [Run.next, Recorder.rotate, Ledger.ofTrace_concat]
    exact tallies_nil r.resolution
  · simp only [Run.next, Recorder.rotate, Ledger.ofTrace_concat, filterMap_concat]
    exact List.rel_append hs.closed (.cons hs.tallies.entries .nil)
  · simp only [Run.next, Recorder.rotate, Ledger.ofTrace_concat, filterMap_concat, ← hs.whole]
    simp [Ledger.enter, routed]
  · simp only [Run.next, Recorder.rotate, Health.ofEvents_append]
    rw [given_concat_of_ne (by simp), ← hs.overflowed]
    exact UInt64.add_zero _
  · simp only [Run.next, Recorder.rotate, Health.ofEvents_append]
    rw [given_concat_of_ne (by simp), ← hs.rejected]
    exact UInt64.add_zero _

theorem next_shutdown_isSound (hs : run.IsSound r) : (run.next .shutdown).IsSound r := by
  have hfits : Fits run.trace (.shutdown, .done) := by
    intro _ _ hc
    cases hc
  refine ⟨hs.resolution, ?_, ?_, ?_, ?_, fits_concat hs.fits hfits, ?_, ?_⟩
  · simp [Run.next, Recorder.shutdown]
  · simpa [Run.next, Recorder.shutdown, Ledger.ofTrace_concat, Ledger.enter, routed]
      using hs.tallies
  · simp only [Run.next, Ledger.ofTrace_concat, filterMap_concat]
    simpa [Ledger.enter, closedBucket] using hs.closed
  · simp only [Run.next, Ledger.ofTrace_concat, filterMap_concat]
    simpa [Ledger.enter, routed] using hs.whole
  · exact hs.overflowed.trans (given_concat_of_ne (by simp) _ _).symm
  · exact hs.rejected.trans (given_concat_of_ne (by simp) _ _).symm

theorem next_isSound (hs : run.IsSound r) (c : Call) : (run.next c).IsSound r := by
  cases c with
  | record key o =>
    cases h : run.recorder.isShutdown with
    | true => exact next_rejected_isSound hs h key o
    | false => exact next_taken_isSound hs h key o
  | rotate start => exact next_rotate_isSound hs start
  | shutdown => exact next_shutdown_isSound hs

theorem after_isSound (maxKeys : Nat) (resolution : Resolution) (period : Duration)
    (calls : List Call) :
    (Run.after { maxKeys, resolution, period } calls).IsSound { maxKeys, resolution, period } := by
  induction calls using List.reverseRecOn with
  | nil => exact isSound_start maxKeys resolution period
  | append_singleton calls c ih =>
    rw [Run.after_concat]
    exact next_isSound ih c

theorem after_calls (r : Recorder) (calls : List Call) :
    (Run.after r calls).trace.map Prod.fst = calls := by
  induction calls using List.reverseRecOn with
  | nil => rfl
  | append_singleton calls c ih =>
    rw [Run.after_concat]
    cases c <;> simp [Run.next, ih]

end Recorder

end SpanRollup
