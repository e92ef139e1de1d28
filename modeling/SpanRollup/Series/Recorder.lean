import SpanRollup.Event
import SpanRollup.Series.Bucket

/-!
# Recorders

A recorder adds observations to the cells of its open window and closes the window as a bucket.

- `Window.record`: adds an observation to a window, which admits a number of series; observations
  of further ones are added to the overflow cell.
- `Recorder.record`: the same for the open window, until the shutdown.
- `Recorder.rotate`: closes the window and opens an empty one.
-/

namespace SpanRollup

/-- What became of an observation. -/
inductive Admission where
  | recorded
  | overflowed
  | rejected
  deriving DecidableEq, Repr

structure Window where
  /-- The cells in the order in which their series came. -/
  table : List (SeriesKey × Cell) := []
  /-- How many series have been admitted, not counting the overflow cell. -/
  admitted : Nat := 0
  /-- Whether it has been said that the window is full. -/
  fullReported : Bool := false
  deriving DecidableEq, Repr

namespace Window

def empty : Window := {}

def contains (w : Window) (key : SeriesKey) : Bool := w.table.any (·.1 = key)

def get? (w : Window) (key : SeriesKey) : Option Cell :=
  (w.table.find? (·.1 = key)).map (·.2)

/-- Adds an observation to the cell of `key`, which is made if it is not there. -/
def add (table : List (SeriesKey × Cell)) (resolution : Resolution) (key : SeriesKey)
    (o : Observation) : List (SeriesKey × Cell) :=
  match table with
  | [] => [(key, (Cell.empty resolution).record o)]
  | (k, c) :: rest =>
    if k = key then (k, c.record o) :: rest else (k, c) :: add rest resolution key o

/-- Whether an observation of `key` gets into the cell of its own series. -/
def admits (w : Window) (maxKeys : Nat) (key : SeriesKey) : Bool :=
  w.contains key || key.isOverflow || w.admitted < maxKeys

def record (w : Window) (maxKeys : Nat) (resolution : Resolution) (key : SeriesKey)
    (o : Observation) : Window × Admission × List Event :=
  if w.admits maxKeys key then
    let isNew := !w.contains key && !key.isOverflow
    ({ w with
        table := add w.table resolution key o
        admitted := if isNew then w.admitted + 1 else w.admitted },
      .recorded, [])
  else
    ({ w with table := add w.table resolution .overflow o, fullReported := true }, .overflowed,
      (if w.fullReported then [] else [.windowFull maxKeys]) ++ [.overflowed])

/-- The cells in the order of their keys. -/
def entries (w : Window) : List (SeriesKey × Cell) :=
  w.table.mergeSort fun a b => a.1.le b.1

end Window

structure Recorder where
  /-- How many series a window admits. -/
  maxKeys : Nat
  resolution : Resolution
  /-- How long a window stays open. -/
  period : Duration
  window : Window := .empty
  isShutdown : Bool := false
  deriving DecidableEq, Repr

namespace Recorder

def record (r : Recorder) (key : SeriesKey) (o : Observation) :
    Recorder × Admission × List Event :=
  if r.isShutdown then (r, .rejected, [.rejected key])
  else
    let (window, admission, events) :=
      r.window.record r.maxKeys r.resolution (o.seriesKey key) o
    ({ r with window }, admission, events)

/-- Closes the window that began at `start`. -/
def rotate (r : Recorder) (start : Int64) : Recorder × Bucket × List Event :=
  ({ r with window := .empty },
    { start, duration := r.period.toInt64, entries := r.window.entries },
    [.rotated r.window.table.length])

def shutdown (r : Recorder) : Recorder := { r with isShutdown := true }

end Recorder

end SpanRollup
