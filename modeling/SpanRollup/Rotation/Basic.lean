import SpanRollup.Payload.Writer
import SpanRollup.Rotation.HandOff
import SpanRollup.Series.Recorder

/-!
# Rotation of windows

Two tasks work side by side. One closes the open window at every tick and hands it over; the other
writes what it is handed. A bucket at most waits between them.

- `Rotation.observe`: an observation comes in.
- `Rotation.start`: the task that rotates is started.
- `Rotation.tick`: the open window is closed and handed over.
- `Rotation.takeUp`, `Rotation.complete`: the writing task takes a bucket as far as the call of the
  sink, and the call returns.
-/

namespace SpanRollup

open Payload

/-- What the writing task is at. -/
inductive WriterTask where
  | waiting
  /-- A bucket is assembled, and the call of the sink has not returned. -/
  | inSink
  /-- It has failed. -/
  | gone (reason : String)
  deriving DecidableEq, Repr

structure Rotation where
  recorder : Recorder
  writer : Writer
  pending : Mailbox Bucket := { capacity := 1 }
  task : WriterTask := .waiting
  /-- Whether the task that rotates has been started. -/
  isStarted : Bool := false
  /-- All that has been reported, in order. -/
  events : List Event := []
  deriving DecidableEq, Repr

namespace Rotation

def tell (r : Rotation) (events : List Event) : Rotation :=
  { r with events := r.events ++ events }

/-! ### The task that rotates -/

def observe (r : Rotation) (key : SeriesKey) (o : Observation) : Rotation × Admission :=
  let (recorder, admission, events) := r.recorder.record key o
  ({ r with recorder }.tell events, admission)

def observeAll (r : Rotation) (os : List (SeriesKey × Observation)) :
    Rotation × List Admission :=
  os.foldl (fun (r, admissions) (key, o) =>
    let (r, admission) := r.observe key o
    (r, admissions ++ [admission])) (r, [])

/-- How long a window stays open. -/
def period (r : Rotation) : Duration := r.recorder.period.max .millisecond

/-- Starts the task, unless it has been started. -/
def start (r : Rotation) : Rotation :=
  if r.isStarted then r else { r with isStarted := true }.tell [.rotationStarted r.period]

/-- Closes the window that began at `start` and hands it over. -/
def tick (r : Rotation) (start : Int64) : Rotation :=
  let (recorder, bucket, rotated) := r.recorder.rotate start
  let (pending, _, handedOff) := handOff r.pending bucket
  { r with recorder, pending }.tell (rotated ++ handedOff)

/-! ### The task that writes -/

def failures (result : Except WriteError Unit) : List Event :=
  match result with
  | .ok () => []
  | .error e => [.writeFailed e]

/-- A waiting task takes the next bucket up and assembles its payload. -/
def takeUp (r : Rotation) : Rotation :=
  match r.task, r.pending.receive with
  | .waiting, (pending, some bucket) =>
    let turn := r.writer.assemble bucket
    match turn.result with
    | .ok () => { r with pending, writer := turn.writer, task := .inSink }.tell turn.events
    | .error _ =>
      let turn := turn.settle
      { r with pending, writer := turn.writer }.tell (turn.events ++ failures turn.result)
  | _, _ => r

/-- The call of the sink returns. -/
def complete (r : Rotation) : Rotation :=
  match r.task with
  | .inSink =>
    let turn := r.writer.finish.settle
    { r with writer := turn.writer, task := .waiting }.tell (turn.events ++ failures turn.result)
  | .waiting | .gone _ => r

/-- The task writes all that it has been handed. -/
def drain (r : Rotation) : Rotation :=
  r.pending.queue.foldl (fun r _ => r.takeUp.complete) r.complete

/-- The task fails when it takes a bucket up, and the bucket is lost with it. -/
def crash (r : Rotation) (reason : String) : Rotation :=
  if r.task = .waiting && !r.pending.queue.isEmpty then
    { r with pending := r.pending.close, task := .gone reason }
  else r

end Rotation

end SpanRollup
