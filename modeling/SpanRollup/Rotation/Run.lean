import SpanRollup.Rotation.Basic

/-!
# Runs of a rotation

`Rotation.run` is the whole life of a rotation: windows of observations that are closed one after
another, a last window that is closed by the shutdown, and observations that come too late. The
task that rotates has its first turn when the first window is waited for, so the observations of
that window come before its start.
-/

namespace SpanRollup

/-- How the writing task gets on. -/
inductive Pace where
  | keepsUp
  /-- The first call of the sink returns only when the shutdown is near. -/
  | stalls
  /-- It fails on its first bucket. -/
  | crashes (reason : String)
  deriving DecidableEq, Repr

/-- What has become of a run, and of the observations in it. -/
structure Rotation.Outcome where
  rotation : Rotation
  windows : List (List Admission)
  late : List Admission

namespace Rotation

/-- What the writing task does about the buckets that are handed over. -/
def follow (pace : Pace) (r : Rotation) : Rotation :=
  match pace with
  | .keepsUp => r.drain
  | .stalls => r.takeUp
  | .crashes reason => r.crash reason

/-- A window is filled, closed and handed over. No window is closed before something is in it. -/
def window (pace : Pace) (start : Int64) (r : Rotation) (os : List (SeriesKey × Observation)) :
    Rotation × List Admission :=
  let (r, admissions) := r.observeAll os
  (if os.isEmpty then r else (r.start.tick start).follow pace, admissions)

def windows (pace : Pace) (start : Int64) (r : Rotation)
    (oss : List (List (SeriesKey × Observation))) : Rotation × List (List Admission) :=
  oss.foldl (fun (r, admissions) os =>
    let (r, more) := r.window pace start os
    (r, admissions ++ [more])) (r, [])

/-- Hands over the last bucket. It is not dropped for want of room: it waits. -/
def handOverLast (r : Rotation) (bucket : Bucket) : Rotation :=
  if bucket.isEmpty then r
  else
    let r := if r.pending.isFull then r.drain else r
    match r.pending.send bucket with
    | (_, .closed) => r.tell [.finalLost bucket.hits]
    | (pending, _) => { r with pending }

/-- Closes the last window and waits until the writing task has written it. -/
def shutDown (pace : Pace) (start : Int64) (r : Rotation) : Rotation :=
  let r := r.start
  let (recorder, bucket, rotated) := r.recorder.shutdown.rotate start
  let r := ({ r with recorder }.tell (.stopping :: rotated)).handOverLast bucket
  let r := match pace with
    | .crashes reason => r.crash reason
    | .keepsUp | .stalls => r.drain
  let ending := match r.task with
    | .gone reason => .writerCrashed reason
    | .waiting | .inSink => .writerDrained
  r.tell [ending, .rotationStopped]

/-- The task that rotates fails when it has its first turn. The task that writes, which was started
by then, ends for want of work. -/
def failAtStart (r : Rotation) (oss : List (List (SeriesKey × Observation))) : Rotation :=
  let first := (oss.find? fun os => !os.isEmpty).getD []
  (r.observeAll first).1.tell [.writerDrained]

/-- What comes of a rotation that can start. All windows begin at `start`, as far as their payloads
tell. -/
def runWindows (r : Rotation) (pace : Pace) (start : Int64)
    (oss : List (List (SeriesKey × Observation))) (final late : List (SeriesKey × Observation)) :
    Outcome :=
  let (r, windows) := r.windows pace start oss
  let r := match pace with
    | .stalls => r.drain
    | .keepsUp | .crashes _ => r
  let (r, last) := r.observeAll final
  let r := r.shutDown pace start
  let (r, late) := r.observeAll late
  { rotation := r, windows := windows ++ [last], late }

/-- Follows a rotation to its end. It cannot start if the clock, which then reads `clock`, does not
reach the end of the first window; then what is left of it is the error. A clock that nothing is
known of has run for a minute. -/
def run (r : Rotation) (pace : Pace) (start : Int64)
    (oss : List (List (SeriesKey × Observation))) (final late : List (SeriesKey × Observation))
    (clock : Duration := .ofParts 60 0) : Except Rotation Outcome :=
  if r.period.isForeseeable clock then .ok (r.runWindows pace start oss final late)
  else .error (r.failAtStart (oss ++ [final]))

end Rotation

end SpanRollup
