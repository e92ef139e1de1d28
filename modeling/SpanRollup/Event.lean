import SpanRollup.Duration
import SpanRollup.Health
import SpanRollup.Log.Level
import SpanRollup.Payload.Error
import SpanRollup.Series.Key

/-!
# Events

Operations report what happens in them as a list of events.

- `Event.counts`: what an event adds to the health counters.
- `Event.entry?`: what an event has to say in the log.
-/

namespace SpanRollup

open Payload

inductive Event where
  /-- An observation came after the shutdown. -/
  | rejected (key : SeriesKey)
  /-- A window turned away a new series for the first time. -/
  | windowFull (maxKeys : Nat)
  /-- An observation went to the overflow cell. -/
  | overflowed
  | rotated (keys : Nat)
  | startedTwice
  | headerFailed (e : EncodeError)
  | addedUnopened
  | tooManyAdded (declared : Nat)
  | recordFailed (key : SeriesKey) (e : EncodeError)
  | finishedUnopened
  | countMismatch (declared written : Nat)
  | flushed (size : Nat)
  | deliveryFailed (e : SinkError)
  /-- A text with a character that has no byte was replaced by an empty one. -/
  | substituted (text : String) (e : EncodeError)
  /-- A bucket was given up before it was finished. -/
  | abandoned
  | emptySkipped
  | forwarded (messages size : Nat)
  | rotationStarted (period : Duration)
  | nothingRecorded
  | writerBusy (keys : Nat) (hits : UInt64)
  | writerGone (keys : Nat) (hits : UInt64)
  | writeFailed (e : WriteError)
  | stopping
  /-- There was no writer any more to take the last window. -/
  | finalLost (hits : UInt64)
  | writerDrained
  | writerCrashed (reason : String)
  | rotationStopped
  | loggingEnabled
  deriving DecidableEq, Repr

namespace Event

def counts : Event → Health
  | rejected _ => { recordsRejected := 1 }
  | overflowed => { overflowRecords := 1 }
  | startedTwice | headerFailed _ | tooManyAdded _ | recordFailed _ _ | countMismatch _ _
  | abandoned => { bucketsDiscarded := 1 }
  | flushed _ => { bucketsFlushed := 1 }
  | deliveryFailed _ => { sinkFailures := 1 }
  | substituted _ _ => { fieldSubstitutions := 1 }
  | writerBusy _ hits | writerGone _ hits | finalLost hits =>
    { bucketsDropped := 1, hitsDropped := hits }
  | windowFull _ | rotated _ | addedUnopened | finishedUnopened | emptySkipped | forwarded _ _
  | rotationStarted _ | nothingRecorded | writeFailed _ | stopping | writerDrained
  | writerCrashed _ | rotationStopped | loggingEnabled => 0

/-- An entry of the log. -/
structure Entry where
  level : Log.Level
  /-- The part of the program that speaks. -/
  target : String
  message : String
  deriving DecidableEq, Repr

def aggregator (level : Log.Level) (message : String) : Entry :=
  { level, target := "trace_stats::aggregator", message }

def writer (level : Log.Level) (message : String) : Entry :=
  { level, target := "trace_stats::writer", message }

def service (level : Log.Level) (message : String) : Entry :=
  { level, target := "trace_stats::service", message }

/-- Tasks are numbered from one on as they are started: the one that rotates, then the one that
writes. -/
def writerTaskNumber : Nat := 2

def entry? : Event → Option Entry
  | rejected key => aggregator .trace s!"Rejected observation for {key.text} after shutdown"
  | windowFull maxKeys =>
    aggregator .warn
      s!"Stats window reached {maxKeys} distinct keys, aggregating new keys into overflow"
  | overflowed => none
  | rotated keys => aggregator .debug s!"Rotated stats window with {keys} keys"
  | startedTwice =>
    writer .error "Stats bucket started while another bucket is open, discarding both"
  | headerFailed e => writer .error s!"Failed to write stats bucket header: {e.message}"
  | addedUnopened => writer .error "Stats record added with no open bucket"
  | tooManyAdded declared =>
    writer .error
      s!"Stats bucket declared {declared} records but more were added, discarding bucket"
  | recordFailed key e =>
    writer .error s!"Failed to write stats record for {key.text}: {e.message}"
  | finishedUnopened => writer .error "Stats bucket finished with no open bucket"
  | countMismatch declared written =>
    writer .error
      s!"Stats bucket declared {declared} records but {written} were added, discarding bucket"
  | flushed size => writer .debug s!"Flushed stats bucket ({size} bytes)"
  | deliveryFailed e => writer .error s!"Failed to deliver stats bucket: {e.message}"
  | substituted text e =>
    writer .warn s!"Substituting empty value for stats field {Text.quote text}: {e.message}"
  | abandoned => writer .debug "Discarding partially written stats bucket"
  | emptySkipped => writer .debug "Skipping empty stats bucket"
  | forwarded messages size =>
    some { level := .debug, target := "trace_stats::sink"
           message := s!"Forwarding stats payload with {messages} records ({size} bytes)" }
  | rotationStarted period => service .debug s!"Stats rotation started with period {period.text}"
  | nothingRecorded => service .debug "Nothing recorded in the closed stats window"
  | writerBusy keys _ =>
    service .warn s!"Stats writer is still busy, dropping bucket with {keys} keys"
  | writerGone keys _ => service .error s!"Stats writer is gone, dropping bucket with {keys} keys"
  | writeFailed e => service .error s!"Failed to write stats bucket: {e.message}"
  | stopping => service .info "Shutting down stats rotation"
  | finalLost _ => service .error "Stats writer stopped before the final bucket was handed off"
  | writerDrained => service .debug "Stats writer drained"
  | writerCrashed reason =>
    let message := Text.quote reason
    service .error
      s!"Stats writer task failed: task {writerTaskNumber} panicked with message {message}"
  | rotationStopped => service .debug "Stats rotation stopped"
  | loggingEnabled =>
    some { level := .debug, target := "trace_stats::logging"
           message := "Logging subsystem enabled" }

end Event

/-- The counters after a list of events. -/
def Health.ofEvents (events : List Event) : Health := (events.map Event.counts).sum

end SpanRollup
