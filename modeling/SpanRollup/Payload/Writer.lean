import SpanRollup.Event
import SpanRollup.Payload.Encoder
import SpanRollup.Payload.Layout
import SpanRollup.Series.Bucket

/-!
# Writers

A writer turns buckets into payloads and hands them to its sink. A bucket is announced with the
number of its records, then they are added, then it is finished; on a broken promise or a failure
the writer gives the bucket up and is idle again.

- `Writer.start`, `Writer.add`, `Writer.finish`: the three steps.
- `Writer.reset`: gives up the bucket that is being written.
- `Writer.writeBucket`: all steps for a whole bucket.
-/

namespace SpanRollup.Payload

/-! ### Items that may be substituted -/

/-- What has come of writing some items. -/
structure Written where
  buffer : Buffer
  result : Except EncodeError Unit
  events : List Event

/-- Puts down an item. A text that has no bytes does not count as a failure: an empty one is put
down in its place, and that is reported. -/
def Encoder.callOrEmpty (item : Item) : Encoder (List Event) :=
  tryCatch (do call item; return []) fun e =>
    match item, e with
    | .text s, .unencodable _ _ => do
      call (.raw [])
      return [.substituted s e]
    | _, _ => throw e

/-- Puts down items until a call fails. -/
def Buffer.writeAll (b : Buffer) : List Item → Written
  | [] => ⟨b, .ok (), []⟩
  | item :: rest =>
    match (Encoder.callOrEmpty item).run b with
    | .ok events b =>
      let done := b.writeAll rest
      { done with events := events ++ done.events }
    | .error e b => ⟨b, .error e, []⟩

/-! ### Writers -/

/-- How far the bucket that is being written has come. -/
inductive Stage where
  | idle
  | writing (declared written : Nat)
  deriving DecidableEq, Repr

structure Writer where
  tags : Tags
  sink : Sink
  buffer : Buffer := .empty
  stage : Stage := .idle
  deriving DecidableEq, Repr

/-- What has come of a call of a writer. -/
structure Turn where
  writer : Writer
  result : Except WriteError Unit
  events : List Event

/-- A second call after one that has not failed. -/
def Turn.andThen (t : Turn) (next : Writer → Turn) : Turn :=
  match t.result with
  | .ok () =>
    let u := next t.writer
    { u with events := t.events ++ u.events }
  | .error _ => t

namespace Writer

/-- An idle writer whose buffer has room for `capacity` bytes from the start. -/
def ofCapacity? (tags : Tags) (sink : Sink) (capacity : Nat) : Option Writer := do
  return { tags, sink, buffer := ← Buffer.ofCapacity? capacity }

def isOpen (w : Writer) : Bool := w.stage ≠ .idle

/-- The writer without the bucket it was writing. -/
def discard (w : Writer) : Writer := { w with buffer := .empty, stage := .idle }

/-- The call that has failed and lost the bucket. -/
def giveUp (w : Writer) (e : WriteError) (events : List Event) : Turn :=
  ⟨w.discard, .error e, events⟩

/-- Opens a bucket that will have as many records as declared. -/
def start (w : Writer) (declared : Nat) (start duration : Int64) : Turn :=
  match w.stage with
  | .writing _ _ => w.giveUp .alreadyOpen [.startedTwice]
  | .idle =>
    let header := w.buffer.writeAll (headerItems w.tags declared start duration)
    match header.result with
    | .ok () =>
      ⟨{ w with buffer := header.buffer, stage := .writing declared 0 }, .ok (), header.events⟩
    | .error e => w.giveUp (.encode e) (header.events ++ [.headerFailed e])

/-- Adds a record to the open bucket. -/
def add (w : Writer) (key : SeriesKey) (cell : Cell) : Turn :=
  match w.stage with
  | .idle => ⟨w, .error .notOpen, [.addedUnopened]⟩
  | .writing declared written =>
    if declared ≤ written then w.giveUp (.tooManyRecords declared) [.tooManyAdded declared]
    else
      let record := w.buffer.writeAll (recordItems key cell)
      match record.result with
      | .ok () =>
        ⟨{ w with buffer := record.buffer, stage := .writing declared (written + 1) }, .ok (),
          record.events⟩
      | .error e => w.giveUp (.encode e) (record.events ++ [.recordFailed key e])

/-- Completes the open bucket and calls the sink with it. -/
def finish (w : Writer) : Turn :=
  match w.stage with
  | .idle => ⟨w, .error .notOpen, [.finishedUnopened]⟩
  | .writing declared written =>
    if declared ≠ written then
      w.giveUp (.countMismatch declared written) [.countMismatch declared written]
    else
      let buffer := w.buffer.mark
      let (sink, answer) :=
        w.sink.accept { messages := buffer.messages, payload := buffer.complete.toList }
      let w := { w with sink }.discard
      match answer with
      | .ok () => ⟨w, .ok (), [.flushed buffer.complete.size]⟩
      | .error e => ⟨w, .error (.sink e), [.deliveryFailed e]⟩

def reset (w : Writer) : Writer × List Event :=
  (w.discard, if w.isOpen then [.abandoned] else [])

end Writer

/-- The call after which a bucket that has failed is given up. -/
def Turn.settle (t : Turn) : Turn :=
  match t.result with
  | .ok () => t
  | .error e =>
    let (writer, events) := t.writer.reset
    ⟨writer, .error e, t.events ++ events⟩

namespace Writer

/-- Opens a bucket and adds all its records. -/
def assemble (w : Writer) (b : Bucket) : Turn :=
  b.entries.foldl (fun t e => t.andThen (·.add e.1 e.2)) (w.start b.size b.start b.duration)

/-- Writes a whole bucket, unless it is empty. -/
def writeBucket (w : Writer) (b : Bucket) : Turn :=
  if b.isEmpty then ⟨w, .ok (), [.emptySkipped]⟩
  else ((w.assemble b).andThen finish).settle

end Writer

end SpanRollup.Payload
