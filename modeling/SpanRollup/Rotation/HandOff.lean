import SpanRollup.Event
import SpanRollup.Mailbox
import SpanRollup.Series.Bucket

/-!
# Hand-off of closed windows

A bucket is handed to the writer without waiting: it is queued, or dropped and counted.
-/

namespace SpanRollup

/-- Hands off a bucket, and says whether it was queued. An empty one is not worth a message. -/
def handOff (m : Mailbox Bucket) (b : Bucket) : Mailbox Bucket × Bool × List Event :=
  if b.isEmpty then (m, false, [.nothingRecorded])
  else match m.send b with
    | (m, .queued) => (m, true, [])
    | (m, .full) => (m, false, [.writerBusy b.size b.hits])
    | (m, .closed) => (m, false, [.writerGone b.size b.hits])

end SpanRollup
