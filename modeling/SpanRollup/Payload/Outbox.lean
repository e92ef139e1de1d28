import SpanRollup.Event
import SpanRollup.Mailbox

/-!
# Outboxes

An outbox is a sink that keeps payloads in a mailbox until a transport takes them. A call waits
while the mailbox is full.
-/

namespace SpanRollup.Payload

/-- An outbox has room for at least one payload. -/
def outbox? (capacity : Nat) : Option (Mailbox Delivery) :=
  Mailbox.ofCapacity? (max 1 capacity)

/-- What has come of forwarding a payload. -/
inductive Forwarding where
  | done (result : Except SinkError Unit)
  /-- The call waits for room. -/
  | waits

def forward (m : Mailbox Delivery) (d : Delivery) : Mailbox Delivery × Forwarding × List Event :=
  let events := [.forwarded d.messages d.payload.length]
  match m.send d with
  | (m, .queued) => (m, .done (.ok ()), events)
  | (m, .closed) => (m, .done (.error .closed), events)
  | (m, .full) => (m, .waits, [])

end SpanRollup.Payload
