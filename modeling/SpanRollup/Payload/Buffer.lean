import SpanRollup.Payload.Item

/-!
# Message buffers

A buffer holds complete messages and the one that is being written.

- `Buffer.put`: adds bytes to the message being written.
- `Buffer.mark`: completes it.
-/

namespace SpanRollup.Payload

structure Buffer where
  /-- The bytes of the complete messages. -/
  complete : Array UInt8 := #[]
  /-- The bytes of the message that is being written. -/
  pending : Array UInt8 := #[]
  /-- How many messages are complete. -/
  messages : Nat := 0
  deriving DecidableEq, Repr

namespace Buffer

def empty : Buffer := {}

/-- An empty buffer with room for `capacity` bytes. Memory has addresses of 63 bits. -/
def ofCapacity? (capacity : Nat) : Option Buffer :=
  if capacity < 2 ^ 63 then some empty else none

def put (b : Buffer) (bytes : List UInt8) : Buffer := { b with pending := b.pending ++ bytes }

def mark (b : Buffer) : Buffer :=
  { complete := b.complete ++ b.pending, pending := #[], messages := b.messages + 1 }

def size (b : Buffer) : Nat := b.complete.size + b.pending.size

end Buffer

end SpanRollup.Payload
