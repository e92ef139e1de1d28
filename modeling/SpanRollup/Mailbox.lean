import SpanRollup.Number.Instances

/-!
# Mailboxes

A mailbox queues items, up to its capacity, until its reader takes them in order. When the reader
closes it, what is queued is lost and nothing is queued any more.
-/

namespace SpanRollup

structure Mailbox (α : Type) where
  capacity : Nat
  capacity_pos : 0 < capacity := by decide
  queue : List α := []
  isClosed : Bool := false
  deriving DecidableEq, Repr

namespace Mailbox

variable {α : Type}

/-- Places are counted with 61 bits. -/
def maxCapacity : Nat := 2 ^ 61 - 1

/-- An empty mailbox, which has to have room for something, but not for more than can be counted. -/
def ofCapacity? (capacity : Nat) : Option (Mailbox α) :=
  if h : 0 < capacity ∧ capacity ≤ maxCapacity then some { capacity, capacity_pos := h.1 }
  else none

/-- How an item was received. -/
inductive Reception where
  | queued
  | full
  | closed
  deriving DecidableEq, Repr

def isFull (m : Mailbox α) : Bool := m.capacity ≤ m.queue.length

def send (m : Mailbox α) (a : α) : Mailbox α × Reception :=
  if m.isClosed then (m, .closed)
  else if m.isFull then (m, .full)
  else ({ m with queue := m.queue ++ [a] }, .queued)

def receive (m : Mailbox α) : Mailbox α × Option α :=
  ({ m with queue := m.queue.tail }, m.queue.head?)

def close (m : Mailbox α) : Mailbox α := { m with queue := [], isClosed := true }

end Mailbox

end SpanRollup
