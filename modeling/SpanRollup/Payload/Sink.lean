/-!
# Sinks

A sink is called with finished payloads and takes or refuses each. A `Sink` here is known by its
plan, the answers it will give, and by the calls it has had.
-/

namespace SpanRollup.Payload

structure Delivery where
  /-- The number of messages in the payload. -/
  messages : Nat
  payload : List UInt8
  deriving DecidableEq, Repr

inductive SinkError where
  | rejected (reason : String)
  | closed
  deriving DecidableEq, Repr

def SinkError.message : SinkError → String
  | rejected reason => s!"Sink rejected payload: {reason}"
  | closed => "Sink is closed"

/-- A call of a sink, and why it was refused if it was. -/
structure Call where
  delivery : Delivery
  refusal : Option SinkError
  deriving DecidableEq, Repr

structure Sink where
  /-- The answers to the next calls. All calls after them are taken. -/
  plan : List (Option SinkError) := []
  calls : List Call := []
  deriving DecidableEq, Repr

namespace Sink

def accept (s : Sink) (delivery : Delivery) : Sink × Except SinkError Unit :=
  let refusal := s.plan.head?.join
  ({ plan := s.plan.tail, calls := s.calls ++ [{ delivery, refusal }] },
    match refusal with
    | none => .ok ()
    | some e => .error e)

/-- What the sink has taken. -/
def accepted (s : Sink) : List Delivery :=
  s.calls.filterMap fun c => if c.refusal.isNone then some c.delivery else none

end Sink

end SpanRollup.Payload
