import SpanRollup.Payload.Item
import SpanRollup.Payload.Sink

/-!
# Errors of writing a bucket

The first four are broken promises of the caller.
-/

namespace SpanRollup.Payload

inductive WriteError where
  | notOpen
  | alreadyOpen
  | tooManyRecords (declared : Nat)
  | countMismatch (declared written : Nat)
  | encode (e : EncodeError)
  | sink (e : SinkError)
  deriving DecidableEq, Repr

namespace WriteError

def message : WriteError → String
  | notOpen => "No bucket is open"
  | alreadyOpen => "A bucket is already open"
  | tooManyRecords declared => s!"Bucket declared {declared} records but more were added"
  | countMismatch declared written =>
    s!"Bucket declared {declared} records but {written} were added"
  | encode e => s!"Failed to encode bucket: {e.message}"
  | sink e => s!"Failed to deliver bucket: {e.message}"

def isContractViolation : WriteError → Bool
  | notOpen | alreadyOpen | tooManyRecords _ | countMismatch _ _ => true
  | encode _ | sink _ => false

end WriteError

end SpanRollup.Payload
