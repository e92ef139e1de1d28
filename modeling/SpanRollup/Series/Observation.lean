import SpanRollup.Series.Key

/-!
# Observations

What is seen of one finished span.
-/

namespace SpanRollup

structure Observation where
  /-- In nanoseconds. A clock that steps back makes it negative. -/
  duration : Int64
  isError : Bool := false
  /-- Whether the span is where a service is entered. -/
  isTopLevel : Bool := false
  status : Option UInt16 := none
  deriving DecidableEq, Repr

namespace Observation

/-- The duration that is counted: a negative one is zero. -/
def clamped (o : Observation) : Int64 := max 0 o.duration

/-- The series that an observation offered under `key` belongs to: its own status code counts where
the key has none. -/
def seriesKey (o : Observation) (key : SeriesKey) : SeriesKey :=
  match o.status with
  | some status => if key.status = 0 then key.withStatus status else key
  | none => key

end Observation

end SpanRollup
