import SpanRollup.Series.Cell

/-!
# Buckets

A bucket is a closed window: the cells of its series, and the time it covers.
-/

namespace SpanRollup

structure Bucket where
  /-- When the window began, in nanoseconds since the epoch. -/
  start : Int64
  /-- How long it was open, in nanoseconds. -/
  duration : Int64
  entries : List (SeriesKey × Cell)
  deriving DecidableEq, Repr

namespace Bucket

def size (b : Bucket) : Nat := b.entries.length

def isEmpty (b : Bucket) : Bool := b.entries.isEmpty

/-- The number of observations in all cells. -/
def hits (b : Bucket) : UInt64 := (b.entries.map (·.2.hits)).sum

def get? (b : Bucket) (key : SeriesKey) : Option Cell :=
  (b.entries.find? (·.1 = key)).map (·.2)

end Bucket

end SpanRollup
