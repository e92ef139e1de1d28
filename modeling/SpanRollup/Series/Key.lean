/-!
# Series keys

A key names one series of observations: the spans of a service that agree in operation, resource,
kind and status code. Keys are ordered by their fields in this order, texts by code points.
-/

namespace SpanRollup

structure SeriesKey where
  service : String
  operation : String
  resource : String
  kind : String
  /-- The HTTP status code, or 0. -/
  status : UInt16
  deriving DecidableEq, Ord, Repr

namespace SeriesKey

/-- The catch-all of a window that takes no more series. -/
def overflow : SeriesKey :=
  { service := "", operation := "_dd.stats.overflow", resource := "", kind := "", status := 0 }

def isOverflow (k : SeriesKey) : Bool := k = overflow

def withStatus (k : SeriesKey) (status : UInt16) : SeriesKey := { k with status }

def le (k l : SeriesKey) : Bool := (compare k l).isLE

def text (k : SeriesKey) : String :=
  ":".intercalate [k.service, k.operation, k.resource, k.kind, toString k.status.toNat]

end SeriesKey

end SpanRollup
