import SpanRollup.Digest.Resolution
import SpanRollup.Number.Decimal.Shortest
import SpanRollup.Sketch.Basic

/-!
# Latency digests

A digest summarises durations in nanoseconds: how many there are, their sum, and a sketch of their
distribution. Its size is bounded by its resolution, not by the number of durations.

- `Digest.record`: takes in a duration.
- `Digest.merge`: takes in the durations of another digest.
- `Digest.quantile`: the duration below which a given part of the durations lies.
-/

namespace SpanRollup

/-- The sum of two durations, held at the ends of the 64-bit range. -/
def saturatingAdd (a b : Int64) : Int64 :=
  Int64.ofInt (max (-2 ^ 63) (min (2 ^ 63 - 1) (a.toInt + b.toInt)))

structure Digest where
  resolution : Resolution
  count : UInt64
  sum : Int64
  sketch : Sketch
  deriving DecidableEq, Repr

namespace Digest

def empty (resolution : Resolution) : Digest :=
  { resolution, count := 0, sum := 0, sketch := Sketch.empty resolution.scale }

def isEmpty (d : Digest) : Bool := d.count = 0

/-- Takes in a duration; a negative one counts as zero. It is `none` if the digest came from
outside and its bins do not fit together. -/
def record? (d : Digest) (duration : Int64) : Option Digest := do
  let value := max 0 duration
  let sketch ← d.sketch.add (.ofInt value.toInt)
  some { d with count := d.count + 1, sum := saturatingAdd d.sum value, sketch }

/-- Takes in a duration. A digest that cannot take it stays as it is. -/
def record (d : Digest) (duration : Int64) : Digest := (d.record? duration).getD d

inductive MergeError where
  | incompatible
  /-- The bins of one of the digests do not fit together. -/
  | damaged
  deriving DecidableEq, Repr

def MergeError.message : MergeError → String
  | incompatible => "Cannot merge summaries with different relative accuracy"
  | damaged => "The bins of a latency summary do not fit together"

def merge (d other : Digest) : Except MergeError Digest :=
  if !d.resolution.same other.resolution then .error .incompatible
  else if other.count = 0 then .ok d
  else match d.sketch.merge other.sketch with
    | .ok sketch =>
      .ok { d with
        count := d.count + other.count, sum := saturatingAdd d.sum other.sum, sketch }
    | .error .differentScales => .error .incompatible
    | .error .damaged => .error .damaged

/-- The estimate for quantile `q`, which is within `[0, 1]`. -/
def quantile (d : Digest) (q : Binary64) : Option Binary64 := d.sketch.quantile q

/-- The digest at a glance. -/
def outline (d : Digest) : String :=
  "LatencySummary \x7b config: SummaryConfig \x7b relative_accuracy: " ++
    d.resolution.accuracy.textWithPoint ++ ", max_bins: " ++ toString d.resolution.maxBins.toNat ++
    " \x7d, count: " ++ toString d.count.toNat ++ ", sum: " ++ toString d.sum.toInt ++ ", .. \x7d"

end Digest

end SpanRollup
