import SpanRollup.Sketch.Scale

/-!
# Resolution of a latency digest

How closely a digest tells durations apart, and how much room it may take. Digests can be merged
only if their resolutions are the same.
-/

namespace SpanRollup

structure Resolution where
  /-- The largest relative error of a quantile. -/
  accuracy : Binary64
  /-- How many bins there may be for each sign. -/
  maxBins : UInt32
  deriving DecidableEq, Repr

namespace Resolution

def defaultAccuracy : Binary64 := .ofRatio false 1 100

/-- Finer accuracies would need more keys than a scale can tell apart. -/
def minAccuracy : Binary64 := .ofRatio false 1 10000

def defaultMaxBins : Nat := 2048

/-- An accuracy outside `(0, 1)` is replaced by the default one, and all else is moved to the
nearest legal value. -/
def ofSettings (accuracy : Binary64) (maxBins : Nat) : Resolution :=
  { accuracy :=
      if Binary64.zero.lt accuracy && accuracy.lt .one then
        if accuracy.lt minAccuracy then minAccuracy else accuracy
      else defaultAccuracy
    maxBins := UInt32.ofNat (min (2 ^ 32 - 1) (max 1 maxBins)) }

instance : Inhabited Resolution := ⟨ofSettings defaultAccuracy defaultMaxBins⟩

def same (r s : Resolution) : Bool := r.accuracy.same s.accuracy && r.maxBins = s.maxBins

/-- No digest takes more bytes than this: nine for each bin, and some for the other fields. -/
def maxEncodedSize (r : Resolution) : Nat := 512 + 2 * r.maxBins.toNat * 9

def scale (r : Resolution) : Scale := .ofAccuracy r.accuracy r.maxBins

end Resolution

end SpanRollup
