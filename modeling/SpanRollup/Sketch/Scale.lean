import SpanRollup.Number.Exponential
import SpanRollup.Number.Logarithm

/-!
# Logarithmic scales

A scale maps positive values to whole-number keys so that all values with one key differ from the
key's value by at most a fixed ratio: key `k` covers the values from `gamma ^ (k - 1)`, not
included, to `gamma ^ k`.
-/

namespace SpanRollup

structure Scale where
  /-- How many bins a sketch on this scale may hold for each sign. -/
  maxBins : UInt32
  gamma : Binary64
  lnGamma : Binary64
  /-- Values up to this one count as zero. -/
  minValue : Binary64
  offset : Int32
  deriving DecidableEq, Repr

namespace Scale

/-- The scale whose values are off by at most `accuracy` of themselves. Values up to one count as
zero; their key would be 0, which puts the offset at one. -/
def ofAccuracy (accuracy : Binary64) (maxBins : UInt32) : Scale :=
  let excess := ((Binary64.ofNat 2).mul accuracy).div (Binary64.one.sub accuracy)
  { maxBins, gamma := Binary64.one.add excess, lnGamma := excess.lnOnePlus
    minValue := Binary64.one, offset := 1 }

/-- Whether two scales have the same parameters, as numbers. -/
def same (s t : Scale) : Bool :=
  s.maxBins = t.maxBins && s.gamma.same t.gamma && s.lnGamma.same t.lnGamma &&
    s.minValue.same t.minValue && s.offset = t.offset

def key (s : Scale) (v : Binary64) : Int32 := (v.ln.div s.lnGamma).ceilInt32

/-- The value that stands for all values of a key. -/
def value (s : Scale) (key : Int32) : Binary64 :=
  ((Binary64.ofInt key.toInt).mul s.lnGamma).exp.mul
    ((Binary64.ofNat 2).div (Binary64.one.add s.gamma))

end Scale

end SpanRollup
