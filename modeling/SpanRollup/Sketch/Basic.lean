import SpanRollup.Sketch.Bins
import SpanRollup.Sketch.Scale

/-!
# Quantile sketches

A sketch counts values on a logarithmic scale, positive and negative ones apart, and keeps their
extremes and their sum. It estimates quantiles within the accuracy of its scale.

- `Sketch.add`: takes in a value.
- `Sketch.merge`: takes in the values of another sketch on the same scale.
- `Sketch.quantile`: the value below which a given part of the values lies.
-/

namespace SpanRollup

structure Sketch where
  scale : Scale
  positive : Bins
  negative : Bins
  min : Binary64
  max : Binary64
  sum : Binary64
  /-- How many values counted as zero. -/
  zeros : UInt64
  deriving DecidableEq, Repr

namespace Sketch

def empty (scale : Scale) : Sketch :=
  { scale, positive := Bins.empty scale.maxBins.toNat, negative := Bins.empty scale.maxBins.toNat
    min := .infinity, max := .negInfinity, sum := .zero, zeros := 0 }

def count (s : Sketch) : UInt64 := s.positive.total + s.zeros + s.negative.total

def lower (v bound : Binary64) : Binary64 := if v.lt bound then v else bound

def upper (v bound : Binary64) : Binary64 := if bound.lt v then v else bound

/-- It is `none` if the bins do not fit together. -/
def add (s : Sketch) (v : Binary64) : Option Sketch := do
  let s ←
    if s.scale.minValue.lt v then do
      some { s with positive := ← s.positive.add (s.scale.key v) }
    else if v.lt s.scale.minValue.neg then do
      some { s with negative := ← s.negative.add (s.scale.key v.neg) }
    else some { s with zeros := s.zeros + 1 }
  some { s with min := lower v s.min, max := upper v s.max, sum := s.sum.add v }

inductive MergeError where
  | differentScales
  /-- The bins do not fit together. -/
  | damaged
  deriving DecidableEq, Repr

/-- The extremes are those of `other` if the positive bins were empty; they are widened if the
positive bins of `other` are not; otherwise they stay. -/
def merge (s other : Sketch) : Except MergeError Sketch :=
  if !s.scale.same other.scale then .error .differentScales
  else match s.positive.merge other.positive, s.negative.merge other.negative with
    | some positive, some negative =>
      let (min, max) :=
        if s.positive.total = 0 then (other.min, other.max)
        else if 0 < other.positive.total then (lower other.min s.min, upper other.max s.max)
        else (s.min, s.max)
      .ok { s with
        positive, negative, min, max
        zeros := s.zeros + other.zeros, sum := s.sum.add other.sum }
    | _, _ => .error .damaged

/-- The place of quantile `q` in the order of all values, from 0 on. -/
def rank (s : Sketch) (q : Binary64) : UInt64 :=
  (q.mul ((Binary64.ofNat s.count.toNat).sub .one)).truncUInt64

/-- The estimate of the value at a place: negative values come first, those with the highest keys
in front, then the zeros, then the positive values. -/
def valueAtRank (s : Sketch) (rank : UInt64) : Binary64 :=
  if rank < s.negative.total then
    (s.scale.value (s.negative.keyAtRank (s.negative.total - rank - 1))).neg
  else if rank < s.zeros + s.negative.total then .zero
  else s.scale.value (s.positive.keyAtRank (rank - s.zeros - s.negative.total))

/-- There is no quantile outside `[0, 1]`, nor of an empty sketch. The outer ones are exact. -/
def quantile (s : Sketch) (q : Binary64) : Option Binary64 :=
  if q.lt .zero || Binary64.one.lt q || s.count = 0 then none
  else if q.same .zero then some s.min
  else if q.same .one then some s.max
  else some (s.valueAtRank (s.rank q))

end Sketch

end SpanRollup
