import SpanRollup.Number.Binary64
import SpanRollup.Number.FixedPoint

/-!
# Logarithm and exponential of a 64-bit float, rounded once

Each is the exact function value, taken from `FixedPoint` with some 150 correct bits after the
point, rounded to the closest number.

`Binary64.orNearest` holds a faster approximation to the two numbers around the exact value.
-/

namespace SpanRollup.Binary64

/-- The logarithm of `num / den`, both positive. -/
def lnRatio (num den : Nat) : Binary64 :=
  if den ≤ num then ofRatio false (FixedPoint.ln num den) FixedPoint.one
  else ofRatio true (FixedPoint.ln den num) FixedPoint.one

def lnNearest (x : Binary64) : Binary64 :=
  if x.isNaN then x.quiet
  else if x.magnitude = 0 then negInfinity
  else if x.isNegative then undefined
  else if x.isInfinite then x
  else lnRatio (magnitudeUnits x.magnitude) unitsPerOne

/-- The logarithm of `1 + x`, where the sum is not rounded. Below `2 ^ -54` it rounds to `x`. -/
def lnOnePlusNearest (x : Binary64) : Binary64 :=
  if x.isNaN then x.quiet
  else if x.magnitude < 0x3c90000000000000 then x
  else if x.isInfinite then if x.isNegative then undefined else x
  else
    let sum := unitsPerOne + x.units
    if sum < 0 then undefined
    else if sum = 0 then negInfinity
    else lnRatio sum.toNat unitsPerOne

/-- `x` is split as `k * ln 2 + r` with `r` in `[0, ln 2)`, so that the result is
`exp r * 2 ^ k`. From 1024 on, in either direction, the result leaves the range of the format. -/
def expNearest (x : Binary64) : Binary64 :=
  if x.isNaN then x.quiet
  else if x.isInfinite || 1024 * unitsPerOne ≤ magnitudeUnits x.magnitude then
    if x.isNegative then zero else infinity
  else
    let fixed := x.units * FixedPoint.one / unitsPerOne
    let k := fixed / FixedPoint.lnTwo
    let power := FixedPoint.exp (fixed - k * FixedPoint.lnTwo).toNat
    ofRatio false (power * 2 ^ k.toNat) (FixedPoint.one * 2 ^ (-k).toNat)

/-- Whether two numbers of one sign are equal or have no number between them. -/
def adjacent (x y : Binary64) : Bool :=
  x.isNegative = y.isNegative &&
    x.magnitude ≤ y.magnitude + 1 && y.magnitude ≤ x.magnitude + 1

/-- An approximation to what `exact` is closest to, unless it is too far off. -/
def orNearest (approximation exact : Binary64) : Binary64 :=
  if approximation.adjacent exact then approximation else exact

end SpanRollup.Binary64
