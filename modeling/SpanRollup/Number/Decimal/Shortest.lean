import SpanRollup.Number.Binary64

/-!
# Shortest decimal text of a 64-bit float

A finite number is written with the fewest digits that read back as the same number, and of those
digit strings with the one closest to it. The point is always written out in place, never as an
exponent.

- `Decimal.shortest`: the digits and their power of ten.
- `Binary64.text`: the text, with `NaN`, `inf` and `-0` for the values that have no plain digits.
- `Binary64.textWithPoint`: the same, where a finite whole number ends in `.0`.
-/

namespace SpanRollup

/-- The number `digits * 10 ^ exponent`. -/
structure Decimal where
  digits : Nat
  exponent : Int
  deriving DecidableEq, Repr

namespace Decimal

/-- How many decimal digits `n` has; zero has none. -/
def length (n : Nat) : Nat :=
  if h : n = 0 then 0 else length (n / 10) + 1
termination_by n
decreasing_by omega

/-- The exponent of the first digit of `num / den`, both positive. -/
def leadingExponent (num den : Nat) : Int :=
  if den ≤ num then (length (num / den) : Int) - 1 else -(length ((den - 1) / num) : Int)

/-- The numbers that round to one magnitude: those between `low / den` and `high / den`, the ends
included if `closed`. The magnitude itself is `value / den`. -/
structure Interval where
  low : Nat
  value : Nat
  high : Nat
  den : Nat
  closed : Bool

/-- The neighbours of a number lie `2 ^ shift` units away, except that below a power of two the
lower one is half as far. All parts are in quarters of a unit. -/
def Interval.ofMagnitude (magnitude : Nat) : Interval :=
  let gap := 2 ^ (magnitude / 2 ^ 52 - 1)
  let value := 4 * Binary64.magnitudeUnits magnitude
  let lowerHalf := if magnitude % 2 ^ 52 = 0 && 2 ^ 53 ≤ magnitude then gap else 2 * gap
  ⟨value - lowerHalf, value, value + 2 * gap, 4 * Binary64.unitsPerOne, magnitude % 2 = 0⟩

/-- The interval with everything divided by `10 ^ exponent`. -/
def Interval.scale (i : Interval) (exponent : Int) : Interval :=
  let up := 10 ^ (-exponent).toNat
  { i with
    low := i.low * up, value := i.value * up, high := i.high * up
    den := i.den * 10 ^ exponent.toNat }

def Interval.contains (i : Interval) (n : Nat) : Bool :=
  let x := n * i.den
  if i.closed then i.low ≤ x && x ≤ i.high else i.low < x && x < i.high

/-- The whole number in the interval that is closest to its value, if it contains a neighbour of
the value. Of two that are equally close it is the greater one. -/
def Interval.wholeNumber? (i : Interval) : Option Nat :=
  let below := i.value / i.den
  let above := below + 1
  let closerBelow := 2 * (i.value % i.den) < i.den
  if i.contains below && (closerBelow || !i.contains above) then some below
  else if i.contains above then some above
  else none

/-- Looks for a decimal of as few digits as possible, from the grid of `10 ^ exponent` on through
as many finer ones as the first argument says. -/
def Interval.search (i : Interval) : Nat → Int → Decimal
  | 0, exponent => ⟨(i.scale exponent).value / (i.scale exponent).den, exponent⟩
  | finer + 1, exponent =>
    match (i.scale exponent).wholeNumber? with
    | some n => ⟨n, exponent⟩
    | none => i.search finer (exponent - 1)

/-- The shortest decimal that rounds to a positive finite magnitude. It may be the power of ten
above it. Seventeen digits always suffice. -/
def shortest (magnitude : Nat) : Decimal :=
  let i := Interval.ofMagnitude magnitude
  i.search 18 (leadingExponent i.value i.den + 1)

/-- The digits with the point in place. -/
def text (d : Decimal) : String :=
  let digits := (toString d.digits).toList
  let zeros (n : Int) := List.replicate n.toNat '0'
  if 0 ≤ d.exponent then String.ofList (digits ++ zeros d.exponent)
  else
    let whole := (digits.length : Int) + d.exponent
    if 0 < whole then
      String.ofList (digits.take whole.toNat ++ '.' :: digits.drop whole.toNat)
    else String.ofList ('0' :: '.' :: zeros (-whole) ++ digits)

end Decimal

namespace Binary64

def text (x : Binary64) : String :=
  if x.isNaN then "NaN"
  else
    let sign := if x.isNegative then "-" else ""
    if x.isInfinite then sign ++ "inf"
    else if x.magnitude = 0 then sign ++ "0"
    else sign ++ (Decimal.shortest x.magnitude).text

def textWithPoint (x : Binary64) : String :=
  if x.isFinite && !x.text.contains '.' then x.text ++ ".0" else x.text

end Binary64

end SpanRollup
