import SpanRollup.Number.Instances

/-!
# 64-bit binary floating point

A number of the IEEE 754 format `binary64` is its bit pattern. Every finite number is a whole
multiple of the smallest positive one, `2 ^ -1074`, so exact values are integers here: `units` is
the value in that unit, and the arithmetic rounds an exact integer ratio once, with `nearest`.

- `Binary64.rank`: the order of the numbers as an order of integers.
- `nearest`: the representable magnitude closest to a ratio, a tie going to the even one.
- `add`, `sub`, `mul`, `div`: correctly rounded. A NaN operand is passed on, the left one first,
  with its quiet bit set; an operation without an answer gives `Binary64.undefined`.
-/

namespace SpanRollup

/-- The quotient `num / den` rounded to a whole number, a tie going to the even one. -/
def roundHalfEven (num den : Nat) : Nat :=
  let q := num / den
  let twice := 2 * (num % den)
  if twice < den then q else if den < twice then q + 1 else q + q % 2

structure Binary64 where
  bits : UInt64
  deriving DecidableEq, Repr

namespace Binary64

/-- The pattern without its sign bit. For numbers it grows with the absolute value. -/
def magnitude (x : Binary64) : Nat := x.bits.toNat % 2 ^ 63

def isNegative (x : Binary64) : Bool := 2 ^ 63 ≤ x.bits.toNat

/-- The magnitude of the infinities; larger ones are NaNs. -/
def infinityMagnitude : Nat := 2047 * 2 ^ 52

def isNaN (x : Binary64) : Bool := infinityMagnitude < x.magnitude

def isFinite (x : Binary64) : Bool := x.magnitude < infinityMagnitude

def isInfinite (x : Binary64) : Bool := x.magnitude = infinityMagnitude

def ofMagnitude (negative : Bool) (magnitude : Nat) : Binary64 :=
  ⟨UInt64.ofNat (magnitude + if negative then 2 ^ 63 else 0)⟩

def zero : Binary64 := ofMagnitude false 0

def infinity : Binary64 := ofMagnitude false infinityMagnitude

def negInfinity : Binary64 := ofMagnitude true infinityMagnitude

instance : Inhabited Binary64 := ⟨zero⟩

/-- The answer of an operation that has none, such as `∞ - ∞`. -/
def undefined : Binary64 := ⟨0xfff8000000000000⟩

/-- A NaN as an operation passes it on. -/
def quiet (x : Binary64) : Binary64 := ⟨x.bits ||| 0x0008000000000000⟩

/-! ### Exact values -/

/-- The absolute value that a magnitude stands for, in units of `2 ^ -1074`. -/
def magnitudeUnits (magnitude : Nat) : Nat :=
  if magnitude < 2 ^ 52 then magnitude
  else (2 ^ 52 + magnitude % 2 ^ 52) * 2 ^ (magnitude / 2 ^ 52 - 1)

/-- The value of a finite number, in units of `2 ^ -1074`. -/
def units (x : Binary64) : Int :=
  if x.isNegative then -(magnitudeUnits x.magnitude : Int) else magnitudeUnits x.magnitude

/-- How many units make one. -/
def unitsPerOne : Nat := 2 ^ 1074

/-- The magnitude closest to `num / den` units, a tie going to the even pattern. Beyond the
largest finite number it is infinity. -/
def nearest (num den : Nat) : Nat :=
  let shift := (num / den).log2 - 52
  min infinityMagnitude (shift * 2 ^ 52 + roundHalfEven num (den * 2 ^ shift))

/-- The number closest to `± num / den`. -/
def ofRatio (negative : Bool) (num den : Nat) : Binary64 :=
  ofMagnitude negative (nearest (num * unitsPerOne) den)

def ofNat (n : Nat) : Binary64 := ofRatio false n 1

def ofInt (n : Int) : Binary64 := ofRatio (n < 0) n.natAbs 1

def one : Binary64 := ofNat 1

/-! ### Order -/

/-- A number's place in the order of the numbers; both zeros have place 0. -/
def rank (x : Binary64) : Int := if x.isNegative then -(x.magnitude : Int) else x.magnitude

/-- A NaN is not below anything, nor anything below it. -/
def lt (x y : Binary64) : Bool := !x.isNaN && !y.isNaN && x.rank < y.rank

def le (x y : Binary64) : Bool := !x.isNaN && !y.isNaN && x.rank ≤ y.rank

/-- Equality of numbers: the zeros are equal, and a NaN differs from itself. -/
def same (x y : Binary64) : Bool := !x.isNaN && !y.isNaN && x.rank = y.rank

/-! ### Arithmetic -/

def neg (x : Binary64) : Binary64 := ⟨x.bits ^^^ 0x8000000000000000⟩

def add (x y : Binary64) : Binary64 :=
  if x.isNaN then x.quiet
  else if y.isNaN then y.quiet
  else if x.isInfinite then
    if y.isInfinite && x.isNegative != y.isNegative then undefined else x
  else if y.isInfinite then y
  else
    let sum := x.units + y.units
    if sum = 0 then ofMagnitude (x.isNegative && y.isNegative) 0
    else ofMagnitude (sum < 0) (nearest sum.natAbs 1)

def sub (x y : Binary64) : Binary64 := x.add y.neg

def mul (x y : Binary64) : Binary64 :=
  let negative := x.isNegative != y.isNegative
  if x.isNaN then x.quiet
  else if y.isNaN then y.quiet
  else if x.isInfinite || y.isInfinite then
    if x.magnitude = 0 || y.magnitude = 0 then undefined else ofMagnitude negative infinityMagnitude
  else
    ofMagnitude negative
      (nearest (magnitudeUnits x.magnitude * magnitudeUnits y.magnitude) unitsPerOne)

def div (x y : Binary64) : Binary64 :=
  let negative := x.isNegative != y.isNegative
  if x.isNaN then x.quiet
  else if y.isNaN then y.quiet
  else if x.isInfinite then
    if y.isInfinite then undefined else ofMagnitude negative infinityMagnitude
  else if y.isInfinite then ofMagnitude negative 0
  else if y.magnitude = 0 then
    if x.magnitude = 0 then undefined else ofMagnitude negative infinityMagnitude
  else
    ofMagnitude negative
      (nearest (magnitudeUnits x.magnitude * unitsPerOne) (magnitudeUnits y.magnitude))

/-! ### Whole numbers -/

/-- The least whole number that is not below `x`, held within the 32-bit range. A NaN gives 0. -/
def ceilInt32 (x : Binary64) : Int32 :=
  if x.isNaN then 0
  else if x.isInfinite then if x.isNegative then Int32.minValue else Int32.maxValue
  else Int32.ofInt (max (-2 ^ 31) (min (2 ^ 31 - 1) (-(-x.units / unitsPerOne))))

/-- The whole part of `x`, held within the unsigned 64-bit range. A NaN gives 0. -/
def truncUInt64 (x : Binary64) : UInt64 :=
  if x.isNaN || x.isNegative then 0
  else if x.isInfinite then UInt64.ofNat (2 ^ 64 - 1)
  else UInt64.ofNat (min (2 ^ 64 - 1) (magnitudeUnits x.magnitude / unitsPerOne))

/-! ### Single precision -/

/-- The value of a 32-bit float. Every one is representable; a NaN keeps its payload's top. -/
def ofSingleBits (single : UInt32) : Binary64 :=
  let n := single.toNat
  let negative : Bool := 2 ^ 31 ≤ n
  let exponent := n / 2 ^ 23 % 256
  let fraction := n % 2 ^ 23
  if exponent = 255 then
    let pattern := ofMagnitude negative (infinityMagnitude + fraction * 2 ^ 29)
    if fraction = 0 then pattern else pattern.quiet
  else if exponent = 0 then ofRatio negative fraction (2 ^ 149)
  else ofRatio negative ((2 ^ 23 + fraction) * 2 ^ (exponent - 1)) (2 ^ 149)

end Binary64

end SpanRollup
