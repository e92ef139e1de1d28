import SpanRollup.Number.Binary64

/-!
# Scaled integers

A scaled integer `digits * 2 ^ exponent` is exact. Arithmetic in 53 bits is exact arithmetic
followed by `Scaled.round`; other than in the format `binary64`, no exponent is too small or too
large.
-/

namespace SpanRollup

structure Scaled where
  digits : Int
  exponent : Int
  deriving DecidableEq, Repr

namespace Scaled

def zero : Scaled := ⟨0, 0⟩

def one : Scaled := ⟨1, 0⟩

def half : Scaled := ⟨1, -1⟩

def ofInt (n : Int) : Scaled := ⟨n, 0⟩

/-- The value of a finite number. -/
def ofBinary64 (x : Binary64) : Scaled :=
  let m := x.magnitude
  let digits : Int := if m < 2 ^ 52 then m else 2 ^ 52 + m % 2 ^ 52
  { digits := if x.isNegative then -digits else digits
    exponent := if m < 2 ^ 52 then -1074 else (m / 2 ^ 52 : Int) - 1075 }

/-- The value of a number that is given by its pattern. -/
def ofBits (bits : UInt64) : Scaled := ofBinary64 ⟨bits⟩

/-- The closest number. -/
def toBinary64 (x : Scaled) : Binary64 :=
  let places := x.exponent + 1074
  .ofMagnitude (x.digits < 0)
    (Binary64.nearest (x.digits.natAbs * 2 ^ places.toNat) (2 ^ (-places).toNat))

/-! ### Exact arithmetic -/

def neg (x : Scaled) : Scaled := ⟨-x.digits, x.exponent⟩

def mul (x y : Scaled) : Scaled := ⟨x.digits * y.digits, x.exponent + y.exponent⟩

def add (x y : Scaled) : Scaled :=
  let exponent := min x.exponent y.exponent
  ⟨x.digits * 2 ^ (x.exponent - exponent).toNat + y.digits * 2 ^ (y.exponent - exponent).toNat,
    exponent⟩

def sub (x y : Scaled) : Scaled := x.add y.neg

def lt (x y : Scaled) : Bool := (x.sub y).digits < 0

/-- The closest whole number, a tie going to the even one. -/
def toInt (x : Scaled) : Int :=
  let n : Int := roundHalfEven (x.digits.natAbs * 2 ^ x.exponent.toNat) (2 ^ (-x.exponent).toNat)
  if x.digits < 0 then -n else n

/-! ### Arithmetic in 53 bits -/

/-- The closest one with 53 bits of digits, a tie going to the even one. -/
def round (x : Scaled) : Scaled :=
  let surplus := x.digits.natAbs.log2 - 52
  let n : Int := roundHalfEven x.digits.natAbs (2 ^ surplus)
  ⟨if x.digits < 0 then -n else n, x.exponent + surplus⟩

/-- The rounded quotient. It is found with at least two digits more than are kept, the last of which
tells whether there is a rest. -/
def div (x y : Scaled) : Scaled :=
  let places := y.digits.natAbs.log2 + 56
  let num := x.digits.natAbs * 2 ^ places
  let den := y.digits.natAbs
  let quotient : Int := 2 * (num / den) + if num % den = 0 then 0 else 1
  round ⟨if x.digits < 0 then -quotient else quotient, x.exponent - y.exponent - places - 1⟩

/-- `x * y + z`, rounded once. -/
def mulAdd (x y z : Scaled) : Scaled := ((x.mul y).add z).round

end Scaled

end SpanRollup
