import SpanRollup.Number.Instances

/-!
# Logarithm and exponential in fixed point

Numbers are naturals with 160 fractional bits, so `FixedPoint.one` stands for one. Both functions
sum their power series until the terms vanish, which leaves an error of a few hundred units in the
last place, far below the 53 bits that a rounded result keeps.

- `FixedPoint.ln`: the natural logarithm of a ratio that is at least one.
- `FixedPoint.exp`: the exponential of a number below one.
-/

namespace SpanRollup.FixedPoint

/-- How many fractional bits there are. -/
def places : Nat := 160

def one : Nat := 2 ^ places

def mul (x y : Nat) : Nat := (x * y) >>> places

/-- `power / k + power * square / (k + 2) + power * square ^ 2 / (k + 4) + …`, as many terms as
the first argument says. -/
def oddPowers (square : Nat) : Nat → Nat → Nat → Nat
  | 0, _, _ => 0
  | terms + 1, power, k => power / k + oddPowers square terms (mul power square) (k + 2)

/-- The inverse hyperbolic tangent of `z`. Terms shrink by a factor of nine for `z` up to a
third, so 52 of them fill 160 bits. -/
def atanh (z : Nat) : Nat := oddPowers (mul z z) 52 z 1

def lnTwo : Nat := 2 * atanh (one / 3)

/-- The natural logarithm of `num / den`, for `den ≤ num`. With `m` the ratio scaled by a power of
two into `[1, 2)`, it is `k * ln 2 + 2 * atanh ((m - 1) / (m + 1))`. -/
def ln (num den : Nat) : Nat :=
  let k := (num / den).log2
  let base := den * 2 ^ k
  k * lnTwo + 2 * atanh ((num - base) * one / (num + base))

/-- `term + term * x / n + term * x ^ 2 / (n * (n + 1)) + …`, as many terms as the first argument
says. -/
def factorialPowers (x : Nat) : Nat → Nat → Nat → Nat
  | 0, _, _ => 0
  | terms + 1, term, n => term + factorialPowers x terms (mul term x / n) (n + 1)

/-- The exponential of `x`, for `x` below one; `42!` exceeds `2 ^ 160`. -/
def exp (x : Nat) : Nat := factorialPowers x 42 one 1

end SpanRollup.FixedPoint
