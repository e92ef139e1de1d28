import SpanRollup.Number.Scaled
import SpanRollup.Number.Transcendental

/-!
# Exponential by table and polynomial

`Binary64.exp` splits `x` as `k * ln 2 / 128 + r` with a whole number `k`, so that the result is
`2 ^ (k / 128) * e ^ r`. The power is taken from a table of 128, and `e ^ r` from a polynomial of
degree five, in arithmetic that rounds after each step. The result is one of the two numbers around
the exact value, though not always the closer one.
-/

namespace SpanRollup

namespace Exponential

/-- A power of two as a number, and the part of it that the number lacks. -/
structure Power where
  value : Scaled
  missing : Scaled

/-- The power `2 ^ (i / 128)`. -/
def Power.ofStep (i : Nat) : Power :=
  let power := FixedPoint.exp (FixedPoint.lnTwo * i / 128)
  let exact : Scaled := ⟨power, -FixedPoint.places⟩
  { value := exact.round, missing := (exact.sub exact.round).div exact.round }

def powers : Array Power := (Array.range 128).map Power.ofStep

/-- How many steps of `ln 2 / 128` make one. -/
def stepsPerOne : Scaled := .ofBits 0x40671547652b82fe

/-- A step, negative, in a part with few bits and a small rest. -/
def stepHigh : Scaled := .ofBits 0xbf762e42fefa0000

def stepLow : Scaled := .ofBits 0xbd0cf79abc9e3b39

/-- What is left of `x` after `k` steps. -/
def remainder (x : Scaled) (k : Int) : Scaled :=
  Scaled.mulAdd (.ofInt k) stepLow (Scaled.mulAdd (.ofInt k) stepHigh x)

def cubic : Scaled := .ofBits 0x3fc555555555543c

def quartic : Scaled := .ofBits 0x3fa55555cf172b91

def quintic : Scaled := .ofBits 0x3f81111167a4d017

def quadratic : Scaled := .ofBits 0x3fdffffffffffdbd

/-- `e ^ r - 1` for a small `r`, and `missing` more. -/
def growth (r missing : Scaled) : Scaled :=
  let square := (r.mul r).round
  let low := Scaled.mulAdd square (Scaled.mulAdd r cubic quadratic) (missing.add r).round
  Scaled.mulAdd (square.mul square).round (Scaled.mulAdd r quintic quartic) low

/-- The sum of `scale` and `scale * growth`, for results close to zero: what the growth adds is
rounded on its own. The smallest normal number is scaled to one here; below that, adding one first
makes the sum end where the result's last place will be. -/
def smallSum (scale growth : Scaled) : Scaled :=
  let gain := (scale.mul growth).round
  let sum := (scale.add gain).round
  if sum.lt .one then
    let rest := ((scale.sub sum).round.add gain).round
    let whole := (Scaled.one.add sum).round
    let rest := (((Scaled.one.sub whole).round.add sum).round.add rest).round
    (whole.add rest).round.sub .one
  else sum

/-- The exponential of a number between -1024 and 1024. -/
def approximate (x : Scaled) : Binary64 :=
  let k := (stepsPerOne.mul x).toInt
  let power := powers.getD (k % 128).toNat (Power.ofStep 0)
  let growth := growth (remainder x k) power.missing
  let scale : Scaled := ⟨power.value.digits, power.value.exponent + k / 128⟩
  if (Scaled.ofInt (-512)).lt x then (scale.mul (Scaled.one.add growth)).toBinary64
  else
    let sum := smallSum ⟨scale.digits, scale.exponent + 1022⟩ growth
    Scaled.toBinary64 ⟨sum.digits, sum.exponent - 1022⟩

end Exponential

/-- The exponential: one of the numbers around the exact value, chosen by the approximation. -/
def Binary64.exp (x : Binary64) : Binary64 :=
  if x.isNaN || 1024 * Binary64.unitsPerOne ≤ Binary64.magnitudeUnits x.magnitude then x.expNearest
  else (Exponential.approximate (.ofBinary64 x)).orNearest x.expNearest

end SpanRollup
