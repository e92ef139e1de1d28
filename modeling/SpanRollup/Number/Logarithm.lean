import SpanRollup.Number.Scaled
import SpanRollup.Number.Transcendental

/-!
# Logarithm by table and polynomial

- `Binary64.ln` splits `x` as `2 ^ k * z` with `z` close to one, and `z` as `c * (1 + r)` with `c`
  from a table of 128 points, so that the result is `k * ln 2 + ln c + ln (1 + r)`.
- `Binary64.lnOnePlus` splits `1 + x` as `2 ^ k * (1 + f)` and takes `ln (1 + f)` from a series in
  `f / (2 + f)`.

Both use arithmetic that rounds after each step. The result is one of the two numbers around the
exact value, though not always the closer one.
-/

namespace SpanRollup

namespace Logarithm

/-- The reciprocals, as magnitudes, of points close to the middles of the 128 parts of
`[0.6875, 1.375)`. A part is 1 / 256 wide below one, and 1 / 128 from one on. The points are such
that the logarithms lie close to numbers. -/
def reciprocals : Array Nat := #[
  0x3ff734f0c3e0de9f, 0x3ff713786a2ce91f, 0x3ff6f26008fab5a0, 0x3ff6d1a61f138c7d,
  0x3ff6b1490bc5b4d1, 0x3ff69147332f0cba, 0x3ff6719f18224223, 0x3ff6524f99a51ed9,
  0x3ff63356aa8f24c4, 0x3ff614b36b9ddc14, 0x3ff5f66452c65c4c, 0x3ff5d867b5912c4f,
  0x3ff5babccb5b90de, 0x3ff59d61f2d91a78, 0x3ff5805612465687, 0x3ff56397cee76bd3,
  0x3ff54725e2a77f93, 0x3ff52aff42064583, 0x3ff50f22dbb2bddf, 0x3ff4f38f4734ded7,
  0x3ff4d843cfde2840, 0x3ff4bd3ec078a3c8, 0x3ff4a27fc3e0258a, 0x3ff4880524d48434,
  0x3ff46dce1b192d0b, 0x3ff453d9d3391854, 0x3ff43a2744b4845a, 0x3ff420b54115f8fb,
  0x3ff40782da3ef4b1, 0x3ff3ee8f5d57fe8f, 0x3ff3d5d9a00b4ce9, 0x3ff3bd60c010c12b,
  0x3ff3a5242b75dab8, 0x3ff38d22cd9fd002, 0x3ff3755bc5847a1c, 0x3ff35dce49ad36e2,
  0x3ff34679984dd440, 0x3ff32f5cceffcb24, 0x3ff3187775a10d49, 0x3ff301c8373e3990,
  0x3ff2eb4ebb95f841, 0x3ff2d50a0219a9d1, 0x3ff2bef9a8b7fd2a, 0x3ff2a91c7a0c1bab,
  0x3ff293726014b530, 0x3ff27dfa5757a1f5, 0x3ff268b39b1d3bbf, 0x3ff2539d838ff5bd,
  0x3ff23eb7aac9083b, 0x3ff22a012ba940b6, 0x3ff2157996cc4132, 0x3ff201201dd2fc9b,
  0x3ff1ecf4494d480b, 0x3ff1d8f5528f6569, 0x3ff1c52311577e7c, 0x3ff1b17c74cb26e9,
  0x3ff19e010c2c1ab6, 0x3ff18ab07bb670bd, 0x3ff1778a25efbcb6, 0x3ff1648d354c31da,
  0x3ff151b990275fdd, 0x3ff13f0ea432d24c, 0x3ff12c8b7210f9da, 0x3ff11a3028ecb531,
  0x3ff107fbda8434af, 0x3ff0f5ee0f4e6bb3, 0x3ff0e4065d2a9fce, 0x3ff0d244632ca521,
  0x3ff0c0a77ce2981a, 0x3ff0af2f83c636d1, 0x3ff09ddb98a01339, 0x3ff08cabaf52e7df,
  0x3ff07b9f2f4e28fb, 0x3ff06ab58c358f19, 0x3ff059eea5ecf92c, 0x3ff04949cdd12c90,
  0x3ff038c6c6f0ada9, 0x3ff02865137932a9, 0x3ff0182427ea7348, 0x3ff008040614b195,
  0x3fefe01ff726fa1a, 0x3fefa11cc261ea74, 0x3fef6310b081992e, 0x3fef25f63ceeadcd,
  0x3feee9c8039113e7, 0x3feeae8078cbb1ab, 0x3fee741aa29d0c9b, 0x3fee3a91830a99b5,
  0x3fee01e009609a56, 0x3fedca01e577bb98, 0x3fed92f20b7c9103, 0x3fed5cac66fb5cce,
  0x3fed272caa5ede9d, 0x3fecf26e3e6b2ccd, 0x3fecbe6da2a77902, 0x3fec8b266d37086d,
  0x3fec5894bd5d5804, 0x3fec26b533bb9f8c, 0x3febf583eeece73f, 0x3febc4fd75db96c1,
  0x3feb951e0c864a28, 0x3feb65e2c5ef3e2c, 0x3feb374867c9888b, 0x3feb094b211d304a,
  0x3feadbe885f2ef7e, 0x3feaaf1d31603da2, 0x3fea82e63fd358a7, 0x3fea5740ef09738b,
  0x3fea2c2a90ab4b27, 0x3fea01a01393f2d1, 0x3fe9d79f24db3c1b, 0x3fe9ae2505c7b190,
  0x3fe9852ef297ce2f, 0x3fe95cbaeea44b75, 0x3fe934c69de74838, 0x3fe90d4f2f6752e6,
  0x3fe8e6528effd79d, 0x3fe8bfce9fcc007c, 0x3fe899c0dabec30e, 0x3fe87427aa2317fb,
  0x3fe84f00acb39a08, 0x3fe82a49e8653e55, 0x3fe8060195f40260, 0x3fe7e22563e0a329,
  0x3fe7beb377dcb5ad, 0x3fe79baa679725c2, 0x3fe77907f2170657, 0x3fe756cadbd6130c]

/-- A point of the table: its reciprocal, and its logarithm. -/
structure Point where
  reciprocal : Scaled
  ln : Scaled

def Point.ofReciprocal (magnitude : Nat) : Point :=
  let reciprocal := Binary64.ofMagnitude false magnitude
  { reciprocal := .ofBinary64 reciprocal, ln := .ofBinary64 reciprocal.lnNearest.neg }

def points : Array Point := reciprocals.map Point.ofReciprocal

/-- The logarithm of two in a part with few bits and a small rest. -/
def lnTwoHigh : Scaled := .ofBits 0x3fe62e42fefa3800

def lnTwoLow : Scaled := .ofBits 0x3d2ef35793c76730

def quadratic : Scaled := .ofBits 0xbfe0000000000001

def cubic : Scaled := .ofBits 0x3fd555555551305b

def quartic : Scaled := .ofBits 0xbfcfffffffeb4590

def quintic : Scaled := .ofBits 0x3fc999b324f10111

def sextic : Scaled := .ofBits 0xbfc55575e506c89f

/-- The magnitude of 0.6875, where the table starts. -/
def start : Nat := 0x3fe6000000000000

/-- The logarithm of the positive number of a magnitude in the normal range. -/
def approximate (magnitude : Nat) : Binary64 :=
  let distance := (magnitude : Int) - start
  let k := distance / 2 ^ 52
  let point :=
    points.getD (distance / 2 ^ 45 % 128).toNat (Point.ofReciprocal Binary64.one.magnitude)
  let z := Scaled.ofBinary64 (.ofMagnitude false (magnitude - k * 2 ^ 52).toNat)
  let r := Scaled.mulAdd z point.reciprocal Scaled.one.neg
  let base := Scaled.mulAdd (.ofInt k) lnTwoHigh point.ln
  let high := (base.add r).round
  let low := Scaled.mulAdd (.ofInt k) lnTwoLow ((base.sub high).round.add r).round
  let square := (r.mul r).round
  let series := Scaled.mulAdd r quartic cubic
  let series := Scaled.mulAdd (Scaled.mulAdd r sextic quintic) square series
  let rest := Scaled.mulAdd (r.mul square).round series (Scaled.mulAdd square quadratic low)
  (rest.add high).toBinary64

/-- Whether a magnitude is so close to one that the parts of the sum would cancel. -/
def isCloseToOne (magnitude : Nat) : Bool :=
  0x3fee000000000000 ≤ magnitude && magnitude < 0x3ff1090000000000

end Logarithm

def Binary64.ln (x : Binary64) : Binary64 :=
  if x.isNegative || !x.isFinite || x.magnitude < 2 ^ 52 || Logarithm.isCloseToOne x.magnitude then
    x.lnNearest
  else (Logarithm.approximate x.magnitude).orNearest x.lnNearest

/-! ### One plus a number -/

namespace LogarithmOnePlus

/-- A number `x` so that `1 + x = 2 ^ exponent * (1 + fraction)`, but for `missing`. -/
structure Split where
  exponent : Int
  fraction : Scaled
  missing : Scaled

/-- Up to `√2 - 1` the number is its own fraction. Beyond, the rounded sum `1 + x` is scaled into
`[√2 / 2, √2)`, and what its rounding lost is made up for. From `2 ^ 53` on, one is not added. -/
def Split.ofNumber (x : Binary64) : Split :=
  if x.magnitude < 0x3fda827a00000000 then
    { exponent := 0, fraction := .ofBinary64 x, missing := Scaled.zero }
  else
    let sum := if x.magnitude < 0x4340000000000000 then Binary64.one.add x else x
    let missing :=
      if 0x4340000000000000 ≤ x.magnitude then Binary64.zero
      else if sum.lt (Binary64.ofNat 2) then (x.sub (sum.sub Binary64.one)).div sum
      else (Binary64.one.sub (sum.sub x)).div sum
    let exponent := (sum.magnitude / 2 ^ 52 : Int) - 1023
    let exponent :=
      if sum.magnitude % 2 ^ 52 < 0x6a09e00000000 then exponent else exponent + 1
    let part := Scaled.ofBinary64 (.ofMagnitude false (sum.magnitude - exponent * 2 ^ 52).toNat)
    { exponent, fraction := part.sub Scaled.one, missing := .ofBinary64 missing }

def lnTwoHigh : Scaled := .ofBits 0x3fe62e42fee00000

def lnTwoLow : Scaled := .ofBits 0x3dea39ef35793c76

/-- Half the square of `f`. -/
def halfSquare (f : Scaled) : Scaled := ((Scaled.half.mul f).mul f).round

/-- The factors of the even powers, from the second on, in the series of `excess`. -/
def factors : List Scaled :=
  [0x3fe5555555555593, 0x3fd999999997fa04, 0x3fd2492494229359, 0x3fcc71c51d8e78af,
    0x3fc7466496cb03de, 0x3fc39a09d078c69f, 0x3fc2f112df3e5244].map Scaled.ofBits

/-- What half the square of `f` exceeds `f - ln (1 + f)` by: a series in `s = f / (2 + f)`. -/
def excess (f : Scaled) : Scaled :=
  let s := f.div ((Scaled.ofInt 2).add f).round
  let z := (s.mul s).round
  let z2 := (z.mul z).round
  let z4 := (z2.mul z2).round
  let factor (i : Nat) : Scaled := factors.getD i Scaled.zero
  let series := Scaled.mulAdd z (factor 0) (z2.mul (Scaled.mulAdd z (factor 2) (factor 1))).round
  let series := Scaled.mulAdd z4 (Scaled.mulAdd z (factor 4) (factor 3)) series
  let series := Scaled.mulAdd (z2.mul z4).round (Scaled.mulAdd z (factor 6) (factor 5)) series
  (s.mul ((halfSquare f).add series).round).round

/-- Whether two terms of the power series of `ln (1 + f)` after the first are enough. -/
def isTiny (f : Scaled) : Bool := !f.lt ⟨-3, -21⟩ && f.lt ⟨1, -20⟩

/-- Half the square of a tiny `f`, less a third of its cube. -/
def tinyTerms (f : Scaled) : Scaled :=
  ((Scaled.mulAdd f (.ofBits 0xbfe5555555555555) Scaled.one).mul (halfSquare f)).round

/-- The logarithm of `1 + x`, for `x` from `2 ^ -29` on. -/
def approximate (x : Binary64) : Binary64 :=
  let split := Split.ofNumber x
  let f := split.fraction
  if split.exponent = 0 then (f.sub ((halfSquare f).sub (excess f)).round).toBinary64
  else
    let k := Scaled.ofInt split.exponent
    let low := Scaled.mulAdd k lnTwoLow split.missing
    let rest :=
      if isTiny f then ((tinyTerms f).sub low).round
      else ((halfSquare f).sub (low.add (excess f)).round).round
    ((k.mul lnTwoHigh).sub (rest.sub f).round).toBinary64

end LogarithmOnePlus

/-- The logarithm of `1 + x`, which is exact enough for a small `x` too. -/
def Binary64.lnOnePlus (x : Binary64) : Binary64 :=
  if x.isNegative || !x.isFinite || x.magnitude < 0x3e20000000000000 then x.lnOnePlusNearest
  else (LogarithmOnePlus.approximate x).orNearest x.lnOnePlusNearest

end SpanRollup
