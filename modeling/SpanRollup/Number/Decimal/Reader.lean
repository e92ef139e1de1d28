import SpanRollup.Number.Binary64
import SpanRollup.Number.Decimal.Shortest

/-!
# Numbers read from text

- `readUInt64?`: an optional `+`, then decimal digits that fit 64 bits.
- `readBinary64?`: an optional sign, then `inf`, `infinity` or `nan` in any case, or digits with
  an optional point and an optional exponent. It is rounded once, from the exact decimal.
-/

namespace SpanRollup

def digitValue (c : Char) : Nat := c.toNat - '0'.toNat

/-- The number that a row of decimal digits stands for. -/
def digitsValue (cs : List Char) : Nat :=
  cs.foldl (fun n c => 10 * n + digitValue c) 0

/-- The leading decimal digits of a text, and what follows them. -/
def spanDigits (cs : List Char) : List Char × List Char :=
  (cs.takeWhile Char.isDigit, cs.dropWhile Char.isDigit)

/-- Whether a text starts with a minus sign, and the text without its sign. -/
def takeSign : List Char → Bool × List Char
  | '-' :: cs => (true, cs)
  | '+' :: cs => (false, cs)
  | cs => (false, cs)

def readUInt64? (cs : List Char) : Option UInt64 :=
  let digits := match cs with
    | '+' :: rest => rest
    | _ => cs
  if digits.isEmpty || !digits.all Char.isDigit then none
  else
    let n := digitsValue digits
    if n < 2 ^ 64 then some (UInt64.ofNat n) else none

/-- The number closest to a decimal. Far outside the range of the format the exact ratio is not
formed. -/
def Decimal.round (negative : Bool) (d : Decimal) : Binary64 :=
  let size := (length d.digits : Int) + d.exponent
  if d.digits = 0 || size < -400 then .ofMagnitude negative 0
  else if 400 < size then .ofMagnitude negative Binary64.infinityMagnitude
  else .ofRatio negative (d.digits * 10 ^ d.exponent.toNat) (10 ^ (-d.exponent).toNat)

/-- The number that the digits of an exponent stand for. Digits after it has reached `2 ^ 16` do not
count. -/
def exponentValue (cs : List Char) : Nat :=
  cs.foldl (fun n c => if n < 2 ^ 16 then 10 * n + digitValue c else n) 0

/-- The exponent after the digits: nothing, or `e`, an optional sign and at least one digit. -/
def readExponent? : List Char → Option Int
  | [] => some 0
  | c :: cs =>
    let (negative, digits) := takeSign cs
    if (c = 'e' || c = 'E') && !digits.isEmpty && digits.all Char.isDigit then
      some (if negative then -(exponentValue digits : Int) else exponentValue digits)
    else none

/-- Unsigned digits with an optional point and exponent. At least one digit has to stand before the
exponent. -/
def readDecimal? (cs : List Char) : Option Decimal :=
  let (whole, rest) := spanDigits cs
  let (fraction, rest) := match rest with
    | '.' :: rest => spanDigits rest
    | _ => ([], rest)
  if whole.isEmpty && fraction.isEmpty then none
  else (readExponent? rest).map fun exponent =>
    ⟨digitsValue (whole ++ fraction), exponent - fraction.length⟩

def readBinary64? (cs : List Char) : Option Binary64 :=
  let (negative, rest) := takeSign cs
  let word := String.ofList (rest.map Char.toLower)
  if word = "inf" || word = "infinity" then some (.ofMagnitude negative Binary64.infinityMagnitude)
  else if word = "nan" then
    some (.ofMagnitude negative (Binary64.infinityMagnitude + 2 ^ 51))
  else (readDecimal? rest).map (Decimal.round negative)

end SpanRollup
