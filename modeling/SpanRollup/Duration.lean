import SpanRollup.Number.Instances

/-!
# Lengths of time

A length of time in nanoseconds, and its text in the largest unit that is not above it.
-/

namespace SpanRollup

structure Duration where
  nanos : Nat
  deriving DecidableEq, Repr

namespace Duration

def ofParts (seconds nanos : Nat) : Duration := ⟨seconds * 10 ^ 9 + nanos⟩

def seconds (d : Duration) : Nat := d.nanos / 10 ^ 9

/-- The nanoseconds beyond the whole seconds. -/
def subsecond (d : Duration) : Nat := d.nanos % 10 ^ 9

def add (d e : Duration) : Duration := ⟨d.nanos + e.nanos⟩

/-- Whether a clock that reads `clock` can tell when `d` from now will be. It counts seconds with 63
bits. -/
def isForeseeable (d clock : Duration) : Bool := (clock.add d).seconds < 2 ^ 63

def isZero (d : Duration) : Bool := d.nanos = 0

def max (d e : Duration) : Duration := ⟨Nat.max d.nanos e.nanos⟩

def millisecond : Duration := ⟨10 ^ 6⟩

/-- The number of nanoseconds, or the largest number of 64 bits. -/
def toInt64 (d : Duration) : Int64 := Int64.ofNat (min (2 ^ 63 - 1) d.nanos)

/-- The number `n / 10 ^ places`, without zeros at the end of its fraction. -/
def decimal (n places : Nat) : String :=
  let fraction := Nat.toDigits 10 (n % 10 ^ places)
  let digits := List.replicate (places - fraction.length) '0' ++ fraction
  let shown := (digits.reverse.dropWhile (· = '0')).reverse
  toString (n / 10 ^ places) ++ if shown.isEmpty then "" else "." ++ String.ofList shown

def text (d : Duration) : String :=
  if 10 ^ 9 ≤ d.nanos then decimal d.nanos 9 ++ "s"
  else if 10 ^ 6 ≤ d.nanos then decimal d.nanos 6 ++ "ms"
  else if 10 ^ 3 ≤ d.nanos then decimal d.nanos 3 ++ "µs"
  else decimal d.nanos 0 ++ "ns"

end Duration

end SpanRollup
