import SpanRollup.Msgpack.Marker
import SpanRollup.Number.Decimal.Shortest
import SpanRollup.Text.Quoted

/-!
# What can be wrong with MessagePack input

- `Found`: the kind of a value that was read where another was expected.
- `ReadError`: the causes for which reading stops, and `ReadError.message`, their wording.
-/

namespace SpanRollup.Msgpack

/-- A value that has been read, as far as messages tell about it. -/
inductive Found where
  | unit
  | bool (b : Bool)
  | int (n : Int)
  | float (x : Binary64)
  | str (s : String)
  | bytes
  | sequence
  | map
  | wrapped
  deriving DecidableEq, Repr

def Found.describe : Found → String
  | unit => "unit value"
  | bool b => s!"boolean `{b}`"
  | int n => s!"integer `{n}`"
  | float x => s!"floating point `{x.textWithPoint}`"
  | str s => s!"string {Text.quote s}"
  | bytes => "byte array"
  | sequence => "sequence"
  | map => "map"
  | wrapped => "newtype struct"

inductive ReadError where
  /-- The input ends where a marker has to stand. -/
  | noMarker
  /-- The input ends inside a number. -/
  | noData
  /-- The input ends inside a text or a byte string. -/
  | noBytes
  | wrongMarker (marker : Marker)
  | wrongType (found : Found) (expected : String)
  | outOfRange (n : Int) (expected : String)
  /-- A sequence ends after `len` elements, too early. -/
  | tooShort (len : Nat) (expected : String)
  /-- A sequence or map goes on after the `len` elements that were wanted. -/
  | tooLong (len : Nat)
  | missingField (name : String)
  | duplicateField (name : String)
  /-- A text stops being UTF-8 at `offset`, with `bad` wrong bytes or, if `none`, by its end. -/
  | notUtf8 (offset : Nat) (bad : Option Nat)
  | tooDeep
  deriving DecidableEq, Repr

def ReadError.message : ReadError → String
  | noMarker => "IO error while reading marker: failed to fill whole buffer"
  | noData => "IO error while reading data: failed to fill whole buffer"
  | noBytes => "IO error while reading data: unexpected end of file"
  | wrongMarker marker => s!"wrong msgpack marker {marker.name}"
  | wrongType found expected => s!"invalid type: {found.describe}, expected {expected}"
  | outOfRange n expected => s!"invalid value: integer `{n}`, expected {expected}"
  | tooShort len expected => s!"invalid length {len}, expected {expected}"
  | tooLong len => s!"array had incorrect length, expected {len}"
  | missingField name => s!"missing field `{name}`"
  | duplicateField name => s!"duplicate field `{name}`"
  | notUtf8 offset (some bad) =>
    s!"string found to be invalid utf8: invalid utf-8 sequence of {bad} bytes from index {offset}"
  | notUtf8 offset none =>
    s!"string found to be invalid utf8: incomplete utf-8 byte sequence from index {offset}"
  | tooDeep => "depth limit exceeded"

end SpanRollup.Msgpack
