import SpanRollup.Digest.Basic
import SpanRollup.Sketch.Codec

/-!
# Digests in MessagePack

A digest is written as an array of six: the version of the format, its resolution in two fields,
count, sum and sketch.

- `Digest.encode`: the written form.
- `Digest.decode`: reads it back, from bytes that may come from outside. Bytes after the array are
  ignored.
-/

namespace SpanRollup

open Msgpack

namespace Digest

def formatVersion : UInt8 := 1

def fieldCount : Nat := 6

def tokens (d : Digest) : List Token :=
  [.array fieldCount, .int formatVersion.toNat, .float d.resolution.accuracy,
    .int d.resolution.maxBins.toNat, .int d.count.toNat, .int d.sum.toInt] ++ d.sketch.tokens

def encode (d : Digest) : List UInt8 := d.tokens.flatMap Token.encode

/-! ### Reading -/

/-- What is wrong with bytes that should hold a digest of a version that can be read. -/
inductive Malformed where
  /-- The input ends where the first marker or the version has to stand. -/
  | noHeaderMarker
  /-- The input ends inside the length or the version. -/
  | noHeaderData
  /-- There is no array, or no number for a version. -/
  | wrongHeader
  /-- The version does not fit a byte. -/
  | versionOutOfRange
  | wrongFieldCount (found : Nat)
  | content (e : ReadError)
  | illegalResolution (accuracy : Binary64) (maxBins : UInt32)
  | wrongCount (held count : UInt64)
  deriving DecidableEq, Repr

def Malformed.message : Malformed → String
  | noHeaderMarker => "failed to read MessagePack marker"
  | noHeaderData => "failed to read MessagePack data"
  | wrongHeader => "the type decoded isn't match with the expected one"
  | versionOutOfRange => "out of range integral type conversion attempted"
  | wrongFieldCount found => s!"expected {fieldCount} fields, found {found}"
  | content e => e.message
  | illegalResolution accuracy maxBins =>
    s!"unsupported mapping: accuracy {accuracy.text}, {maxBins} bins"
  | wrongCount held count => s!"sketch holds {held} values but count is {count}"

inductive DecodeError where
  | unsupportedVersion (version : UInt8)
  | malformed (cause : Malformed)
  deriving DecidableEq, Repr

/-- Says that a digest cannot be read, for a reason. -/
def malformedMessage (reason : String) : String := s!"Malformed latency summary: {reason}"

def DecodeError.message : DecodeError → String
  | unsupportedVersion version => s!"Unsupported latency summary version {version}"
  | malformed cause => malformedMessage cause.message

/-- Tells of an input that ends early in the words of the header. -/
def headerCause : ReadError → Malformed
  | .noMarker => .noHeaderMarker
  | _ => .noHeaderData

/-- The number of elements of the array that the input starts with, and the rest of the input. -/
def readFieldCount (input : List UInt8) : Except Malformed (Nat × List UInt8) := do
  let (marker, rest) ← (Reader.marker.run input).mapError headerCause
  match Reader.arrayLength? marker with
  | some len => (len.run rest).mapError headerCause
  | none => .error .wrongHeader

def readVersion (input : List UInt8) : Except Malformed UInt8 := do
  let (marker, rest) ← (Reader.marker.run input).mapError headerCause
  match marker, Reader.scalarAfter? marker with
  | .f32, _ | .f64, _ => .error .wrongHeader
  | _, some read =>
    match (← (read.run rest).mapError headerCause).1 with
    | .int n => if 0 ≤ n ∧ n < 2 ^ 8 then .ok (UInt8.ofNat n.toNat) else .error .versionOutOfRange
    | _ => .error .wrongHeader
  | _, none => .error .wrongHeader

/-- What an array of six holds after the version. -/
structure Envelope where
  accuracy : Binary64
  maxBins : UInt32
  count : UInt64
  sum : Int64
  sketch : Sketch

/-- How deep the input may nest. -/
def maxDepth : Nat := 1024

def envelopeReader : Reader Envelope := do
  match Reader.arrayLength? (← Reader.marker) with
  | some len => let _ ← len
  | none => pure ()
  let depth ← Reader.enter maxDepth
  let _ ← Reader.uint8
  return { accuracy := ← Reader.float, maxBins := ← Reader.uint32, count := ← Reader.uint64,
           sum := ← Reader.int64, sketch := ← Sketch.reader depth }

/-- The digest in an envelope, whose resolution has to be legal and whose count has to be that of
the sketch. -/
def ofEnvelope (e : Envelope) : Except Malformed Digest :=
  let resolution := Resolution.ofSettings e.accuracy e.maxBins.toNat
  if !resolution.accuracy.same e.accuracy || resolution.maxBins ≠ e.maxBins then
    .error (.illegalResolution e.accuracy e.maxBins)
  else if e.sketch.count ≠ e.count then .error (.wrongCount e.sketch.count e.count)
  else .ok { resolution, count := e.count, sum := e.sum, sketch := e.sketch }

def decode (input : List UInt8) : Except DecodeError Digest := do
  let (fields, rest) ← (readFieldCount input).mapError .malformed
  if fields ≠ fieldCount then .error (.malformed (.wrongFieldCount fields))
  let version ← (readVersion rest).mapError .malformed
  if version ≠ formatVersion then .error (.unsupportedVersion version)
  let (envelope, _) ← (envelopeReader.run input).mapError (.malformed ∘ .content)
  (ofEnvelope envelope).mapError .malformed

end Digest

end SpanRollup
