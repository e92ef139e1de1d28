import SpanRollup.Payload.Buffer
import SpanRollup.Text.Utf8

/-!
# Encoders

An encoder puts an item into its buffer part by part, first the header that announces it and then
its content. A call that fails keeps the parts that it has put down before.

- `Encoder.call`: puts down an item.
- `Buffer.write`: what has become of the buffer if the call has not failed.
-/

namespace SpanRollup.Payload

open Msgpack

abbrev Encoder := EStateM EncodeError Buffer

namespace Encoder

def put (bytes : List UInt8) : Encoder Unit := modify (·.put bytes)

/-- A length that 32 bits hold. -/
def length (len : Nat) : Encoder Nat :=
  if len < 2 ^ 32 then return len else throw (.tooLong len)

/-- Puts down some content behind the header for its length. -/
def announced (header : Nat → List UInt8) (content : List UInt8) : Encoder Unit := do
  put (header (← length content.length))
  put content

/-- In ASCII the bytes of a text are those of its UTF-8. -/
def text (s : String) : Encoder Unit :=
  if s.toList.all (·.toNat < 128) then announced Token.strHeader (Utf8.encode s)
  else
    match Text.latin1 s.toList with
    | .ok bytes => announced Token.strHeader bytes
    | .error (c, offset) => throw (.unencodable c offset)

def call : Item → Encoder Unit
  | .map len => do put (Token.mapHeader (← length len))
  | .array len => do put (Token.arrayHeader (← length len))
  | .raw bytes => announced Token.strHeader bytes
  | .text s => text s
  | .int n => put (Token.encode (.int n.toInt))
  | .uint n => put (Token.encode (.int n.toNat))
  | .float x => put (Token.encode (.float x))
  | .binary bytes => announced Token.binHeader bytes

end Encoder

/-- Adds an item to the message being written, or fails. -/
def Buffer.write (b : Buffer) (item : Item) : Except EncodeError Buffer :=
  match (Encoder.call item).run b with
  | .ok _ b => .ok b
  | .error e _ => .error e

end SpanRollup.Payload
