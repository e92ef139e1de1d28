import SpanRollup.Msgpack.Token
import SpanRollup.Text.Latin1
import SpanRollup.Text.Quoted

/-!
# Items of a message

What a message is put together from. An item is one MessagePack token; texts are single-byte text.
`Item.token` fails if a text has a character without a byte, or if a length needs more than 32
bits.
-/

namespace SpanRollup.Payload

open Msgpack

inductive EncodeError where
  /-- The first character that has no byte, and its offset in UTF-8. -/
  | unencodable (c : Char) (offset : Nat)
  | tooLong (length : Nat)
  deriving DecidableEq, Repr

def EncodeError.message : EncodeError → String
  | unencodable c offset =>
    s!"Character {Text.quoteChar c} at offset {offset} cannot be encoded as a single byte"
  | tooLong length => s!"Length {length} exceeds the msgpack 32-bit length limit"

inductive Item where
  | map (len : Nat)
  | array (len : Nat)
  /-- The bytes of a text that is encoded already. -/
  | raw (bytes : List UInt8)
  | text (s : String)
  | int (n : Int64)
  | uint (n : UInt64)
  | float (x : Binary64)
  | binary (bytes : List UInt8)
  deriving DecidableEq, Repr

namespace Item

/-- The name of a field, in ASCII. -/
def name (s : String) : Item := .raw (s.toList.map fun c => UInt8.ofNat c.toNat)

/-- A token that announces `len`, if 32 bits hold it. -/
def sized (len : Nat) (token : Token) : Except EncodeError Token :=
  if len < 2 ^ 32 then .ok token else .error (.tooLong len)

def token : Item → Except EncodeError Token
  | map len => sized len (.map len)
  | array len => sized len (.array len)
  | raw bytes => sized bytes.length (.str bytes)
  | text s =>
    match Text.latin1 s.toList with
    | .ok bytes => sized bytes.length (.str bytes)
    | .error (c, offset) => .error (.unencodable c offset)
  | int n => .ok (.int n.toInt)
  | uint n => .ok (.int n.toNat)
  | float x => .ok (.float x)
  | binary bytes => sized bytes.length (.bin bytes)

end Item

end SpanRollup.Payload
