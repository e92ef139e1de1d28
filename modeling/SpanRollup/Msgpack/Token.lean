import SpanRollup.Number.Binary64

/-!
# MessagePack tokens

A token is what one write puts out: a number, a text, a byte string, or the header that announces
the elements of an array or a map. `Token.encode` is its shortest encoding.
-/

namespace SpanRollup.Msgpack

/-- The last `width` base-256 digits of `n`, the most significant one first. -/
def bigEndian : Nat → Nat → List UInt8
  | 0, _ => []
  | width + 1, n => bigEndian width (n / 256) ++ [UInt8.ofNat n]

/-- The number that bytes stand for, the most significant one first. -/
def ofBigEndian (bytes : List UInt8) : Nat :=
  bytes.foldl (fun n byte => 256 * n + byte.toNat) 0

inductive Token where
  | bool (b : Bool)
  | int (n : Int)
  | float (x : Binary64)
  | str (bytes : List UInt8)
  | bin (bytes : List UInt8)
  | array (len : Nat)
  | map (len : Nat)
  deriving DecidableEq, Repr

namespace Token

/-- A length after the narrowest marker that has room for it. Lengths below `short` fit into the
marker `fixed + length`; the width in bytes goes with each other marker. -/
def encodeLength (short : Nat) (fixed : Nat) (markers : List (Nat × UInt8)) (len : Nat) :
    List UInt8 :=
  if len < short then [UInt8.ofNat (fixed + len)]
  else match markers.find? (fun m => len < 256 ^ m.1) with
    | some (width, marker) => marker :: bigEndian width len
    | none => []

def strHeader : Nat → List UInt8 := encodeLength 32 0xa0 [(1, 0xd9), (2, 0xda), (4, 0xdb)]

def binHeader : Nat → List UInt8 := encodeLength 0 0 [(1, 0xc4), (2, 0xc5), (4, 0xc6)]

def arrayHeader : Nat → List UInt8 := encodeLength 16 0x90 [(2, 0xdc), (4, 0xdd)]

def mapHeader : Nat → List UInt8 := encodeLength 16 0x80 [(2, 0xde), (4, 0xdf)]

/-- A number that is not negative uses an unsigned form. -/
def encodeInt (n : Int) : List UInt8 :=
  if 0 ≤ n then
    encodeLength 128 0 [(1, 0xcc), (2, 0xcd), (4, 0xce), (8, 0xcf)] n.toNat
  else if -32 ≤ n then [UInt8.ofNat (n + 0x100).toNat]
  else if -2 ^ 7 ≤ n then 0xd0 :: bigEndian 1 (n + 2 ^ 8).toNat
  else if -2 ^ 15 ≤ n then 0xd1 :: bigEndian 2 (n + 2 ^ 16).toNat
  else if -2 ^ 31 ≤ n then 0xd2 :: bigEndian 4 (n + 2 ^ 32).toNat
  else 0xd3 :: bigEndian 8 (n + 2 ^ 64).toNat

def encode : Token → List UInt8
  | bool b => [if b then 0xc3 else 0xc2]
  | int n => encodeInt n
  | float x => 0xcb :: bigEndian 8 x.bits.toNat
  | str bytes => strHeader bytes.length ++ bytes
  | bin bytes => binHeader bytes.length ++ bytes
  | array len => arrayHeader len
  | map len => mapHeader len

end Token

end SpanRollup.Msgpack
