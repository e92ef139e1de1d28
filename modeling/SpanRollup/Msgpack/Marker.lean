import SpanRollup.Number.Binary64

/-!
# MessagePack markers

Every MessagePack value starts with one byte, its marker, which tells the kind of the value and
either its length or how many bytes of length follow.
-/

namespace SpanRollup.Msgpack

/-- `fix…` markers carry a small value or length themselves; the numbers in other names are bits
of the value or of its length. -/
inductive Marker where
  | fixPos (n : Nat)
  | fixNeg (n : Int)
  | fixMap (len : Nat)
  | fixArray (len : Nat)
  | fixStr (len : Nat)
  | null
  | reserved
  | bool (b : Bool)
  | bin8
  | bin16
  | bin32
  | ext8
  | ext16
  | ext32
  | f32
  | f64
  | u8
  | u16
  | u32
  | u64
  | i8
  | i16
  | i32
  | i64
  | fixExt (len : Nat)
  | str8
  | str16
  | str32
  | array16
  | array32
  | map16
  | map32
  deriving DecidableEq, Repr

namespace Marker

def ofByte (byte : UInt8) : Marker :=
  let n := byte.toNat
  if n < 0x80 then fixPos n
  else if n < 0x90 then fixMap (n - 0x80)
  else if n < 0xa0 then fixArray (n - 0x90)
  else if n < 0xc0 then fixStr (n - 0xa0)
  else if 0xe0 ≤ n then fixNeg ((n : Int) - 0x100)
  else match n with
    | 0xc0 => null
    | 0xc2 => bool false
    | 0xc3 => bool true
    | 0xc4 => bin8
    | 0xc5 => bin16
    | 0xc6 => bin32
    | 0xc7 => ext8
    | 0xc8 => ext16
    | 0xc9 => ext32
    | 0xca => f32
    | 0xcb => f64
    | 0xcc => u8
    | 0xcd => u16
    | 0xce => u32
    | 0xcf => u64
    | 0xd0 => i8
    | 0xd1 => i16
    | 0xd2 => i32
    | 0xd3 => i64
    | 0xd4 => fixExt 1
    | 0xd5 => fixExt 2
    | 0xd6 => fixExt 4
    | 0xd7 => fixExt 8
    | 0xd8 => fixExt 16
    | 0xd9 => str8
    | 0xda => str16
    | 0xdb => str32
    | 0xdc => array16
    | 0xdd => array32
    | 0xde => map16
    | 0xdf => map32
    | _ => reserved

/-- Stands before a whole number whose form has no sign. -/
def isUnsigned : Marker → Bool
  | fixPos _ | u8 | u16 | u32 | u64 => true
  | _ => false

/-- The marker's name in messages. -/
def name : Marker → String
  | fixPos n => s!"FixPos({n})"
  | fixNeg n => s!"FixNeg({n})"
  | fixMap len => s!"FixMap({len})"
  | fixArray len => s!"FixArray({len})"
  | fixStr len => s!"FixStr({len})"
  | null => "Null"
  | reserved => "Reserved"
  | bool b => if b then "True" else "False"
  | bin8 => "Bin8"
  | bin16 => "Bin16"
  | bin32 => "Bin32"
  | ext8 => "Ext8"
  | ext16 => "Ext16"
  | ext32 => "Ext32"
  | f32 => "F32"
  | f64 => "F64"
  | u8 => "U8"
  | u16 => "U16"
  | u32 => "U32"
  | u64 => "U64"
  | i8 => "I8"
  | i16 => "I16"
  | i32 => "I32"
  | i64 => "I64"
  | fixExt len => s!"FixExt{len}"
  | str8 => "Str8"
  | str16 => "Str16"
  | str32 => "Str32"
  | array16 => "Array16"
  | array32 => "Array32"
  | map16 => "Map16"
  | map32 => "Map32"

end Marker

end SpanRollup.Msgpack
