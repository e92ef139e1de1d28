import SpanRollup.Msgpack.ReadError
import SpanRollup.Msgpack.Token
import SpanRollup.Text.Utf8

/-!
# Reading MessagePack

A `Reader` takes a value off the front of the input. Input may nest 1024 levels deep; the depth
that is left is handed down as a number, and `enter` takes a level from it.

- `Reader.scalar`: a number, a truth value or nothing.
- `Reader.found`: any value that is not a sequence or map, for saying that it was not wanted.
- `Reader.skip`: any value, passed over.
-/

namespace SpanRollup.Msgpack

abbrev Reader := StateT (List UInt8) (Except ReadError)

namespace Reader

def fail {α : Type} (e : ReadError) : Reader α := throw e

def marker : Reader Marker := do
  match ← get with
  | [] => fail .noMarker
  | byte :: rest => set rest; return Marker.ofByte byte

/-- The next `n` bytes of the input, or `shortage` if there are fewer. -/
def take (n : Nat) (shortage : ReadError) : Reader (List UInt8) := do
  let input ← get
  let front := input.take n
  if front.length < n then fail shortage
  set (input.drop n)
  return front

/-- A number of `width` bytes. -/
def data (width : Nat) : Reader Nat := do
  return ofBigEndian (← take width .noData)

/-- A number of `width` bytes whose first bit counts negatively. -/
def signedData (width : Nat) : Reader Int := do
  let n ← data width
  return if 2 * n < 256 ^ width then (n : Int) else (n : Int) - 256 ^ width

def bytes (len : Nat) : Reader (List UInt8) := take len .noBytes

/-! ### Lengths -/

def strLength? : Marker → Option (Reader Nat)
  | .fixStr len => some (pure len)
  | .str8 => some (data 1)
  | .str16 => some (data 2)
  | .str32 => some (data 4)
  | _ => none

def binLength? : Marker → Option (Reader Nat)
  | .bin8 => some (data 1)
  | .bin16 => some (data 2)
  | .bin32 => some (data 4)
  | _ => none

def arrayLength? : Marker → Option (Reader Nat)
  | .fixArray len => some (pure len)
  | .array16 => some (data 2)
  | .array32 => some (data 4)
  | _ => none

def mapLength? : Marker → Option (Reader Nat)
  | .fixMap len => some (pure len)
  | .map16 => some (data 2)
  | .map32 => some (data 4)
  | _ => none

def extLength? : Marker → Option (Reader Nat)
  | .fixExt len => some (pure len)
  | .ext8 => some (data 1)
  | .ext16 => some (data 2)
  | .ext32 => some (data 4)
  | _ => none

/-! ### Scalars -/

inductive Scalar where
  | unit
  | bool (b : Bool)
  | int (n : Int)
  | float (x : Binary64)
  deriving DecidableEq, Repr

def Scalar.found : Scalar → Found
  | unit => .unit
  | bool b => .bool b
  | int n => .int n
  | float x => .float x

def scalarAfter? : Marker → Option (Reader Scalar)
  | .null => some (pure .unit)
  | .bool b => some (pure (.bool b))
  | .fixPos n => some (pure (.int n))
  | .fixNeg n => some (pure (.int n))
  | .u8 => some (do return .int (← data 1))
  | .u16 => some (do return .int (← data 2))
  | .u32 => some (do return .int (← data 4))
  | .u64 => some (do return .int (← data 8))
  | .i8 => some (do return .int (← signedData 1))
  | .i16 => some (do return .int (← signedData 2))
  | .i32 => some (do return .int (← signedData 4))
  | .i64 => some (do return .int (← signedData 8))
  | .f32 => some (do return .float (.ofSingleBits (UInt32.ofNat (← data 4))))
  | .f64 => some (do return .float ⟨UInt64.ofNat (← data 8)⟩)
  | _ => none

def scalar : Reader Scalar := do
  let m ← marker
  match scalarAfter? m with
  | some read => read
  | none => fail (.wrongMarker m)

/-- A whole number between `low` and `high`; `expected` names the range. -/
def intWithin (low high : Int) (expected : String) : Reader Int := do
  match ← scalar with
  | .int n => if low ≤ n && n ≤ high then return n else fail (.outOfRange n expected)
  | other => fail (.wrongType other.found expected)

def uint8 : Reader UInt8 := do
  return UInt8.ofNat (← intWithin 0 (2 ^ 8 - 1) "u8").toNat

def uint32 : Reader UInt32 := do
  return UInt32.ofNat (← intWithin 0 (2 ^ 32 - 1) "u32").toNat

def uint64 : Reader UInt64 := do
  return UInt64.ofNat (← intWithin 0 (2 ^ 64 - 1) "u64").toNat

/-- A number that counts things in memory. -/
def size : Reader Nat := do
  return (← intWithin 0 (2 ^ 64 - 1) "usize").toNat

def int32 : Reader Int32 := do
  return Int32.ofInt (← intWithin (-2 ^ 31) (2 ^ 31 - 1) "i32")

def int64 : Reader Int64 := do
  return Int64.ofInt (← intWithin (-2 ^ 63) (2 ^ 63 - 1) "i64")

/-- A float; a whole number is taken for the float closest to it. -/
def float : Reader Binary64 := do
  match ← scalar with
  | .float x => return x
  | .int n => return Binary64.ofInt n
  | other => fail (.wrongType other.found "f64")

def bool : Reader Bool := do
  match ← scalar with
  | .bool b => return b
  | other => fail (.wrongType other.found "a boolean")

/-! ### Other values -/

def decodeStr (bytes : List UInt8) : Reader String :=
  match Utf8.decode? bytes with
  | some s => pure s
  | none =>
    match Utf8.firstFault bytes with
    | some (offset, bad) => fail (.notUtf8 offset bad)
    | none => fail (.notUtf8 0 none)

/-- Reads on after a marker to find what the value is. Elements are not read. -/
def found (m : Marker) : Reader Found := do
  match scalarAfter? m with
  | some read => return (← read).found
  | none =>
  match strLength? m with
  | some len => return .str (← decodeStr (← bytes (← len)))
  | none =>
  match binLength? m with
  | some len => let _ ← bytes (← len); return .bytes
  | none =>
  match arrayLength? m with
  | some len => let _ ← len; return .sequence
  | none =>
  match mapLength? m with
  | some len => let _ ← len; return .map
  | none =>
  match extLength? m with
  | some len => let _ ← len; return .wrapped
  | none => fail (.wrongMarker m)

/-- One level further down. -/
def enter (depth : Nat) : Reader Nat :=
  if depth ≤ 1 then fail .tooDeep else pure (depth - 1)

/-- Runs a reader `n` times. -/
def times (read : Reader Unit) : Nat → Reader Unit
  | 0 => pure ()
  | n + 1 => do read; times read n

/-- Passes over a value whose elements may nest `depth - 1` levels deep. -/
def skip : Nat → Reader Unit
  | 0 => fail .tooDeep
  | depth + 1 => do
    let m ← marker
    match scalarAfter? m with
    | some read => let _ ← read
    | none =>
    match strLength? m, binLength? m with
    | some len, _ => let _ ← bytes (← len)
    | _, some len => let _ ← bytes (← len)
    | none, none =>
    match arrayLength? m with
    | some len =>
      let n ← len
      let _ ← enter (depth + 1)
      times (skip depth) n
    | none =>
    match mapLength? m with
    | some len =>
      let n ← len
      let _ ← enter (depth + 1)
      times (skip depth) (2 * n)
    | none =>
    match extLength? m with
    | some len =>
      let n ← len
      let _ ← enter (depth + 1)
      let _ ← data 1
      let _ ← bytes n
    | none => fail (.wrongMarker m)

/-- Reads `n` elements behind those that are already there. -/
def elements {α : Type} (read : Reader α) : Nat → Array α → Reader (Array α)
  | 0, done => pure done
  | n + 1, done => do elements read n (done.push (← read))

/-- Has `read` find the whole numbers that `bytes` are, and then goes on with the input. -/
def fromBytes {α : Type} (bytes : List UInt8) (read : Reader α) : Reader α := do
  let rest ← get
  set (bytes.flatMap (fun byte => Token.encode (.int byte.toNat)))
  let a ← read
  set rest
  return a

/-- An array, or a byte string, whose elements are its bytes. -/
def sequence {α : Type} (depth : Nat) (read : Reader α) : Reader (Array α) := do
  let m ← marker
  match arrayLength? m, binLength? m with
  | some len, _ =>
    let n ← len
    let _ ← enter depth
    elements read n #[]
  | _, some len =>
    let content ← bytes (← len)
    fromBytes content (elements read content.length #[])
  | none, none => fail (.wrongType (← found m) "a sequence")

end Reader

end SpanRollup.Msgpack
