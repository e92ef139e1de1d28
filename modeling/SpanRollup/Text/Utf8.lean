/-!
# UTF-8

- `Utf8.decode?`: the text that bytes encode.
- `Utf8.firstFault`: where bytes stop being UTF-8.
-/

namespace SpanRollup.Utf8

/-- Whether a byte can follow the first byte of a character. -/
def isContinuation (byte : UInt8) : Bool := 0x80 ≤ byte && byte < 0xc0

/-- For the first byte of a character: how many bytes follow, and the range of the first of them,
which keeps out overlong forms, surrogates and numbers above `10ffff`. -/
def following (lead : UInt8) : Option (Nat × UInt8 × UInt8) :=
  if lead < 0x80 then some (0, 0, 0)
  else if lead < 0xc2 then none
  else if lead < 0xe0 then some (1, 0x80, 0xbf)
  else if lead < 0xf0 then
    some (2, if lead = 0xe0 then 0xa0 else 0x80, if lead = 0xed then 0x9f else 0xbf)
  else if lead < 0xf5 then
    some (3, if lead = 0xf0 then 0x90 else 0x80, if lead = 0xf4 then 0x8f else 0xbf)
  else none

/-- What stands at the start of bytes that begin with `lead`. -/
inductive Head where
  | char (width : Nat)
  | wrong (bad : Nat)
  | cut

/-- Looks at the bytes after a lead byte: a wrong one ends the character where it stands. -/
def head (lead : UInt8) (rest : List UInt8) : Head :=
  match following lead with
  | none => .wrong 1
  | some (n, low, high) =>
    match n, rest with
    | 0, _ => .char 1
    | _, [] => .cut
    | n + 1, second :: rest =>
      if second < low || high < second then .wrong 1
      else
        let good := (rest.take n).takeWhile isContinuation
        if good.length = n then .char (n + 2)
        else if good.length < rest.length then .wrong (good.length + 2)
        else .cut

/-- The offset at which bytes stop being UTF-8, and how many of them are wrong there, or `none` if
they end inside a character. The first argument bounds the number of characters. -/
def faultFrom : Nat → Nat → List UInt8 → Option (Nat × Option Nat)
  | 0, _, _ => none
  | _, _, [] => none
  | bound + 1, offset, lead :: rest =>
    match head lead rest with
    | .char width => faultFrom bound (offset + width) (rest.drop (width - 1))
    | .wrong bad => some (offset, some bad)
    | .cut => some (offset, none)

def firstFault (bytes : List UInt8) : Option (Nat × Option Nat) :=
  faultFrom bytes.length 0 bytes

def decode? (bytes : List UInt8) : Option String :=
  String.fromUTF8? (ByteArray.mk bytes.toArray)

def encode (s : String) : List UInt8 := s.toUTF8.data.toList

end SpanRollup.Utf8
