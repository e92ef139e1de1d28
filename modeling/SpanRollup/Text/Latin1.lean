import SpanRollup.Number.Instances

/-!
# Single-byte text

In ISO-8859-1 a character up to U+00FF is one byte, the number of its code point. Other characters
have no byte.
-/

namespace SpanRollup.Text

def fitsByte (c : Char) : Bool := c.toNat < 256

/-- The bytes of a text. If a character has no byte, the first such one and how many bytes of UTF-8
stand before it. -/
def latin1 (cs : List Char) : Except (Char × Nat) (List UInt8) :=
  match cs.dropWhile fitsByte with
  | [] => .ok (cs.map fun c => UInt8.ofNat c.toNat)
  | c :: _ => .error (c, ((cs.takeWhile fitsByte).map Char.utf8Size).sum)

end SpanRollup.Text
