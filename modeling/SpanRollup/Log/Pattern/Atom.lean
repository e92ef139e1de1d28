import SpanRollup.Log.Pattern.Mode

/-!
# Atoms of a pattern

An atom is what has no parts: a character, a kind of characters, or a place. No tables of Unicode
are at hand, so that atoms that would need one are not legal.

- `readEscape`: the atom after a backslash.
- `Mode.allows`: whether an atom is legal in a mode.
-/

namespace SpanRollup.Log.Pattern

inductive Atom where
  /-- A character, or a byte that was given by its number. -/
  | char (c : Char) (isByte : Bool)
  /-- Digits, blanks or word characters, or what is none of them. -/
  | kind (negated : Bool)
  | any
  /-- The start or the end of the text or of a line. -/
  | edge
  /-- A place where a word starts or ends, or none does. -/
  | wordEdge
  deriving DecidableEq, Repr

/-- Without tables no character can be compared regardless of its case, and no kind of characters is
known. A pattern about bytes must match whole characters only. -/
def Mode.allows (m : Mode) : Atom → Bool
  | .char c isByte => if m.isUnicode then !m.ignoresCase else !isByte || c.toNat < 0x80
  | .kind negated => !m.isUnicode && !negated
  | .any => m.isUnicode
  | .edge | .wordEdge => true

/-! ### Escapes -/

def hexDigit? (c : Char) : Option Nat :=
  if c.isDigit then some (c.toNat - '0'.toNat)
  else if 'a' ≤ c && c ≤ 'f' then some (c.toNat - 'a'.toNat + 10)
  else if 'A' ≤ c && c ≤ 'F' then some (c.toNat - 'A'.toNat + 10)
  else none

/-- Reads `count` hexadecimal digits behind the number `n`. -/
def readHex (m : Mode) : (count n : Nat) → List Char → Option (Nat × List Char)
  | 0, n, cs => some (n, m.skip cs)
  | count + 1, n, cs =>
    match m.skip cs with
    | [] => none
    | c :: cs => do readHex m count (16 * n + (← hexDigit? c)) cs

/-- Reads the number of a character. -/
def readCode (m : Mode) (digits : Nat) (cs : List Char) : Option (Atom × List Char) := do
  let (n, rest) ← readHex m digits 0 cs
  if n.isValidChar then some (.char (Char.ofNat n) (digits = 2), rest) else none

/-- The character that a letter after a backslash stands for. -/
def control? : Char → Option Char
  | 'a' => some '\x07'
  | 'f' => some '\x0c'
  | 't' => some '\t'
  | 'n' => some '\n'
  | 'r' => some '\r'
  | 'v' => some '\x0b'
  | _ => none

/-- Reads what follows a backslash. ASCII characters other than letters, digits, `<` and `>` stand
for themselves. There are no references to groups and no properties of characters. -/
def readEscape (m : Mode) : List Char → Option (Atom × List Char)
  | [] => none
  | c :: cs =>
    if c = 'x' then readCode m 2 cs
    else if c = 'u' then readCode m 4 cs
    else if c = 'U' then readCode m 8 cs
    else if ['d', 's', 'w'].contains c then some (.kind false, cs)
    else if ['D', 'S', 'W'].contains c then some (.kind true, cs)
    else if c = 'A' || c = 'z' then some (.edge, cs)
    else if c = 'b' && cs.head? = some '\x7b' then none
    else if ['b', 'B', '<', '>'].contains c then some (.wordEdge, cs)
    else match control? c with
      | some c => some (.char c false, cs)
      | none => if c.toNat < 0x80 && !c.isAlphanum then some (.char c false, cs) else none

end SpanRollup.Log.Pattern
