import SpanRollup.Text.Printable

/-!
# Quoted text

A character or a text between quotes, with everything escaped that would not show: `\0`, `\t`,
`\n`, `\r`, `\\`, the quote in use, and the number of the code point for any other character that
is unprintable or would join the one before it.
-/

namespace SpanRollup.Text

/-- The number of a code point in lower-case hexadecimal, between braces. -/
def escapeNumber (c : Char) : List Char :=
  ['\\', 'u', '\x7b'] ++ Nat.toDigits 16 c.toNat ++ ['\x7d']

def escape (quote c : Char) : List Char :=
  if c = '\x00' then ['\\', '0']
  else if c = '\t' then ['\\', 't']
  else if c = '\n' then ['\\', 'n']
  else if c = '\r' then ['\\', 'r']
  else if c = '\\' || c = quote then ['\\', c]
  else if ' ' ≤ c && c ≤ '~' then [c]
  else if graphemeExtenders.contains c || unprintable.contains c then escapeNumber c
  else [c]

def quote (s : String) : String :=
  String.ofList ('"' :: s.toList.flatMap (escape '"') ++ ['"'])

def quoteChar (c : Char) : String :=
  String.ofList ('\'' :: escape '\'' c ++ ['\''])

end SpanRollup.Text
