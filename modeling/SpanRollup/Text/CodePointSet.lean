/-!
# Sets of code points

A set is kept as the ascending list of the code points at which membership changes: the first is
in the set, the second no longer, and so on.
-/

namespace SpanRollup

structure CodePointSet where
  changes : Array Nat

/-- A code point is in the set when an odd number of changes has happened up to it. -/
def CodePointSet.contains (s : CodePointSet) (c : Char) : Bool :=
  s.changes.countP (· ≤ c.toNat) % 2 = 1

end SpanRollup
