import SpanRollup.Log.Pattern.Atom

/-!
# Sets of characters in a pattern

A set such as `[^a-z[:digit:]&&[0-4]]` has characters, ranges, named classes and sets as items,
which operators may join.

- `readSet`: takes a set off the front of a text and tells how deep it nests.
-/

namespace SpanRollup.Log.Pattern

/-- How deep parts beside each other nest. Several parts make a level of their own. -/
def level : List Nat → Nat
  | [] => 0
  | [depth] => depth
  | depths => depths.foldl max 0 + 1

/-- A set while it is read. -/
structure OpenSet where
  negated : Bool
  /-- How deep what stands in front of the last operator nests. -/
  left : Option Nat := none
  /-- How deep each item after it nests. -/
  items : List Nat := []

namespace OpenSet

def add (s : OpenSet) (depth : Nat) : OpenSet := { s with items := depth :: s.items }

def depth (s : OpenSet) : Nat :=
  match s.left with
  | some left => max left (level s.items) + 1
  | none => level s.items

/-- Goes on after an operator. -/
def operator (s : OpenSet) : OpenSet := { s with left := some s.depth, items := [] }

end OpenSet

/-! ### What is legal -/

/-- In a pattern about bytes, items are of ASCII. -/
def Mode.allowsInSet (m : Mode) : Atom → Bool
  | .char c _ => if m.isUnicode then !m.ignoresCase else c.toNat < 0x80
  | .kind negated => !m.isUnicode && !negated
  | .any | .edge | .wordEdge => false

def Mode.allowsClass (m : Mode) (negated : Bool) : Bool :=
  if m.isUnicode then !m.ignoresCase else !negated

/-- In a pattern about bytes, no set holds what is not ASCII. -/
def Mode.allowsSet (m : Mode) (negated : Bool) : Bool := m.isUnicode || !negated

/-! ### Items -/

def classNames : List String :=
  ["alnum", "alpha", "ascii", "blank", "cntrl", "digit", "graph", "lower", "print", "punct",
    "space", "upper", "word", "xdigit"]

/-- A named class, such as `:alpha:]` or `:^alpha:]`, and whether it is negated. -/
def readClass? : List Char → Option (Bool × List Char)
  | ':' :: cs =>
    let (negated, cs) := match cs with
      | '^' :: cs => (true, cs)
      | _ => (false, cs)
    match cs.dropWhile (· ≠ ':') with
    | ':' :: ']' :: rest =>
      if classNames.contains (String.ofList (cs.takeWhile (· ≠ ':'))) then some (negated, rest)
      else none
    | _ => none
  | _ => none

def readSetAtom (m : Mode) : List Char → Option (Atom × List Char)
  | [] => none
  | '\\' :: cs => readEscape m cs
  | c :: cs => some (.char c false, cs)

/-- Reads the upper end of a range. -/
def readRangeEnd (m : Mode) (first : Atom) (cs : List Char) : Option (List Char) := do
  let (last, rest) ← readSetAtom m (m.skip cs)
  match first, last with
  | .char a _, .char b _ =>
    if a ≤ b && m.allowsInSet first && m.allowsInSet last then some rest else none
  | _, _ => none

/-- Reads an atom or a range of characters. A minus sign before the end of the set or before another
one does not make a range. -/
def readItem (m : Mode) (cs : List Char) : Option (List Char) := do
  let (atom, rest) ← readSetAtom m cs
  let single := if m.allowsInSet atom then some (m.skip rest) else none
  match m.skip rest with
  | [] => none
  | '-' :: rest =>
    match m.peek rest with
    | some ']' | some '-' => single
    | _ => readRangeEnd m atom rest
  | _ => single

/-! ### Sets -/

/-- Adds the minus signs that a set may start with. The first argument bounds their number. -/
def readDashes (m : Mode) : Nat → OpenSet → List Char → Option (OpenSet × List Char)
  | steps + 1, s, '-' :: cs =>
    if m.allowsInSet (.char '-' false) then readDashes m steps (s.add 0) (m.skip cs) else none
  | _, s, cs => some (s, cs)

/-- Reads the start of a set. A closing bracket that comes first is an item. -/
def openSet (m : Mode) (steps : Nat) (cs : List Char) : Option (OpenSet × List Char) := do
  let (negated, cs) := match m.skip cs with
    | '^' :: cs => (true, m.skip cs)
    | cs => (false, cs)
  let (s, cs) ← readDashes m steps { negated } cs
  match s.items, cs with
  | [], ']' :: cs =>
    if m.allowsInSet (.char ']' false) then some (s.add 0, m.skip cs) else none
  | _, cs => some (s, cs)

/-- Reads a set on from where it has been read up to. `outer` are the sets around it. The first
number bounds the number of steps. -/
def readItems (m : Mode) : Nat → OpenSet → List OpenSet → List Char → Option (Nat × List Char)
  | 0, _, _, _ => none
  | steps + 1, s, outer, cs =>
    match m.skip cs with
    | [] => none
    | '[' :: cs =>
      match readClass? cs with
      | some (negated, rest) =>
        if m.allowsClass negated then readItems m steps (s.add 0) outer rest else none
      | none => do
        let (inner, rest) ← openSet m steps cs
        readItems m steps inner (s :: outer) rest
    | ']' :: cs =>
      if m.allowsSet s.negated then
        match outer with
        | [] => some (s.depth + 1, cs)
        | around :: outer => readItems m steps (around.add (s.depth + 1)) outer cs
      else none
    | '&' :: '&' :: cs | '-' :: '-' :: cs | '~' :: '~' :: cs =>
      readItems m steps s.operator outer cs
    | cs => do readItems m steps (s.add 0) outer (← readItem m cs)

/-- Reads a set after its opening bracket. As many steps as there are characters are enough. -/
def readSet (m : Mode) (steps : Nat) (cs : List Char) : Option (Nat × List Char) := do
  let (s, rest) ← openSet m steps cs
  readItems m steps s [] rest

end SpanRollup.Log.Pattern
