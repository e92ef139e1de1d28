import SpanRollup.Log.Pattern.CharacterSet
import SpanRollup.Text.Alphanumeric

/-!
# Patterns

The value of a field can be a pattern, a regular expression. Values are compared by an automaton
that knows neither the tables of Unicode nor where words of Unicode start and end. A pattern stands
between braces, so that it holds no closing brace and what an opening one starts never ends.

- `Pattern.flaw?`: what is wrong with a pattern.
-/

namespace SpanRollup.Log.Pattern

inductive Flaw where
  /-- No pattern, or one that would need tables. -/
  | illegal
  /-- Places at words of Unicode are sought. -/
  | wordEdge
  deriving DecidableEq, Repr

def Flaw.message : Flaw → String
  | illegal => "error building NFA"
  | wordEdge =>
    "unsupported regex feature for DFAs: cannot build DFAs for regexes with Unicode word " ++
      "boundaries; switch to ASCII word boundaries, or heuristically enable Unicode word " ++
      "boundaries or use a different regex engine"

/-! ### Parts -/

/-- A part of a branch: how deep it nests, and whether it can be repeated. -/
structure Part where
  depth : Nat
  isRepeatable : Bool

/-- The parts of a branch while it is read, the last one first, and how deep each branch before it
nests. -/
structure Branches where
  before : List Nat := []
  parts : List Part := []

namespace Branches

def add (b : Branches) (part : Part) : Branches := { b with parts := part :: b.parts }

/-- Repeats the last part. -/
def repeatLast (b : Branches) : Option Branches :=
  match b.parts with
  | part :: parts =>
    if part.isRepeatable then some { b with parts := ⟨part.depth + 1, true⟩ :: parts } else none
  | [] => none

/-- Goes on with another branch. -/
def branch (b : Branches) : Branches :=
  { before := level (b.parts.map (·.depth)) :: b.before }

def depth (b : Branches) : Nat := level b.branch.before

end Branches

/-! ### Reading -/

/-- A pattern while it is read. -/
structure Open where
  mode : Mode := {}
  branches : Branches := {}
  /-- For each group that is open, the innermost first, what it will be a part of. -/
  groups : List (Mode × Branches) := []
  /-- The names of the groups. -/
  names : List (List Char) := []
  seeksWords : Bool := false

namespace Open

def add (p : Open) (depth : Nat) : Open := { p with branches := p.branches.add ⟨depth, true⟩ }

def addAtom (p : Open) (atom : Atom) : Option Open :=
  if p.mode.allows atom then
    some { p.add 0 with seeksWords := p.seeksWords || (atom = .wordEdge && p.mode.isUnicode) }
  else none

/-- Starts a group that is read in `mode`. -/
def group (p : Open) (mode : Mode) : Open :=
  { p with mode, branches := {}, groups := (p.mode, p.branches) :: p.groups }

/-- Ends the innermost group, whose flags hold no longer. -/
def endGroup (p : Open) : Option Open :=
  match p.groups with
  | (mode, branches) :: groups =>
    some { p with mode, branches := branches.add ⟨p.branches.depth + 1, true⟩, groups }
  | [] => none

end Open

/-- Reads a group's name up to the angle bracket behind it. It starts with a letter or `_`. -/
def readName (cs : List Char) : Option (List Char × List Char) :=
  match cs.takeWhile (· ≠ '>'), cs.dropWhile (· ≠ '>') with
  | c :: name, '>' :: rest =>
    if (c = '_' || Text.alphabetic.contains c) &&
        name.all (fun c => ['_', '.', '[', ']'].contains c || Text.isAlphanumeric c) then
      some (c :: name, rest)
    else none
  | _, _ => none

def nameGroup (p : Open) (cs : List Char) : Option (Open × List Char) := do
  let (name, rest) ← readName cs
  if p.names.contains name then none
  else some ({ p.group p.mode with names := name :: p.names }, rest)

/-- Reads on after an opening parenthesis: a group, or flags for the rest of the group around. -/
def openGroup (p : Open) (cs : List Char) : Option (Open × List Char) :=
  match p.mode.skip cs with
  | '?' :: 'P' :: '<' :: cs | '?' :: '<' :: cs => nameGroup p cs
  | '?' :: ')' :: _ => none
  | '?' :: cs => do
    match ← readFlags p.mode [] false false cs with
    | (mode, ')' :: rest) => some ({ p with mode, branches := p.branches.add ⟨0, false⟩ }, rest)
    | (mode, rest) => some (p.group mode, rest.drop 1)
  | cs => some (p.group p.mode, cs)

/-- Reads on at the character `c`, with `steps` as the bound for a set. -/
def step (steps : Nat) (p : Open) (c : Char) (cs : List Char) : Option (Open × List Char) :=
  match c with
  | '(' => openGroup p cs
  | ')' => return (← p.endGroup, cs)
  | '|' => some ({ p with branches := p.branches.branch }, cs)
  | '[' => do
    let (depth, rest) ← readSet p.mode steps cs
    return (p.add depth, rest)
  | '?' | '*' | '+' => do
    let branches ← p.branches.repeatLast
    return ({ p with branches }, if cs.head? = some '?' then cs.tail else cs)
  | '\x7b' => none
  | '\\' => do
    let (atom, rest) ← readEscape p.mode cs
    return (← p.addAtom atom, rest)
  | '.' => return (← p.addAtom .any, cs)
  | '^' | '$' => return (← p.addAtom .edge, cs)
  | c => return (← p.addAtom (.char c false), cs)

/-- Reads on to the end. The number bounds the number of steps. -/
def readFrom : Nat → Open → List Char → Option Open
  | 0, _, _ => none
  | steps + 1, p, cs =>
    match p.mode.skip cs with
    | [] => some p
    | c :: cs => do
      let (p, rest) ← step (steps + 1) p c cs
      readFrom steps p rest

/-- How deep a pattern may nest. -/
def maxDepth : Nat := 250

def flaw? (cs : List Char) : Option Flaw :=
  match readFrom (cs.length + 1) {} cs with
  | some p =>
    if !p.groups.isEmpty || maxDepth < p.branches.depth then some .illegal
    else if p.seeksWords then some .wordEdge
    else none
  | none => some .illegal

end SpanRollup.Log.Pattern
