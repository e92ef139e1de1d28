import SpanRollup.Log.Level
import SpanRollup.Log.Pattern
import SpanRollup.Number.Decimal.Reader
import SpanRollup.Number.Instances
import SpanRollup.Text.Split

/-!
# Filter directives

A directive says down to which level a part of the program is heard, as in `info`, `writer=debug`
or `writer[span{field}]=trace`. `Directive.parse` reads one.
-/

namespace SpanRollup.Log

/-- How much is heard: nothing, or all down to a level. -/
abbrev Threshold := Option Level

def Threshold.admits (t : Threshold) (level : Level) : Bool :=
  match t with
  | some most => level.verbosity ≤ most.verbosity
  | none => false

/-- A field that has to be there, maybe with a value. -/
structure FieldMatch where
  name : List Char
  hasValue : Bool
  deriving DecidableEq, Repr

structure Directive where
  threshold : Threshold := some .trace
  /-- What the names of the parts that are meant start with. -/
  target : Option (List Char) := none
  /-- The span in which something has to happen. -/
  span : Option (List Char) := none
  fields : List FieldMatch := []
  deriving DecidableEq, Repr

inductive DirectiveError where
  | invalid
  /-- A word stands for a level that is none. -/
  | level
  /-- The value of a field is neither a number nor a legal pattern. -/
  | value (flaw : Pattern.Flaw)
  /-- A cut falls inside a character. -/
  | insideCharacter
  deriving DecidableEq, Repr

def DirectiveError.message : DirectiveError → String
  | invalid => "invalid filter directive"
  | level =>
    "error parsing level filter: expected one of \"off\", \"error\", \"warn\", \"info\", " ++
      "\"debug\", \"trace\", or a number 0-5"
  | value flaw => s!"invalid field filter: {flaw.message}"
  | insideCharacter => "byte index is not a char boundary"

/-! ### Levels -/

def lowerAscii (cs : List Char) : List Char := cs.map Char.toLower

/-- Reads the name of a level in any case, or its number. -/
def Threshold.parse? (word : List Char) : Option Threshold :=
  match readUInt64? word with
  | some 0 => some none
  | some 1 => some (some .error)
  | some 2 => some (some .warn)
  | some 3 => some (some .info)
  | some 4 => some (some .debug)
  | some 5 => some (some .trace)
  | _ =>
    let word := String.ofList (lowerAscii word)
    if word = "off" then some none
    else [("error", Level.error), ("warn", .warn), ("info", .info), ("debug", .debug),
      ("trace", .trace)].lookup word |>.map some

/-- Reads the level after an equals sign. None is the most verbose one. -/
def Threshold.parse (word : List Char) : Except DirectiveError Threshold :=
  if word.isEmpty then .ok (some .trace)
  else match Threshold.parse? word with
    | some t => .ok t
    | none => .error .level

/-! ### Reading -/

namespace Directive

/-- What a directive has been read up to. A number is where a word began, in bytes of UTF-8. -/
inductive Place where
  | start
  /-- In a word that is a level or a target. -/
  | word (begin : Nat)
  | span (begin : Nat)
  | field (begin : Nat)
  | afterFields
  | afterSpan
  | level (begin : Nat)

/-- The characters of `cs` after the first `n` bytes. -/
def dropBytes : Nat → List Char → Except DirectiveError (List Char)
  | 0, cs => .ok cs
  | _, [] => .ok []
  | n, c :: cs => if n < c.utf8Size then .error .insideCharacter else dropBytes (n - c.utf8Size) cs

/-- The characters of `cs` in the first `n` bytes. -/
def takeBytes : Nat → List Char → Except DirectiveError (List Char)
  | 0, _ => .ok []
  | _, [] => .ok []
  | n, c :: cs =>
    if n < c.utf8Size then .error .insideCharacter
    else return c :: (← takeBytes (n - c.utf8Size) cs)

def cut (cs : List Char) (begin finish : Nat) : Except DirectiveError (List Char) := do
  takeBytes (finish - begin) (← dropBytes begin cs)

/-- Reads a field. Its value ends at a second equals sign, and all after that is ignored. -/
def parseField (word : List Char) : Except DirectiveError FieldMatch :=
  match word, Text.split '=' word with
  | [], _ => .error .invalid
  | _, name :: value :: _ =>
    match readBinary64? value, Pattern.flaw? value with
    | none, some flaw => .error (.value flaw)
    | _, _ => .ok { name, hasValue := true }
  | name, _ => .ok { name, hasValue := false }

/-- Reads the character `c` that stands at byte `i`. Words are cut from `text`. -/
def step (text : List Char) (d : Directive) (p : Place) (i : Nat) (c : Char) :
    Except DirectiveError (Directive × Place) := do
  match p, c with
  | .start, '[' => return (d, .span (i + 1))
  | .start, c =>
    if Text.isAlphanumeric c || ['-', ':', '_'].contains c then return (d, .word i)
    else .error .invalid
  | .word begin, '=' =>
    return ({ d with target := some (← cut text begin i) }, .level (i + 1))
  | .word begin, '[' =>
    return ({ d with target := some (← cut text begin i) }, .span (i + 1))
  | .word begin, _ => return (d, .word begin)
  | .span begin, ']' => return ({ d with span := some (← cut text begin i) }, .afterSpan)
  | .span begin, '\x7b' =>
    let name ← cut text begin i
    return ({ d with span := if name.isEmpty then none else some name }, .field (i + 1))
  | .span begin, _ => return (d, .span begin)
  | .field begin, '\x7d' =>
    let field ← parseField (← cut text begin i)
    return ({ d with fields := d.fields ++ [field] }, .afterFields)
  | .field begin, _ => return (d, .field begin)
  | .afterFields, ']' => return (d, .afterSpan)
  | .afterSpan, '=' => return (d, .level (i + 1))
  | .level begin, _ => return (d, .level begin)
  | .afterFields, _ | .afterSpan, _ => .error .invalid

def readFrom (text : List Char) :
    List Char → Directive → Place → Nat → Except DirectiveError (Directive × Place)
  | [], d, p, _ => .ok (d, p)
  | c :: cs, d, p, i => do
    let (d, p) ← step text d p i c
    readFrom text cs d p (i + c.utf8Size)

/-- A bare word is a level if it names one, and a target otherwise. -/
def finish (text : List Char) (d : Directive) (p : Place) : Except DirectiveError Directive := do
  match p with
  | .word begin =>
    let word ← dropBytes begin text
    match Threshold.parse? word with
    | some threshold => return { d with threshold, target := none }
    | none => return { d with threshold := some .trace, target := some word }
  | .level begin => return { d with threshold := ← Threshold.parse (← dropBytes begin text) }
  | .afterSpan => return d
  | .start | .span _ | .field _ | .afterFields => .error .invalid

/-- Reads a directive. Its words are found in the text without the blanks around it, and the same
bytes of the text as it stands are taken for them. -/
def parse (text : List Char) : Except DirectiveError Directive := do
  let (d, p) ← readFrom text (Text.trim text) {} .start 0
  finish text d p

end Directive

end SpanRollup.Log
