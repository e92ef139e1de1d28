import SpanRollup.Text.Blank

/-!
# Modes of a pattern

Flags in a pattern, as in `(?i-u)`, change how what follows them is read.

- `Mode`: how a part of a pattern is read.
- `readFlags`: takes flags off the front of a text and applies them.
- `Mode.skip`: drops what does not count in a mode.
-/

namespace SpanRollup.Log.Pattern

inductive Flag where
  | ignoreCase
  | multiLine
  | dotMatchesAll
  | swapGreed
  | carriageReturns
  | unicode
  | skipBlanks
  deriving DecidableEq, Repr

def Flag.ofChar? : Char → Option Flag
  | 'i' => some ignoreCase
  | 'm' => some multiLine
  | 's' => some dotMatchesAll
  | 'U' => some swapGreed
  | 'R' => some carriageReturns
  | 'u' => some unicode
  | 'x' => some skipBlanks
  | _ => none

/-- What of the flags bears on whether a pattern is legal. -/
structure Mode where
  ignoresCase : Bool := false
  /-- A pattern is about characters, and otherwise about bytes. -/
  isUnicode : Bool := true
  /-- Blanks, and comments from `#` to the end of the line, do not count. -/
  skipsBlanks : Bool := false
  deriving DecidableEq, Repr

namespace Mode

def switch (m : Mode) (flag : Flag) (on : Bool) : Mode :=
  match flag with
  | .ignoreCase => { m with ignoresCase := on }
  | .unicode => { m with isUnicode := on }
  | .skipBlanks => { m with skipsBlanks := on }
  | .multiLine | .dotMatchesAll | .swapGreed | .carriageReturns => m

/-- Drops blanks and comments. The first argument tells whether a comment has begun. -/
def dropBlanks : Bool → List Char → List Char
  | _, [] => []
  | true, c :: cs => dropBlanks (c ≠ '\n') cs
  | false, c :: cs =>
    if Text.isBlank c then dropBlanks false cs
    else if c = '#' then dropBlanks true cs
    else c :: cs

def skip (m : Mode) (cs : List Char) : List Char :=
  if m.skipsBlanks then dropBlanks false cs else cs

/-- The character that decides what a minus sign in a set means. Of a comment only the mark is
skipped. -/
def peek (m : Mode) (cs : List Char) : Option Char :=
  if m.skipsBlanks then
    match cs.dropWhile Text.isBlank with
    | '#' :: cs => (cs.dropWhile Text.isBlank).head?
    | cs => cs.head?
  else cs.head?

end Mode

/-- Reads flags up to a colon or a closing parenthesis, which is left. Those after a minus sign are
switched off; there has to be one after it. No flag comes twice. -/
def readFlags (m : Mode) (seen : List Flag) (off dangling : Bool) :
    List Char → Option (Mode × List Char)
  | [] => none
  | c :: cs =>
    if c = ':' || c = ')' then if dangling then none else some (m, c :: cs)
    else if c = '-' then if off then none else readFlags m seen true true cs
    else match Flag.ofChar? c with
      | some flag =>
        if seen.contains flag then none
        else readFlags (m.switch flag !off) (flag :: seen) off false cs
      | none => none

end SpanRollup.Log.Pattern
