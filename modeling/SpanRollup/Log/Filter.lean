import SpanRollup.Log.Directive
import SpanRollup.Text.Split

/-!
# Filters

A filter is a list of directives, separated by commas.

- `Filter.parse`: reads a filter.
- `Filter.admits`: whether something is heard. The most specific directive that is about it
  decides; if there is none, it is not heard.
-/

namespace SpanRollup.Log

namespace Directive

/-- A directive that names a span, or the value of a field, is about what happens in spans. -/
def isAboutSpans (d : Directive) : Bool := d.span.isSome || d.fields.any (·.hasValue)

/-- Whether a directive is about an entry of a part of the program. Entries have one field, the
message. -/
def isAbout (d : Directive) (target : String) : Bool :=
  !d.isAboutSpans && (d.target.getD []).isPrefixOf target.toList &&
    d.fields.all (·.name = "message".toList)

/-- Whether `d` is at least as specific as `e`: it has a longer target, or as long a one and as many
fields. -/
def isAsSpecific (d e : Directive) : Bool :=
  let size (d : Directive) : Nat :=
    match d.target with
    | some cs => 1 + (cs.map Char.utf8Size).sum
    | none => 0
  size e < size d || (size e = size d && e.fields.length ≤ d.fields.length)

end Directive

structure Filter where
  directives : List Directive
  deriving DecidableEq, Repr

namespace Filter

/-- Reads a filter. Nothing between two commas is no directive. -/
def parse (text : String) : Except DirectiveError Filter := do
  let parts := (Text.split ',' text.toList).filter (!·.isEmpty)
  return { directives := ← parts.mapM Directive.parse }

/-- The directive that decides about a part of the program. Of equally specific ones it is the last
one. -/
def decisive (f : Filter) (target : String) : Option Directive :=
  (f.directives.filter (·.isAbout target)).foldl (fun best d =>
    match best with
    | some e => if d.isAsSpecific e then some d else some e
    | none => some d) none

def admits (f : Filter) (target : String) (level : Level) : Bool :=
  match f.decisive target with
  | some d => d.threshold.admits level
  | none => false

end Filter

end SpanRollup.Log
