import SpanRollup.Event
import SpanRollup.Log.Filter

/-!
# Loggers

A logger prints the entries of events that its filter admits. The filter can be set once.

- `Logger.install`: sets the filter.
- `Logger.lines`: what is printed for a list of events.
-/

namespace SpanRollup.Log

inductive InstallError where
  | unreadable (level : String) (e : DirectiveError)
  | alreadyInstalled
  deriving DecidableEq, Repr

/-- Says that logging cannot be set up, for a reason. -/
def failureMessage (reason : String) : String := s!"Failed to initialize logging: {reason}"

def InstallError.message : InstallError → String
  | unreadable level e =>
    failureMessage ("could not parse log level '" ++ level ++ "': " ++ e.message)
  | alreadyInstalled => failureMessage "a global default trace dispatcher has already been set"

structure Logger where
  filter : Option Filter := none
  deriving DecidableEq, Repr

namespace Logger

/-- Sets the filter, unless it cannot be read or there is one. -/
def install (l : Logger) (level : String) :
    Logger × Except InstallError Unit × List Event :=
  match Filter.parse level, l.filter with
  | .error e, _ => (l, .error (.unreadable level e), [])
  | .ok _, some _ => (l, .error .alreadyInstalled, [])
  | .ok filter, none => ({ filter }, .ok (), [.loggingEnabled])

/-! ### Printing -/

/-- A character that would steer a terminal is printed as its number. -/
def escape (c : Char) : List Char :=
  if c = '\x1b' then ['\\', 'x', '1', 'b']
  else if c = '\x07' then ['\\', 'x', '0', '7']
  else if c = '\x08' then ['\\', 'x', '0', '8']
  else if c = '\x0c' then ['\\', 'x', '0', 'c']
  else if c = '\x7f' then ['\\', 'x', '7', 'f']
  else if 0x80 ≤ c.toNat && c.toNat ≤ 0x9f then Text.escapeNumber c
  else [c]

def print (e : Event.Entry) : List Char :=
  (e.level.label ++ " " ++ e.target ++ ": ").toList ++ e.message.toList.flatMap escape

/-- A line without the carriage return at its end. -/
def trimReturn (line : List Char) : List Char :=
  if line.getLast? = some '\r' then line.dropLast else line

def hears (l : Logger) (e : Event.Entry) : Bool :=
  match l.filter with
  | some f => f.admits e.target e.level
  | none => false

/-- The lines printed for a list of events. A message may break its line. -/
def lines (l : Logger) (events : List Event) : List String :=
  ((events.filterMap Event.entry?).filter l.hears).flatMap fun e =>
    (Text.split '\n' (print e)).map fun line => String.ofList (trimReturn line)

end Logger

end SpanRollup.Log
