import SpanRollup.Number.Decimal.Reader
import SpanRollup.Settings.Basic
import SpanRollup.Text.Blank
import SpanRollup.Text.LowerCase
import SpanRollup.Text.Utf8

/-!
# Settings from environment variables

A variable that is not there, is not UTF-8, or does not hold a number where one is wanted, leaves
the default in place.
-/

namespace SpanRollup

structure Environment where
  bindings : List (String × List UInt8)

namespace Environment

def text? (env : Environment) (name : String) : Option String := do
  let (_, bytes) ← env.bindings.find? (·.1 = name)
  Utf8.decode? bytes

/-- The number that a variable holds. Blanks around it do not count. -/
def number? {α : Type} (read : List Char → Option α) (env : Environment) (name : String) :
    Option α := do
  read (Text.trim (← env.text? name).toList)

def nat? (env : Environment) (name : String) : Option Nat :=
  (env.number? readUInt64? name).map UInt64.toNat

end Environment

/-- The settings in an environment, if there is nothing wrong with them. -/
def Settings.ofEnvironment (env : Environment) : Except Settings.Flaw Settings := do
  let default : Settings := {}
  let settings : Settings :=
    { tags :=
        { hostname := ((env.text? "DD_HOSTNAME").orElse fun _ => env.text? "HOSTNAME").getD ""
          env := (env.text? "DD_ENV").getD ""
          version := (env.text? "DD_VERSION").getD "" }
      bucketDuration :=
        ((env.nat? "DD_TRACE_STATS_BUCKET_DURATION_SECS").map (.ofParts · 0)).getD
          default.bucketDuration
      maxKeys := (env.nat? "DD_TRACE_TRACER_METRICS_MAX_AGGREGATES").getD default.maxKeys
      accuracy :=
        (env.number? readBinary64? "DD_TRACE_STATS_RELATIVE_ACCURACY").getD default.accuracy
      maxBins := (env.nat? "DD_TRACE_STATS_SUMMARY_MAX_BINS").getD default.maxBins
      bufferCapacity := (env.nat? "DD_TRACE_STATS_BUFFER_CAPACITY").getD default.bufferCapacity
      logLevel := ((env.text? "DD_LOG_LEVEL").map Text.toLower).getD default.logLevel }
  settings.validate
  return settings

end SpanRollup
