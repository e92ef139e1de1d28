import SpanRollup.Digest.Resolution
import SpanRollup.Duration
import SpanRollup.Number.Decimal.Shortest
import SpanRollup.Payload.Layout

/-!
# Settings

- `Settings.validate`: the first thing that is wrong with settings, if any.
- `Settings.resolution`: the resolution of the digests, which is legal for all settings.
-/

namespace SpanRollup

structure Settings where
  tags : Payload.Tags := {}
  /-- How long a window stays open. -/
  bucketDuration : Duration := .ofParts 10 0
  /-- How many series a window admits. -/
  maxKeys : Nat := 2048
  accuracy : Binary64 := Resolution.defaultAccuracy
  /-- How many bins a digest may have for each sign. -/
  maxBins : Nat := Resolution.defaultMaxBins
  /-- How much room the buffer for payloads has from the start. -/
  bufferCapacity : Nat := 512 * 1024
  logLevel : String := "info"
  deriving DecidableEq, Repr

namespace Settings

/-- What is wrong with settings. -/
inductive Flaw where
  | noDuration
  | noKeys
  | accuracy (found : Binary64)
  | tooFewBins (found : Nat)
  | logLevel (found : String)
  deriving DecidableEq, Repr

def minBins : Nat := 16

def logLevels : List String := ["trace", "debug", "info", "warn", "error"]

def Flaw.reason : Flaw → String
  | noDuration => "Bucket duration must be greater than 0"
  | noKeys => "Maximum aggregate keys must be greater than 0"
  | accuracy found =>
    s!"Relative accuracy must be at least {Resolution.minAccuracy.text} and below 1, got " ++
      found.text
  | tooFewBins found => s!"Summary max bins must be at least {minBins}, got {found}"
  | logLevel found =>
    "Invalid log level '" ++ found ++ "'. Must be one of: " ++ ", ".intercalate logLevels

/-- Says that settings are refused, for a reason. -/
def invalidMessage (reason : String) : String := s!"Invalid configuration: {reason}"

def Flaw.message (f : Flaw) : String := invalidMessage f.reason

def validate (s : Settings) : Except Flaw Unit :=
  if s.bucketDuration.isZero then .error .noDuration
  else if s.maxKeys = 0 then .error .noKeys
  else if !(Resolution.minAccuracy.le s.accuracy && s.accuracy.lt .one) then
    .error (.accuracy s.accuracy)
  else if s.maxBins < minBins then .error (.tooFewBins s.maxBins)
  else if !logLevels.contains s.logLevel then
    .error (.logLevel s.logLevel)
  else .ok ()

def resolution (s : Settings) : Resolution := .ofSettings s.accuracy s.maxBins

end Settings

end SpanRollup
