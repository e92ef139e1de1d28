import SpanRollup.Digest.Codec
import SpanRollup.Payload.Item
import SpanRollup.Series.Cell

/-!
# Layout of a payload

A payload is one map. Its header carries the tags and the time of one bucket, and ends with the
length of the array of records that follow.
-/

namespace SpanRollup.Payload

/-- What is said of the source in every payload. -/
structure Tags where
  hostname : String := ""
  env : String := ""
  version : String := ""
  deriving DecidableEq, Repr

open Item (name)

def headerItems (tags : Tags) (records : Nat) (start duration : Int64) : List Item :=
  [.map 4,
    name "Hostname", .text tags.hostname,
    name "Env", .text tags.env,
    name "Version", .text tags.version,
    name "Stats", .array 1,
      .map 3,
        name "Start", .int start,
        name "Duration", .int duration,
        name "Stats", .array records]

def recordItems (key : SeriesKey) (cell : Cell) : List Item :=
  [.map 11,
    name "Name", .text key.operation,
    name "Service", .text key.service,
    name "Resource", .text key.resource,
    name "Type", .text key.kind,
    name "HTTPStatusCode", .uint key.status.toUInt64,
    name "Hits", .uint cell.hits,
    name "Errors", .uint cell.errors,
    name "TopLevelHits", .uint cell.topLevel,
    name "Duration", .int cell.duration,
    name "OkSummary", .binary cell.ok.encode,
    name "ErrorSummary", .binary cell.failed.encode]

end SpanRollup.Payload
