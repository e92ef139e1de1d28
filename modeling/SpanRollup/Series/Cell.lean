import SpanRollup.Digest.Basic
import SpanRollup.Series.Observation

/-!
# Cells

A cell holds the totals of one series in one window, with the durations of spans that failed apart
from those of the others.

- `Cell.record`: takes in an observation.
- `Cell.merge`: takes in the observations of another cell.
- `Cell.absorb`: does so in place, one digest after the other.
-/

namespace SpanRollup

structure Cell where
  hits : UInt64
  errors : UInt64
  topLevel : UInt64
  duration : Int64
  /-- The durations of spans without an error. -/
  ok : Digest
  /-- The durations of spans with an error. -/
  failed : Digest
  deriving DecidableEq, Repr

namespace Cell

def empty (resolution : Resolution) : Cell :=
  { hits := 0, errors := 0, topLevel := 0, duration := 0
    ok := .empty resolution, failed := .empty resolution }

def isEmpty (c : Cell) : Bool := c.hits = 0

/-- Takes in an observation. A digest that cannot take its duration stays as it is. -/
def record (c : Cell) (o : Observation) : Cell :=
  { hits := c.hits + 1
    errors := if o.isError then c.errors + 1 else c.errors
    topLevel := if o.isTopLevel then c.topLevel + 1 else c.topLevel
    duration := saturatingAdd c.duration o.clamped
    ok := if o.isError then c.ok else c.ok.record o.clamped
    failed := if o.isError then c.failed.record o.clamped else c.failed }

/-- The cell that has taken in a list of observations. -/
def recordAll (c : Cell) (os : List Observation) : Cell := os.foldl record c

/-- Takes in another cell, or fails as a whole. -/
def merge (c other : Cell) : Except Digest.MergeError Cell := do
  let ok ← c.ok.merge other.ok
  let failed ← c.failed.merge other.failed
  return { hits := c.hits + other.hits
           errors := c.errors + other.errors
           topLevel := c.topLevel + other.topLevel
           duration := saturatingAdd c.duration other.duration
           ok, failed }

/-- Takes in another cell in place, the digests first. A failure ends it where it is. -/
def absorb (c other : Cell) : Cell × Except Digest.MergeError Unit :=
  match c.ok.merge other.ok with
  | .error e => (c, .error e)
  | .ok ok =>
    let c := { c with ok }
    match c.failed.merge other.failed with
    | .error e => (c, .error e)
    | .ok failed =>
      ({ c with
          failed
          hits := c.hits + other.hits
          errors := c.errors + other.errors
          topLevel := c.topLevel + other.topLevel
          duration := saturatingAdd c.duration other.duration }, .ok ())

end Cell

end SpanRollup
