import SpanRollup.Number.Instances

/-!
# Bins

Counts of keys, kept in consecutive bins. The bins grow as keys spread, up to a limit; when the
keys spread further, the lowest ones are folded into the lowest bin that is kept, and from then on
lower keys count there.

Bins that come from outside need not fit together. An operation is `none` when it would address a
bin that is not there. Keys are 32-bit numbers, and so are their differences: those of keys that
lie too far apart wrap around.

- `Bins.add`: counts a key.
- `Bins.merge`: counts the keys of other bins.
- `Bins.keyAtRank`: the key at a place in the order of all counted keys.
-/

namespace SpanRollup

structure Bins where
  counts : Array UInt64
  /-- How many keys have been counted. -/
  total : UInt64
  minKey : Int32
  maxKey : Int32
  /-- The key of the first bin. -/
  offset : Int32
  limit : Nat
  /-- Whether low keys have been folded. -/
  collapsed : Bool
  deriving DecidableEq, Repr

namespace Bins

def empty (limit : Nat) : Bins :=
  { counts := #[], total := 0, minKey := Int32.maxValue, maxKey := Int32.minValue, offset := 0
    limit, collapsed := false }

/-- The number of bins, as the keys count. -/
def width (b : Bins) : Int32 := Int32.ofNat b.counts.size

/-- Where the bin of a key is, if there is one. -/
def index? (b : Bins) (key : Int32) : Option Nat :=
  let index := (key - b.offset).toInt
  if 0 ≤ index ∧ index < b.counts.size then some index.toNat else none

/-! ### Room -/

/-- Bins are made in steps of this many. -/
def chunk : Int32 := 128

/-- The number of bins for keys from `lo` to `hi`. If they lie too far apart it is the limit. -/
def sizeFor (b : Bins) (lo hi : Int32) : Nat :=
  let wanted := (hi - lo + 1 + chunk - 1) / chunk * chunk
  if wanted < 0 then b.limit else min wanted.toInt.toNat b.limit

/-- Adds empty bins at the end until there are `size`. More of them than there are keys find no
room. -/
def growTo (b : Bins) (size : Nat) : Option Bins :=
  if 2 ^ 31 ≤ size then none
  else some { b with counts := b.counts ++ Array.replicate (size - b.counts.size) 0 }

/-- Lets the first bin stand for another key. Counts of keys that no longer have a bin are lost. -/
def moveTo (b : Bins) (offset : Int32) : Option Bins :=
  let n := b.counts.size
  let shift := b.offset - offset
  let distance := shift.toInt.natAbs
  if n < distance then none
  else
    let zeros := Array.replicate distance 0
    let counts :=
      if 0 < shift then zeros ++ b.counts.extract 0 (n - distance)
      else b.counts.extract distance n ++ zeros
    some { b with counts, offset }

/-- Counts `n` more in the bin at an index. -/
def increase (counts : Array UInt64) (index : Nat) (n : UInt64) : Array UInt64 :=
  counts.modify index (· + n)

/-- The counts of the bins from `start` up to `stop`, together. -/
def sum (counts : Array UInt64) (start stop : Nat) : UInt64 :=
  (counts.extract start stop).foldl (· + ·) 0

/-- Folds the counts of keys below `key` into the bin of `key`. -/
def foldBelow (b : Bins) (key : Int32) : Option Bins := do
  let start ← b.index? b.minKey
  let stop ← b.index? key
  if start ≤ stop then
    let folded := sum b.counts start stop
    let counts :=
      b.counts.extract 0 start ++ Array.replicate (stop - start) 0 ++
        b.counts.extract stop b.counts.size
    some { b with counts := increase counts stop folded }
  else none

/-- Makes the bins cover the keys from `lo` to `hi`, as far as there are enough of them. -/
def arrange (b : Bins) (lo hi : Int32) : Option Bins :=
  if b.width < hi - lo + 1 then
    let lo := hi - b.width + 1
    if b.maxKey ≤ lo then
      if b.counts.isEmpty then none
      else
        some { b with
          counts := increase (Array.replicate b.counts.size 0) 0 b.total
          minKey := lo, maxKey := hi, offset := lo, collapsed := true }
    else do
      let b ← if b.offset - lo < 0 then b.foldBelow lo else some b
      let b ← b.moveTo lo
      some { b with minKey := lo, maxKey := hi, collapsed := true }
  else do
    let middle := lo + (hi - lo + 1) / 2
    let b ← b.moveTo (middle - b.width / 2)
    some { b with minKey := lo, maxKey := hi }

/-- Widens the range of keys so that it takes in two more, which need not be in order. -/
def cover (b : Bins) (key other : Int32) : Option Bins := do
  let lo := min key (min other b.minKey)
  let hi := max key (max other b.maxKey)
  if b.counts.isEmpty then
    let b ← b.growTo (b.sizeFor lo hi)
    { b with offset := lo }.arrange lo hi
  else if b.minKey ≤ lo ∧ hi < b.offset + b.width then
    some { b with minKey := lo, maxKey := hi }
  else
    let b ← b.growTo (b.sizeFor lo hi)
    b.arrange lo hi

/-! ### Counting -/

/-- Counts one more in the bin at an index. -/
def bump (b : Bins) (index : Nat) : Option Bins :=
  if index < b.counts.size then
    some { b with counts := increase b.counts index 1, total := b.total + 1 }
  else none

/-- Counts a key in its own bin. -/
def bumpKey (b : Bins) (key : Int32) : Option Bins := do b.bump (← b.index? key)

def add (b : Bins) (key : Int32) : Option Bins :=
  if key < b.minKey then
    if b.collapsed then b.bump 0
    else do
      let b ← b.cover key key
      if b.collapsed then b.bump 0 else b.bumpKey key
  else if b.maxKey < key then do
    let b ← b.cover key key
    b.bumpKey key
  else b.bumpKey key

/-- Adds the counts that `other` has for the `n` keys from `key` on. -/
def addCounts (other : Bins) : Nat → Int32 → Bins → Option Bins
  | 0, _, b => some b
  | n + 1, key, b => do
    let index ← b.index? key
    let more := other.counts.getD (← other.index? key) 0
    addCounts other n (key + 1) { b with counts := increase b.counts index more }

/-- The first bin takes in what the bins from `start` up to `stop` hold. -/
def foldRange (b : Bins) (start stop : Int32) : Option Bins :=
  if 0 ≤ start ∧ stop.toInt ≤ b.counts.size then
    let folded := sum b.counts start.toInt.toNat stop.toInt.toNat
    some { b with counts := increase b.counts 0 folded }
  else none

/-- For keys of `other` below the range of `b`, the first bin takes in what the bins of `b` itself
hold at the places that these keys have in `other`. All other keys are added one by one. -/
def merge (b other : Bins) : Option Bins :=
  if other.total = 0 then some b
  else if b.total = 0 then some other
  else do
    let b ← if other.minKey < b.minKey ∨ b.maxKey < other.maxKey then
        b.cover other.minKey other.maxKey
      else some b
    let behind := other.maxKey + 1
    let start := other.minKey - other.offset
    let stop := min b.minKey behind - other.offset
    let (b, first) ← if start < stop then do some (← b.foldRange start stop, stop)
      else some (b, start)
    let key := first + other.offset
    let b ← addCounts other (behind.toInt - key.toInt).toNat key b
    some { b with total := b.total + other.total }

/-- The index of the first count at which the running sum exceeds `rank`. -/
def indexAtRank (rank : UInt64) : List UInt64 → (sum : UInt64) → (index : Nat) → Option Nat
  | [], _, _ => none
  | count :: counts, sum, index =>
    if rank < sum + count then some index else indexAtRank rank counts (sum + count) (index + 1)

/-- The key that stands at place `rank`, from 0 on, when all counted keys are put in order. -/
def keyAtRank (b : Bins) (rank : UInt64) : Int32 :=
  match indexAtRank rank b.counts.toList 0 0 with
  | some index => Int32.ofNat index + b.offset
  | none => b.maxKey

end Bins

end SpanRollup
