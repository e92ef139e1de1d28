import SpanRollup.Msgpack.Record
import SpanRollup.Sketch.Basic

/-!
# Sketches in MessagePack

A sketch is written as nested arrays of its fields and read back from arrays or maps. Reading
checks the types of the fields only, not that they fit together.
-/

namespace SpanRollup

open Msgpack

/-! ### Scales -/

def Scale.tokens (s : Scale) : List Token :=
  [.array 5, .int s.maxBins.toNat, .float s.gamma, .float s.lnGamma, .float s.minValue,
    .int s.offset.toInt]

/-- The fields of a scale that have been read. -/
structure Scale.Draft where
  maxBins : Option UInt32 := none
  gamma : Option Binary64 := none
  lnGamma : Option Binary64 := none
  minValue : Option Binary64 := none
  offset : Option Int32 := none

def Scale.Draft.finish (d : Draft) : Option Scale := do
  return { maxBins := ← d.maxBins, gamma := ← d.gamma, lnGamma := ← d.lnGamma,
           minValue := ← d.minValue, offset := ← d.offset }

def Scale.fields : List (FieldReader Draft) :=
  [⟨"max_num_bins", (·.maxBins.isSome), fun d => return { d with maxBins := ← Reader.uint32 }⟩,
   ⟨"gamma", (·.gamma.isSome), fun d => return { d with gamma := ← Reader.float }⟩,
   ⟨"gamma_ln", (·.lnGamma.isSome), fun d => return { d with lnGamma := ← Reader.float }⟩,
   ⟨"min_value", (·.minValue.isSome), fun d => return { d with minValue := ← Reader.float }⟩,
   ⟨"offset", (·.offset.isSome), fun d => return { d with offset := ← Reader.int32 }⟩]

def Scale.reader (depth : Nat) : Reader Scale :=
  Reader.record "Config" depth (fun _ => fields) {} Draft.finish

/-! ### Bins -/

def Bins.tokens (b : Bins) : List Token :=
  [.array 7, .array b.counts.size] ++ b.counts.toList.map (fun n => .int n.toNat) ++
    [.int b.total.toNat, .int b.minKey.toInt, .int b.maxKey.toInt, .int b.offset.toInt,
      .int b.limit, .bool b.collapsed]

/-- The fields of bins that have been read. -/
structure Bins.Draft where
  counts : Option (Array UInt64) := none
  total : Option UInt64 := none
  minKey : Option Int32 := none
  maxKey : Option Int32 := none
  offset : Option Int32 := none
  limit : Option Nat := none
  collapsed : Option Bool := none

def Bins.Draft.finish (d : Draft) : Option Bins := do
  return { counts := ← d.counts, total := ← d.total, minKey := ← d.minKey, maxKey := ← d.maxKey,
           offset := ← d.offset, limit := ← d.limit, collapsed := ← d.collapsed }

def Bins.fields (depth : Nat) : List (FieldReader Draft) :=
  [⟨"bins", (·.counts.isSome),
      fun d => return { d with counts := ← Reader.sequence depth Reader.uint64 }⟩,
   ⟨"count", (·.total.isSome), fun d => return { d with total := ← Reader.uint64 }⟩,
   ⟨"min_key", (·.minKey.isSome), fun d => return { d with minKey := ← Reader.int32 }⟩,
   ⟨"max_key", (·.maxKey.isSome), fun d => return { d with maxKey := ← Reader.int32 }⟩,
   ⟨"offset", (·.offset.isSome), fun d => return { d with offset := ← Reader.int32 }⟩,
   ⟨"bin_limit", (·.limit.isSome), fun d => return { d with limit := ← Reader.size }⟩,
   ⟨"is_collapsed", (·.collapsed.isSome), fun d => return { d with collapsed := ← Reader.bool }⟩]

def Bins.reader (depth : Nat) : Reader Bins :=
  Reader.record "Store" depth fields {} Draft.finish

/-! ### Sketches -/

def Sketch.tokens (s : Sketch) : List Token :=
  .array 7 :: s.scale.tokens ++ s.positive.tokens ++ s.negative.tokens ++
    [.float s.min, .float s.max, .float s.sum, .int s.zeros.toNat]

/-- The fields of a sketch that have been read. -/
structure Sketch.Draft where
  scale : Option Scale := none
  positive : Option Bins := none
  negative : Option Bins := none
  min : Option Binary64 := none
  max : Option Binary64 := none
  sum : Option Binary64 := none
  zeros : Option UInt64 := none

def Sketch.Draft.finish (d : Draft) : Option Sketch := do
  return { scale := ← d.scale, positive := ← d.positive, negative := ← d.negative,
           min := ← d.min, max := ← d.max, sum := ← d.sum, zeros := ← d.zeros }

def Sketch.fields (depth : Nat) : List (FieldReader Draft) :=
  [⟨"config", (·.scale.isSome), fun d => return { d with scale := ← Scale.reader depth }⟩,
   ⟨"store", (·.positive.isSome), fun d => return { d with positive := ← Bins.reader depth }⟩,
   ⟨"negative_store", (·.negative.isSome),
      fun d => return { d with negative := ← Bins.reader depth }⟩,
   ⟨"min", (·.min.isSome), fun d => return { d with min := ← Reader.float }⟩,
   ⟨"max", (·.max.isSome), fun d => return { d with max := ← Reader.float }⟩,
   ⟨"sum", (·.sum.isSome), fun d => return { d with sum := ← Reader.float }⟩,
   ⟨"zero_count", (·.zeros.isSome), fun d => return { d with zeros := ← Reader.uint64 }⟩]

def Sketch.reader (depth : Nat) : Reader Sketch :=
  Reader.record "DDSketch" depth fields {} Draft.finish

end SpanRollup
