/-!
# Health

Counters of what was delivered, and of what was dropped or degraded on the way. They wrap modulo
2^64. The counters of two parts of a run add up to those of the whole.
-/

namespace SpanRollup

structure Health where
  /-- Buckets that a sink took. -/
  bucketsFlushed : UInt64 := 0
  /-- Closed windows that the writer had no room for. -/
  bucketsDropped : UInt64 := 0
  /-- Observations in the windows dropped. -/
  hitsDropped : UInt64 := 0
  /-- Buckets given up for a broken promise of the caller or for what cannot be encoded. -/
  bucketsDiscarded : UInt64 := 0
  /-- Observations that came after the shutdown. -/
  recordsRejected : UInt64 := 0
  /-- Observations that went to the overflow cell because their window was full. -/
  overflowRecords : UInt64 := 0
  /-- Texts that were replaced by an empty one. -/
  fieldSubstitutions : UInt64 := 0
  /-- Buckets that a sink refused. -/
  sinkFailures : UInt64 := 0
  deriving DecidableEq, Repr

namespace Health

instance : Zero Health := ⟨{}⟩

instance : Add Health :=
  ⟨fun a b =>
    { bucketsFlushed := a.bucketsFlushed + b.bucketsFlushed
      bucketsDropped := a.bucketsDropped + b.bucketsDropped
      hitsDropped := a.hitsDropped + b.hitsDropped
      bucketsDiscarded := a.bucketsDiscarded + b.bucketsDiscarded
      recordsRejected := a.recordsRejected + b.recordsRejected
      overflowRecords := a.overflowRecords + b.overflowRecords
      fieldSubstitutions := a.fieldSubstitutions + b.fieldSubstitutions
      sinkFailures := a.sinkFailures + b.sinkFailures }⟩

end Health

end SpanRollup
