import Mathlib
import SpanRollup.Event

/-!
# Counters add up

The counters after two lists of events are the sums of the counters after each.
-/

namespace SpanRollup.Health

theorem add_eq (a b : Health) :
    a + b =
      { bucketsFlushed := a.bucketsFlushed + b.bucketsFlushed
        bucketsDropped := a.bucketsDropped + b.bucketsDropped
        hitsDropped := a.hitsDropped + b.hitsDropped
        bucketsDiscarded := a.bucketsDiscarded + b.bucketsDiscarded
        recordsRejected := a.recordsRejected + b.recordsRejected
        overflowRecords := a.overflowRecords + b.overflowRecords
        fieldSubstitutions := a.fieldSubstitutions + b.fieldSubstitutions
        sinkFailures := a.sinkFailures + b.sinkFailures } := rfl

theorem zero_eq : (0 : Health) = {} := rfl

theorem add_assoc (a b c : Health) : a + b + c = a + (b + c) := by
  simp only [add_eq, UInt64.add_assoc]

theorem add_comm (a b : Health) : a + b = b + a := by
  simp only [add_eq, UInt64.add_comm]

theorem zero_add (a : Health) : 0 + a = a := by
  simp only [add_eq, zero_eq, UInt64.zero_add]

theorem add_zero (a : Health) : a + 0 = a := by
  simp only [add_eq, zero_eq, UInt64.add_zero]

instance : AddCommMonoid Health where
  add_assoc := add_assoc
  zero_add := zero_add
  add_zero := add_zero
  add_comm := add_comm
  nsmul := nsmulRec

theorem ofEvents_nil : ofEvents [] = 0 := rfl

theorem ofEvents_cons (e : Event) (es : List Event) :
    ofEvents (e :: es) = e.counts + ofEvents es := rfl

theorem ofEvents_append (es more : List Event) :
    ofEvents (es ++ more) = ofEvents es + ofEvents more := by
  induction es with
  | nil => rw [List.nil_append, ofEvents_nil, zero_add]
  | cons e es ih => rw [List.cons_append, ofEvents_cons, ofEvents_cons, ih, add_assoc]

theorem ofEvents_singleton (e : Event) : ofEvents [e] = e.counts := by
  rw [ofEvents_cons, ofEvents_nil, add_zero]

end SpanRollup.Health
