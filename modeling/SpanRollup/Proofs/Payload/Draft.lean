import SpanRollup.Proofs.Payload.Calls

/-!
# Drafts

A draft is the part of a bucket that has been written so far. `Writer.holding` is the writer whose
buffer holds a draft and nothing else. Each step of a writer is followed here from such a writer to
the next; `assemble_eq` and `assemble_fails` are for all the steps that lead up to the call of the
sink.
-/

namespace SpanRollup.Payload

structure Draft where
  declared : Nat
  start : Int64
  duration : Int64
  /-- What has been added, in order. -/
  records : List (SeriesKey × Cell) := []
  deriving DecidableEq

namespace Draft

def push (d : Draft) (key : SeriesKey) (cell : Cell) : Draft :=
  { d with records := d.records ++ [(key, cell)] }

/-- All of a bucket. -/
def ofBucket (b : Bucket) : Draft :=
  { declared := b.size, start := b.start, duration := b.duration, records := b.entries }

def toBucket (d : Draft) : Bucket :=
  { start := d.start, duration := d.duration, entries := d.records }

def IsComplete (d : Draft) : Prop := d.declared = d.records.length

instance (d : Draft) : Decidable d.IsComplete := by unfold IsComplete; infer_instance

variable (tags : Tags)

/-- The header and the records. -/
def items (d : Draft) : List Item :=
  headerItems tags d.declared d.start d.duration ++ d.records.flatMap fun r => recordItems r.1 r.2

def IsWritable (d : Draft) : Prop := ∀ item ∈ d.items tags, item.IsWritable

instance (d : Draft) : Decidable (d.IsWritable tags) := by unfold IsWritable; infer_instance

def bytes (d : Draft) : List UInt8 := (d.items tags).flatMap Item.bytes

/-- What the sink is called with. -/
def delivery (d : Draft) : Delivery := { messages := 1, payload := d.bytes tags }

variable {tags}

theorem ofBucket_isComplete (b : Bucket) : (ofBucket b).IsComplete := rfl

theorem ofBucket_toBucket {d : Draft} (h : d.IsComplete) : ofBucket d.toBucket = d := by
  obtain ⟨declared, start, duration, records⟩ := d
  simp only [IsComplete] at h
  simp only [ofBucket, toBucket, Bucket.size, h]

/-- Before its first record a bucket is its header. -/
theorem items_header (tags : Tags) (declared : Nat) (start duration : Int64) :
    items tags { declared, start, duration } = headerItems tags declared start duration :=
  List.append_nil _

theorem items_push (d : Draft) (key : SeriesKey) (cell : Cell) :
    (d.push key cell).items tags = d.items tags ++ recordItems key cell := by
  simp [items, push]

theorem bytes_push (d : Draft) (key : SeriesKey) (cell : Cell) :
    (d.push key cell).bytes tags = d.bytes tags ++ (recordItems key cell).flatMap Item.bytes := by
  simp only [bytes, items_push, List.flatMap_append]

theorem push_isWritable {d : Draft} {key : SeriesKey} {cell : Cell} :
    (d.push key cell).IsWritable tags ↔
      d.IsWritable tags ∧ ∀ item ∈ recordItems key cell, item.IsWritable := by
  simp only [IsWritable, items_push, List.forall_mem_append]

end Draft

/-- A call of a sink is remembered with its answer. -/
theorem Sink.accept_cases (s : Sink) (delivery : Delivery) :
    (s.accept delivery).2 = .ok () ∧
        (s.accept delivery).1.calls = s.calls ++ [{ delivery, refusal := none }] ∨
      ∃ e, (s.accept delivery).2 = .error e ∧
        (s.accept delivery).1.calls = s.calls ++ [{ delivery, refusal := some e }] := by
  unfold accept
  cases s.plan.head?.join with
  | none => exact .inl ⟨rfl, rfl⟩
  | some e => exact .inr ⟨e, rfl, rfl⟩

namespace Writer

/-- The writer that is writing a draft, or none. -/
def holding (tags : Tags) (sink : Sink) : Option Draft → Writer
  | none => { tags, sink }
  | some d =>
    { tags, sink
      buffer := Buffer.empty.put (d.bytes tags)
      stage := .writing d.declared d.records.length }

variable {tags : Tags} {sink : Sink} {d : Draft} {key : SeriesKey} {cell : Cell}

theorem eq_holding_of_ofCapacity? {capacity : Nat} {w : Writer}
    (h : ofCapacity? tags sink capacity = some w) : w = holding tags sink none := by
  simp only [ofCapacity?, Buffer.ofCapacity?, Option.bind_eq_bind, Option.bind_eq_some_iff,
    Option.ite_none_right_eq_some] at h
  obtain ⟨buffer, ⟨_, hb⟩, hw⟩ := h
  cases hb
  cases hw
  rfl

@[simp] theorem discard_holding (draft : Option Draft) :
    (holding tags sink draft).discard = holding tags sink none := by
  cases draft <;> rfl

@[simp] theorem holding_sink (draft : Option Draft) : (holding tags sink draft).sink = sink := by
  cases draft <;> rfl

/-! ## Single steps -/

theorem start_eq {declared : Nat} {start duration : Int64}
    (h : Draft.IsWritable tags { declared, start, duration }) :
    (holding tags sink none).start declared start duration =
      ⟨holding tags sink (some { declared, start, duration }), .ok (),
        (headerItems tags declared start duration).flatMap Item.notices⟩ := by
  rw [Draft.IsWritable, Draft.items_header] at h
  simp only [Writer.start, holding, Buffer.writeAll_of_writable h, Draft.bytes,
    Draft.items_header, List.length_nil]

theorem start_fails (sink : Sink) {declared : Nat} {start duration : Int64}
    (h : ¬Draft.IsWritable tags { declared, start, duration }) :
    ∃ len, ∃ done : List Item, (holding tags sink none).start declared start duration =
      ⟨holding tags sink none, .error (.encode (.tooLong len)),
        done.flatMap Item.notices ++ [.headerFailed (.tooLong len)]⟩ := by
  rw [Draft.IsWritable, Draft.items_header] at h
  obtain ⟨buffer, len, done, he⟩ := Buffer.writeAll_of_not_writable h .empty
  exact ⟨len, done, by simp only [Writer.start, holding, he, giveUp, discard]⟩

/-- A bucket that is started while another is open is lost, and the open one with it. -/
theorem start_open (d : Draft) (declared : Nat) (start duration : Int64) :
    (holding tags sink (some d)).start declared start duration =
      ⟨holding tags sink none, .error .alreadyOpen, [.startedTwice]⟩ := rfl

theorem add_too_many (h : d.declared ≤ d.records.length) :
    (holding tags sink (some d)).add key cell =
      ⟨holding tags sink none, .error (.tooManyRecords d.declared),
        [.tooManyAdded d.declared]⟩ := by
  simp only [add, holding, if_pos h, giveUp, discard]

theorem add_eq (hlt : d.records.length < d.declared)
    (h : ∀ item ∈ recordItems key cell, item.IsWritable) :
    (holding tags sink (some d)).add key cell =
      ⟨holding tags sink (some (d.push key cell)), .ok (),
        (recordItems key cell).flatMap Item.notices⟩ := by
  simp only [add, holding, if_neg (Nat.not_le.mpr hlt), Buffer.writeAll_of_writable h,
    Buffer.put_put, Draft.bytes_push]
  simp only [Draft.push, List.length_append, List.length_singleton]

theorem add_fails (tags : Tags) (sink : Sink) (hlt : d.records.length < d.declared)
    (h : ¬∀ item ∈ recordItems key cell, item.IsWritable) :
    ∃ len, ∃ done : List Item, (holding tags sink (some d)).add key cell =
      ⟨holding tags sink none, .error (.encode (.tooLong len)),
        done.flatMap Item.notices ++ [.recordFailed key (.tooLong len)]⟩ := by
  obtain ⟨buffer, len, done, he⟩ :=
    Buffer.writeAll_of_not_writable h (Buffer.empty.put (d.bytes tags))
  refine ⟨len, done, ?_⟩
  simp only [add, holding, if_neg (Nat.not_le.mpr hlt), he, giveUp, discard]

theorem finish_mismatch (h : ¬d.IsComplete) :
    (holding tags sink (some d)).finish =
      ⟨holding tags sink none, .error (.countMismatch d.declared d.records.length),
        [.countMismatch d.declared d.records.length]⟩ := by
  simp only [Draft.IsComplete] at h
  simp only [finish, holding, ne_eq, h, not_false_eq_true, ↓reduceIte, giveUp, discard]

/-- What is reported of a call of the sink. -/
def report (size : Nat) : Except SinkError Unit → Event
  | .ok () => .flushed size
  | .error e => .deliveryFailed e

/-- The turn that ends with a call of the sink, after some events. -/
def sent (tags : Tags) (sink : Sink) (delivery : Delivery) (events : List Event) : Turn :=
  { writer := holding tags (sink.accept delivery).1 none
    result := (sink.accept delivery).2.mapError .sink
    events := events ++ [report delivery.payload.length (sink.accept delivery).2] }

theorem ofEvents_sent (delivery : Delivery) (events : List Event) :
    Health.ofEvents (sent tags sink delivery events).events =
      Health.ofEvents events +
        (report delivery.payload.length (sink.accept delivery).2).counts := by
  rw [sent, Health.ofEvents_append, Health.ofEvents_singleton]

/-- The sink is called with the whole draft, as a single message. -/
theorem finish_eq (h : d.IsComplete) :
    (holding tags sink (some d)).finish = sent tags sink (d.delivery tags) [] := by
  have hd : ¬d.declared ≠ d.records.length := not_not_intro h
  unfold finish holding sent Draft.delivery
  dsimp only
  rw [if_neg hd, Buffer.mark_put_empty]
  generalize d.bytes tags = bytes
  rcases sink.accept { messages := 1, payload := bytes } with ⟨later, _ | _⟩ <;> rfl

/-! ## Whole buckets -/

end Writer

namespace Turn

/-- The records of a bucket are added until one fails. -/
def addAll (t : Turn) (es : List (SeriesKey × Cell)) : Turn :=
  es.foldl (fun t e => t.andThen (·.add e.1 e.2)) t

theorem addAll_cons (t : Turn) (e : SeriesKey × Cell) (es : List (SeriesKey × Cell)) :
    t.addAll (e :: es) = (t.andThen (·.add e.1 e.2)).addAll es := rfl

theorem andThen_ok (w : Writer) (events : List Event) (next : Writer → Turn) :
    andThen ⟨w, .ok (), events⟩ next =
      { next w with events := events ++ (next w).events } := rfl

theorem andThen_of_error {t : Turn} {e : WriteError} (h : t.result = .error e)
    (next : Writer → Turn) : t.andThen next = t := by
  simp only [andThen, h]

/-- A writer that is idle has nothing to give up. -/
theorem settle_holding (tags : Tags) (sink : Sink) (e : WriteError) (events : List Event) :
    settle ⟨.holding tags sink none, .error e, events⟩ =
      ⟨.holding tags sink none, .error e, events⟩ := by
  show (⟨(Writer.holding tags sink none).discard, .error e, events ++ []⟩ : Turn) = _
  rw [Writer.discard_holding, List.append_nil]

theorem addAll_of_error {es : List (SeriesKey × Cell)} {t : Turn} {e : WriteError}
    (h : t.result = .error e) : t.addAll es = t := by
  unfold addAll
  induction es with
  | nil => rfl
  | cons r es ih => rw [List.foldl_cons, andThen_of_error h, ih]

end Turn

namespace Writer

variable {tags : Tags} {sink : Sink} {d : Draft}

theorem assemble_eq_addAll (w : Writer) (b : Bucket) :
    w.assemble b = (w.start b.size b.start b.duration).addAll b.entries := rfl

theorem addAll_eq {es : List (SeriesKey × Cell)} {events : List Event}
    (hlen : d.records.length + es.length ≤ d.declared)
    (h : Draft.IsWritable tags { d with records := d.records ++ es }) :
    Turn.addAll ⟨holding tags sink (some d), .ok (), events⟩ es =
      ⟨holding tags sink (some { d with records := d.records ++ es }), .ok (),
        events ++ (es.flatMap fun r => recordItems r.1 r.2).flatMap Item.notices⟩ := by
  induction es generalizing d events with
  | nil => simp [Turn.addAll]
  | cons e es ih =>
    have hd : ({ d with records := d.records ++ e :: es } : Draft) =
        { d.push e.1 e.2 with records := (d.push e.1 e.2).records ++ es } := by
      simp [Draft.push]
    have hlt : d.records.length < d.declared := by
      simp only [List.length_cons] at hlen
      omega
    have he : ∀ item ∈ recordItems e.1 e.2, item.IsWritable := by
      intro item hi
      refine h item (List.mem_append_right _ (List.mem_flatMap_of_mem ?_ hi))
      simp
    rw [hd] at h ⊢
    rw [Turn.addAll_cons, Turn.andThen_ok, add_eq hlt he,
      ih (by simp [Draft.push] at hlen ⊢; omega) h]
    simp [List.append_assoc]

/-- A bucket whose items can all be written is assembled as a whole. -/
theorem assemble_eq {b : Bucket} (h : (Draft.ofBucket b).IsWritable tags) :
    (holding tags sink none).assemble b =
      ⟨holding tags sink (some (.ofBucket b)), .ok (),
        ((Draft.ofBucket b).items tags).flatMap Item.notices⟩ := by
  have hs : Draft.IsWritable tags
      { declared := b.size, start := b.start, duration := b.duration } := by
    intro item hi
    rw [Draft.items_header] at hi
    exact h item (List.mem_append_left _ hi)
  rw [assemble_eq_addAll, start_eq hs, addAll_eq (Nat.le_of_eq (Nat.zero_add _)) h]
  simp only [List.nil_append, Draft.ofBucket, Draft.items, List.flatMap_append]

/-- Writing was given up for a length. -/
def Fails (tags : Tags) (sink : Sink) (t : Turn) : Prop :=
  ∃ len, ∃ done : List Item, ∃ last : Event, last.counts = { bucketsDiscarded := 1 } ∧
    t = ⟨holding tags sink none, .error (.encode (.tooLong len)),
      done.flatMap Item.notices ++ [last]⟩

/-- What is counted for a bucket that was given up. -/
theorem ofEvents_givenUp (done : List Item) {last : Event}
    (h : last.counts = { bucketsDiscarded := 1 }) :
    Health.ofEvents (done.flatMap Item.notices ++ [last]) =
      .substituted (.ofNat (done.countP Item.isReplaced)) + { bucketsDiscarded := 1 } := by
  rw [Health.ofEvents_append, Health.ofEvents_notices, Health.ofEvents_singleton, h]

theorem addAll_fails {es : List (SeriesKey × Cell)} {done : List Item}
    (hlen : d.records.length + es.length ≤ d.declared) (hd : d.IsWritable tags)
    (h : ¬Draft.IsWritable tags { d with records := d.records ++ es }) :
    Fails tags sink
      (Turn.addAll ⟨holding tags sink (some d), .ok (), done.flatMap Item.notices⟩ es) := by
  induction es generalizing d done with
  | nil => exact absurd hd (by simpa using h)
  | cons e es ih =>
    have hlt : d.records.length < d.declared := by
      simp only [List.length_cons] at hlen
      omega
    rw [Turn.addAll_cons, Turn.andThen_ok]
    by_cases he : ∀ item ∈ recordItems e.1 e.2, item.IsWritable
    · rw [add_eq hlt he, ← List.flatMap_append]
      refine ih (by simp [Draft.push] at hlen ⊢; omega) (Draft.push_isWritable.mpr ⟨hd, he⟩) ?_
      simpa [Draft.push] using h
    · obtain ⟨len, more, hf⟩ := add_fails tags sink hlt he
      rw [hf, Turn.addAll_of_error rfl]
      exact ⟨len, done ++ more, .recordFailed e.1 (.tooLong len), rfl, by simp⟩

theorem assemble_fails (sink : Sink) {b : Bucket} (h : ¬(Draft.ofBucket b).IsWritable tags) :
    Fails tags sink ((holding tags sink none).assemble b) := by
  rw [assemble_eq_addAll]
  by_cases hs : Draft.IsWritable tags
      { declared := b.size, start := b.start, duration := b.duration }
  · rw [start_eq hs]
    exact addAll_fails (Nat.le_of_eq (Nat.zero_add _)) hs h
  · obtain ⟨len, done, hf⟩ := start_fails sink hs
    rw [hf, Turn.addAll_of_error rfl]
    exact ⟨len, done, _, rfl, rfl⟩

/-! ### In one call -/

theorem writeBucket_of_isEmpty {b : Bucket} (h : b.isEmpty = true) (w : Writer) :
    w.writeBucket b = ⟨w, .ok (), [.emptySkipped]⟩ := if_pos h

theorem writeBucket_eq_settle {b : Bucket} (h : b.isEmpty = false) (w : Writer) :
    w.writeBucket b = ((w.assemble b).andThen finish).settle := by
  rw [writeBucket, h, if_neg Bool.false_ne_true]

/-- If a bucket cannot be assembled, the call does nothing more. -/
theorem writeBucket_of_error {w : Writer} {b : Bucket} {e : WriteError} {events : List Event}
    (hne : b.isEmpty = false)
    (h : w.assemble b = ⟨holding tags sink none, .error e, events⟩) :
    w.writeBucket b = ⟨holding tags sink none, .error e, events⟩ := by
  rw [writeBucket_eq_settle hne, h, Turn.andThen_of_error rfl, Turn.settle_holding]

theorem writeBucket_of_open {b : Bucket} (hne : b.isEmpty = false) (d : Draft) :
    (holding tags sink (some d)).writeBucket b =
      ⟨holding tags sink none, .error .alreadyOpen, [.startedTwice]⟩ := by
  apply writeBucket_of_error hne
  rw [assemble_eq_addAll, start_open, Turn.addAll_of_error rfl]

/-- The sink is called with all of a bucket that can be written. -/
theorem writeBucket_of_isWritable {b : Bucket} (hne : b.isEmpty = false)
    (h : (Draft.ofBucket b).IsWritable tags) :
    (holding tags sink none).writeBucket b =
      sent tags sink ((Draft.ofBucket b).delivery tags)
        (((Draft.ofBucket b).items tags).flatMap Item.notices) := by
  rw [writeBucket_eq_settle hne, assemble_eq h, Turn.andThen_ok,
    finish_eq (Draft.ofBucket_isComplete b)]
  unfold sent
  cases (sink.accept ((Draft.ofBucket b).delivery tags)).2 with
  | ok u => rfl
  | error e => exact Turn.settle_holding _ _ _ _

theorem writeBucket_fails (sink : Sink) {b : Bucket} (hne : b.isEmpty = false)
    (h : ¬(Draft.ofBucket b).IsWritable tags) :
    Fails tags sink ((holding tags sink none).writeBucket b) := by
  obtain ⟨len, done, last, hlast, he⟩ := assemble_fails sink h
  exact ⟨len, done, last, hlast, writeBucket_of_error hne he⟩

end Writer

end SpanRollup.Payload
