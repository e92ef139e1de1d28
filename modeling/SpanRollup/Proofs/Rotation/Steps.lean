import SpanRollup.Proofs.Rotation.Books
import SpanRollup.Rotation.Run

/-!
# Steps of a rotation

`Keeps` is the invariant of a rotation: the window in the sink, those in the queue and those that
have come to their fate are the windows that were closed, and the counters are what the books add up
to. Each step keeps the books. Main statements: `drain`, after which nothing is in flight;
`moves_keep`, the books are true whatever the order in which the two tasks take their turns.
-/

namespace SpanRollup

open Payload

/-! ## Handing over -/

theorem Mailbox.send_of_room {α : Type} {m : Mailbox α} (ho : m.isClosed = false)
    (hf : m.isFull = false) (a : α) :
    m.send a = ({ m with queue := m.queue ++ [a] }, .queued) := by
  rw [send, if_neg (by simp [ho]), if_neg (by simp [hf])]

theorem Mailbox.send_of_full {α : Type} {m : Mailbox α} (ho : m.isClosed = false)
    (hf : m.isFull = true) (a : α) : m.send a = (m, .full) := by
  rw [send, if_neg (by simp [ho]), if_pos hf]

theorem handOff_empty {b : Bucket} (h : b.isEmpty = true) (m : Mailbox Bucket) :
    handOff m b = (m, false, [.nothingRecorded]) := if_pos h

theorem handOff_of_room {m : Mailbox Bucket} {b : Bucket} (h : b.isEmpty = false)
    (ho : m.isClosed = false) (hf : m.isFull = false) :
    handOff m b = ({ m with queue := m.queue ++ [b] }, true, []) := by
  rw [handOff, if_neg (by simp [h]), Mailbox.send_of_room ho hf]

theorem handOff_of_full {m : Mailbox Bucket} {b : Bucket} (h : b.isEmpty = false)
    (ho : m.isClosed = false) (hf : m.isFull = true) :
    handOff m b = (m, false, [.writerBusy b.size b.hits]) := by
  rw [handOff, if_neg (by simp [h]), Mailbox.send_of_full ho hf]

/-! ## The invariant -/

namespace Rotation

/-- The books are true of a rotation whose sink had not been called before. -/
structure Keeps (tags : Tags) (resolution : Resolution) (books : Books) (r : Rotation) : Prop where
  resolution_eq : r.recorder.resolution = resolution
  isShutdown : r.recorder.isShutdown = books.isShutdown
  tallies : Tallies resolution books.current r.recorder.window.table
  sound : ∀ c ∈ books.closings, c.IsSound tags resolution
  ordered : books.closings.Pairwise Closing.Precedes
  inFlight : Closing.inFlight books.closings = books.inSink.toList ++ r.pending.queue
  isOpen : r.pending.isClosed = false
  task : r.task = if books.inSink.isSome then .inSink else .waiting
  writer : r.writer = .holding tags r.writer.sink (books.inSink.map Draft.ofBucket)
  writable : ∀ b ∈ books.inSink, (Draft.ofBucket b).IsWritable tags
  calls : r.writer.sink.calls = books.closings.filterMap (Closing.call? tags)
  health : ∃ n, Health.ofEvents r.events = .substituted n + books.health

/-- The writing task waits, with nothing assembled. -/
def resting (r : Rotation) (tags : Tags) (sink : Sink) (queue : List Bucket) : Rotation :=
  { r with
    pending := { r.pending with queue }
    writer := .holding tags sink none
    task := .waiting }

variable {tags : Tags} {resolution : Resolution} {books : Books} {r : Rotation}

namespace Keeps

/-- A rotation at its beginning. -/
theorem new (maxKeys : Nat) (resolution : Resolution) (period : Duration)
    (plan : List (Option SinkError)) :
    Keeps tags resolution {}
      { recorder := { maxKeys, resolution, period }, writer := .holding tags { plan } none } where
  resolution_eq := rfl
  isShutdown := rfl
  tallies := tallies_nil resolution
  sound := by simp
  ordered := .nil
  inFlight := rfl
  isOpen := rfl
  task := rfl
  writer := rfl
  writable := by simp
  calls := rfl
  health := ⟨0, rfl⟩

theorem tell (h : Keeps tags resolution books r) {es : List Event}
    (he : Health.ofEvents es = 0) : Keeps tags resolution books (r.tell es) := by
  refine { h with health := ?_ }
  obtain ⟨n, hn⟩ := h.health
  refine ⟨n, ?_⟩
  rw [Rotation.tell, Health.ofEvents_append, he, hn, add_zero]

theorem start (h : Keeps tags resolution books r) : Keeps tags resolution books r.start := by
  unfold Rotation.start
  split
  · exact h
  · refine tell ?_ rfl
    exact { h with }

/-! ## Observations -/

/-- An observation is answered by whether the shutdown has come, and the window has it if not. -/
theorem observe (h : Keeps tags resolution books r) (x : SeriesKey × Observation) :
    Keeps tags resolution (books.enter [x] [(r.observe x.1 x.2).2]) (r.observe x.1 x.2).1 ∧
      ((r.observe x.1 x.2).2 = .rejected ↔ books.isShutdown = true) := by
  obtain ⟨key, o⟩ := x
  cases hshut : books.isShutdown with
  | true =>
    have hobserve : r.observe key o = (r.tell [.rejected key], .rejected) := by
      rw [Rotation.observe, Recorder.record_rejected (h.isShutdown.trans hshut)]
    rw [hobserve]
    refine ⟨{ h with tallies := ?_, health := ?_ }, by simp⟩
    · show Tallies resolution (books.current ++ []) r.recorder.window.table
      rw [List.append_nil]
      exact h.tallies
    · obtain ⟨n, hn⟩ := h.health
      refine ⟨n, ?_⟩
      rw [Rotation.tell, Health.ofEvents_append, hn, Books.health_enter, add_assoc]
      rfl
  | false =>
    obtain ⟨window, admission, events, k, hrecord, hrouted, htable, hcases⟩ :=
      Recorder.record_taken (h.isShutdown.trans hshut) key o
    have hobserve : r.observe key o =
        (Rotation.tell { r with recorder := { r.recorder with window } } events, admission) := by
      rw [Rotation.observe, hrecord]
    have hhistory : History.ofWindow [(key, o)] [admission] = [(k, o)] := by
      rw [History.ofWindow_cons, hrouted]
      rfl
    have hcounts : Health.ofEvents events = admission.counts := by
      rcases hcases with ⟨rfl, he⟩ | ⟨rfl, he⟩ <;> exact he
    rw [hobserve]
    refine ⟨{ h with tallies := ?_, health := ?_ }, ?_⟩
    · show Tallies resolution (books.current ++ History.ofWindow [(key, o)] [admission])
        window.table
      rw [hhistory, htable, h.resolution_eq]
      exact tallies_add h.tallies k o
    · obtain ⟨n, hn⟩ := h.health
      refine ⟨n, ?_⟩
      rw [Rotation.tell, Health.ofEvents_append, hn, hcounts, Books.health_enter, add_assoc,
        List.map_singleton, List.sum_singleton]
    · rcases hcases with ⟨rfl, -⟩ | ⟨rfl, -⟩ <;> simp

theorem observeAll_concat (r : Rotation) (os : List (SeriesKey × Observation))
    (x : SeriesKey × Observation) :
    r.observeAll (os ++ [x]) =
      (((r.observeAll os).1.observe x.1 x.2).1,
        (r.observeAll os).2 ++ [((r.observeAll os).1.observe x.1 x.2).2]) := by
  unfold Rotation.observeAll
  rw [List.foldl_append, List.foldl_cons, List.foldl_nil]

theorem observeAll (h : Keeps tags resolution books r) (os : List (SeriesKey × Observation)) :
    Keeps tags resolution (books.enter os (r.observeAll os).2) (r.observeAll os).1 ∧
      os.length = (r.observeAll os).2.length ∧
      ∀ a ∈ (r.observeAll os).2, a = .rejected ↔ books.isShutdown = true := by
  induction os using List.reverseRecOn with
  | nil =>
    refine ⟨?_, rfl, fun a ha => by cases ha⟩
    have henter : books.enter [] [] = books := by simp [Books.enter, History.ofWindow]
    show Keeps tags resolution (books.enter [] []) r
    exact henter.symm ▸ h
  | append_singleton os x ih =>
    obtain ⟨hkeeps, hlen, hanswers⟩ := ih
    obtain ⟨hnext, hanswer⟩ := hkeeps.observe x
    rw [observeAll_concat]
    refine ⟨?_, by simp [hlen], ?_⟩
    · rw [← Books.enter_enter books hlen]
      exact hnext
    · refine List.forall_mem_append.mpr ⟨hanswers, ?_⟩
      rw [List.forall_mem_singleton]
      exact hanswer

/-! ## Closed windows -/

/-- The window is closed, and its bucket is not yet handed over. -/
theorem closeWindow (h : Keeps tags resolution books r) :
    Keeps tags resolution { books with current := [] }
      { r with recorder := { r.recorder with window := .empty } } :=
  { h with tallies := tallies_nil resolution }

theorem closed_isEmpty (h : Keeps tags resolution books r) (start duration : Int64) :
    Bucket.isEmpty { start, duration, entries := r.recorder.window.entries } = true ↔
      books.current = [] := by
  rw [Bucket.isEmpty, List.isEmpty_iff]
  exact h.tallies.entries.eq_nil_iff

variable {history : History} {b : Bucket}

/-- There was room in the queue. -/
theorem queue (h : Keeps tags resolution books r) (hne : history ≠ [])
    (ht : Tallies resolution history b.entries) :
    Keeps tags resolution
      { books with closings := books.closings ++ [{ history, bucket := b, fate := none }] }
      { r with pending := { r.pending with queue := r.pending.queue ++ [b] } } := by
  refine { h with sound := ?_, ordered := ?_, inFlight := ?_, calls := ?_, health := ?_ }
  · exact Closing.isSound_concat h.sound ⟨hne, ht, fun fate hf => by cases hf⟩
  · exact Closing.precedes_concat h.ordered (.inl rfl)
  · rw [Closing.inFlight_append, h.inFlight, List.append_assoc]
    rfl
  · rw [List.filterMap_append, h.calls]
    exact (List.append_nil _).symm
  · obtain ⟨n, hn⟩ := h.health
    refine ⟨n, hn.trans ?_⟩
    simp [Books.health, Closing.counts]

/-- There was no room, and it is counted. -/
theorem drop (h : Keeps tags resolution books r) (hne : history ≠ [])
    (ht : Tallies resolution history b.entries) :
    Keeps tags resolution
      { books with closings := books.closings ++ [{ history, bucket := b, fate := some .dropped }] }
      (r.tell [.writerBusy b.size b.hits]) := by
  refine { h with sound := ?_, ordered := ?_, inFlight := ?_, calls := ?_, health := ?_ }
  · refine Closing.isSound_concat h.sound ⟨hne, ht, fun fate hf hnot => ?_⟩
    cases hf
    exact absurd rfl hnot
  · exact Closing.precedes_concat h.ordered (.inr rfl)
  · rw [Closing.inFlight_append, h.inFlight]
    exact List.append_nil _
  · rw [List.filterMap_append]
    refine h.calls.trans ?_
    exact (List.append_nil _).symm
  · obtain ⟨n, hn⟩ := h.health
    refine ⟨n, ?_⟩
    rw [Rotation.tell, Health.ofEvents_append, hn, Health.ofEvents_singleton, add_assoc]
    simp only [Books.health, List.map_append, List.sum_append, List.map_cons, List.map_nil,
      List.sum_cons, List.sum_nil, add_zero, add_assoc]
    rfl

/-- A tick closes the window. If it is empty, nothing is handed over. -/
theorem tick (h : Keeps tags resolution books r) (start : Int64) :
    ∃ b fate, Keeps tags resolution (books.close b fate) (r.tick start) := by
  have hclosed := h.closeWindow
  have hempty := h.closed_isEmpty start r.recorder.period.toInt64
  simp only [Rotation.tick, Recorder.rotate]
  generalize hb : ({ start, duration := r.recorder.period.toInt64
                     entries := r.recorder.window.entries } : Bucket) = b at hempty
  have ht : Tallies resolution books.current b.entries := hb ▸ h.tallies.entries
  by_cases hcur : books.current = []
  · refine ⟨b, none, ?_⟩
    rw [Books.close, if_pos hcur, handOff_empty (hempty.mpr hcur)]
    exact hclosed.tell rfl
  have hne : b.isEmpty = false := Bool.eq_false_iff.mpr (mt hempty.mp hcur)
  cases hfull : r.pending.isFull with
  | true =>
    refine ⟨b, some .dropped, ?_⟩
    rw [Books.close, if_neg hcur, handOff_of_full hne h.isOpen hfull]
    have htold := hclosed.tell
      (show Health.ofEvents [.rotated r.recorder.window.table.length] = 0 from rfl)
    have hdrop := htold.drop hcur ht
    simpa only [Rotation.tell, List.append_assoc] using hdrop
  | false =>
    refine ⟨b, none, ?_⟩
    rw [Books.close, if_neg hcur, handOff_of_room hne h.isOpen hfull]
    exact (hclosed.queue hcur ht).tell rfl

/-! ## The task that writes -/

/-- The first window in flight comes to a fate, and the task waits for the next one. -/
theorem settle (h : Keeps tags resolution books r) {sink : Sink} {rest : List Bucket}
    {es : List Event} {n : UInt64} (fate : Fate)
    (hb : Closing.inFlight books.closings = b :: rest) (hd : fate ≠ .dropped)
    (hw : fate = .discarded ↔ ¬(Draft.ofBucket b).IsWritable tags)
    (hcalls : sink.calls = r.writer.sink.calls ++ (fate.call? tags b).toList)
    (hes : Health.ofEvents es = .substituted n + fate.counts b.hits) :
    Keeps tags resolution
        { books with closings := Closing.settle fate books.closings, inSink := none }
        ((r.resting tags sink rest).tell es) ∧
      books.Continues
        { books with closings := Closing.settle fate books.closings, inSink := none } := by
  refine ⟨?_, Closing.lasting_settle hd _, rfl, rfl, rfl⟩
  refine
    { h with
      sound := Closing.isSound_settle h.sound hb hw
      ordered := Closing.precedes_settle fate h.ordered
      inFlight := ?_
      task := rfl
      writer := rfl
      writable := fun _ hnone => by cases hnone
      calls := ?_
      health := ?_ }
  · rw [Closing.inFlight_settle, hb]
    rfl
  · rw [Closing.calls_settle fate h.ordered hb, ← h.calls]
    exact hcalls
  · obtain ⟨m, hm⟩ := h.health
    refine ⟨m + n, ?_⟩
    rw [Rotation.tell, Health.ofEvents_append, hes]
    simp only [resting, hm, Books.health, Closing.counts_settle fate hb, ← Health.substituted_add]
    abel

theorem takeUp_idle (h : Keeps tags resolution books r)
    (hidle : books.inSink ≠ none ∨ r.pending.queue = []) : r.takeUp = r := by
  have htask := h.task
  cases hs : books.inSink with
  | some b =>
    rw [hs] at htask
    simp only [Rotation.takeUp, htask, Option.isSome_some, if_true]
  | none =>
    rcases hidle with hidle | hidle
    · exact absurd hs hidle
    · rw [hs] at htask
      simp only [Rotation.takeUp, htask, Option.isSome_none, Bool.false_eq_true, if_false,
        Mailbox.receive, hidle, List.head?_nil]

/-- A bucket that can be written is assembled up to the call of the sink. -/
theorem takeUp_eq (h : Keeps tags resolution books r) (hs : books.inSink = none)
    {rest : List Bucket} (hq : r.pending.queue = b :: rest)
    (hw : (Draft.ofBucket b).IsWritable tags) :
    r.takeUp =
      ({ r with
          pending := { r.pending with queue := rest }
          writer := .holding tags r.writer.sink (some (.ofBucket b))
          task := .inSink } : Rotation).tell
        (((Draft.ofBucket b).items tags).flatMap Item.notices) := by
  have htask := h.task
  have hwriter := h.writer
  rw [hs] at htask hwriter
  simp only [Rotation.takeUp, htask, Option.isSome_none, Bool.false_eq_true, if_false,
    Mailbox.receive, hq, List.head?_cons, List.tail_cons]
  rw [hwriter, Option.map_none, Writer.assemble_eq hw, Writer.holding_sink]

/-- A bucket that cannot be written is given up at once. -/
theorem takeUp_fails (h : Keeps tags resolution books r) (hs : books.inSink = none)
    {rest : List Bucket} (hq : r.pending.queue = b :: rest)
    (hw : ¬(Draft.ofBucket b).IsWritable tags) :
    ∃ es n, Health.ofEvents es = .substituted n + { bucketsDiscarded := 1 } ∧
      r.takeUp = (r.resting tags r.writer.sink rest).tell es := by
  have htask := h.task
  have hwriter := h.writer
  rw [hs] at htask hwriter
  obtain ⟨len, done, last, hlast, he⟩ := Writer.assemble_fails r.writer.sink hw
  refine ⟨done.flatMap Item.notices ++ [last] ++ [.writeFailed (.encode (.tooLong len))],
    .ofNat (done.countP Item.isReplaced), ?_, ?_⟩
  · rw [Health.ofEvents_append, Writer.ofEvents_givenUp done hlast]
    exact add_zero _
  · simp only [Rotation.takeUp, htask, Option.isSome_none, Bool.false_eq_true, if_false,
      Mailbox.receive, hq, List.head?_cons, List.tail_cons]
    rw [hwriter, Option.map_none, he, Turn.settle_holding, Writer.holding_sink, resting]
    simp only [failures]

theorem takeUp (h : Keeps tags resolution books r) :
    ∃ later, Keeps tags resolution later r.takeUp ∧ books.Continues later ∧
      (books.inSink = none → r.takeUp.pending.queue = r.pending.queue.tail) := by
  cases hs : books.inSink with
  | some b =>
    rw [h.takeUp_idle (.inl (by simp [hs]))]
    exact ⟨books, h, .refl books, fun hnone => by cases hnone⟩
  | none =>
  cases hq : r.pending.queue with
  | nil =>
    rw [h.takeUp_idle (.inr hq)]
    exact ⟨books, h, .refl books, fun _ => hq⟩
  | cons b rest =>
  have hflight : Closing.inFlight books.closings = b :: rest := by rw [h.inFlight, hs, hq]; rfl
  by_cases hw : (Draft.ofBucket b).IsWritable tags
  · rw [h.takeUp_eq hs hq hw]
    refine ⟨{ books with inSink := some b }, ?_, ⟨rfl, rfl, rfl, rfl⟩, fun _ => rfl⟩
    refine { h with inFlight := hflight, task := rfl, writer := rfl, writable := ?_, health := ?_ }
    · intro other hother
      cases hother
      exact hw
    · obtain ⟨m, hm⟩ := h.health
      refine ⟨m + .ofNat (((Draft.ofBucket b).items tags).countP Item.isReplaced), ?_⟩
      rw [Rotation.tell, Health.ofEvents_append, hm, Health.ofEvents_notices,
        ← Health.substituted_add]
      simp only [Books.health]
      abel
  · obtain ⟨es, n, hes, he⟩ := h.takeUp_fails hs hq hw
    rw [he]
    have hsettle := h.settle .discarded hflight (by decide) (by simp [hw])
      (List.append_nil _).symm hes
    exact ⟨_, hsettle.1, hsettle.2, fun _ => rfl⟩

/-- The sink is called with the bucket that was assembled, and its answer is the fate of it. -/
theorem complete_eq (h : Keeps tags resolution books r) (hs : books.inSink = some b) :
    ∃ (fate : Fate) (es : List Event), (fate = .delivered ∨ ∃ e, fate = .refused e) ∧
      Health.ofEvents es = fate.counts b.hits ∧
      (r.writer.sink.accept ((Draft.ofBucket b).delivery tags)).1.calls =
        r.writer.sink.calls ++ (fate.call? tags b).toList ∧
      r.complete =
        (r.resting tags (r.writer.sink.accept ((Draft.ofBucket b).delivery tags)).1
          r.pending.queue).tell es := by
  have htask := h.task
  have hwriter := h.writer
  rw [hs] at htask hwriter
  have hfinish : (Writer.holding tags r.writer.sink (some (.ofBucket b))).finish = _ :=
    Writer.finish_eq (Draft.ofBucket_isComplete b)
  rw [Option.map_some] at hwriter
  rw [← hwriter] at hfinish
  rcases r.writer.sink.accept_cases ((Draft.ofBucket b).delivery tags) with
    ⟨hanswer, hcalls⟩ | ⟨e, hanswer, hcalls⟩
  · rw [Writer.sent, hanswer] at hfinish
    refine ⟨.delivered, [.flushed ((Draft.ofBucket b).bytes tags).length], .inl rfl,
      Health.ofEvents_singleton _, hcalls, ?_⟩
    simp only [Rotation.complete, htask, Option.isSome_some, if_true, hfinish]
    rfl
  · rw [Writer.sent, hanswer] at hfinish
    refine ⟨.refused e, [.deliveryFailed e, .writeFailed (.sink e)], .inr ⟨e, rfl⟩, rfl,
      hcalls, ?_⟩
    simp only [Rotation.complete, htask, Option.isSome_some, if_true, hfinish, Except.mapError,
      Turn.settle_holding]
    rfl

/-- The call of the sink returns, and the bucket has been taken or refused. -/
theorem complete (h : Keeps tags resolution books r) :
    ∃ later, Keeps tags resolution later r.complete ∧ books.Continues later ∧
      later.inSink = none ∧ r.complete.pending.queue = r.pending.queue := by
  cases hs : books.inSink with
  | none =>
    have htask := h.task
    rw [hs] at htask
    have he : r.complete = r := by
      simp only [Rotation.complete, htask, Option.isSome_none, Bool.false_eq_true, if_false]
    rw [he]
    exact ⟨books, h, .refl books, hs, rfl⟩
  | some b =>
    have hflight : Closing.inFlight books.closings = b :: r.pending.queue := by
      rw [h.inFlight, hs]
      rfl
    have hwritable := h.writable b hs
    obtain ⟨fate, es, hfate, hes, hcalls, he⟩ := h.complete_eq hs
    rw [he]
    have hsent : fate ≠ .dropped ∧ fate ≠ .discarded := by
      rcases hfate with rfl | ⟨e, rfl⟩ <;> simp
    have hhealth : Health.ofEvents es = .substituted 0 + fate.counts b.hits :=
      hes.trans (zero_add _).symm
    have hsettle := h.settle fate hflight hsent.1 (by simp [hsent.2, hwritable]) hcalls hhealth
    exact ⟨_, hsettle.1, hsettle.2, rfl, rfl⟩

/-- Every round takes the first bucket off the queue, so as many rounds as buckets are enough. -/
theorem rounds (bs : List Bucket) (h : Keeps tags resolution books r) (hs : books.inSink = none)
    (hlen : r.pending.queue.length ≤ bs.length) :
    ∃ later, Keeps tags resolution later (bs.foldl (fun r _ => r.takeUp.complete) r) ∧
      books.Continues later ∧ later.inSink = none ∧
      (bs.foldl (fun r _ => r.takeUp.complete) r).pending.queue = [] := by
  induction bs generalizing r books with
  | nil => exact ⟨books, h, .refl books, hs, List.eq_nil_of_length_eq_zero (Nat.le_zero.mp hlen)⟩
  | cons b bs ih =>
    obtain ⟨taken, hk, hc, hq⟩ := h.takeUp
    obtain ⟨done, hk', hc', hs', hq'⟩ := hk.complete
    have hlen' : r.takeUp.complete.pending.queue.length ≤ bs.length := by
      rw [hq', hq hs, List.length_tail]
      rw [List.length_cons] at hlen
      omega
    obtain ⟨later, hk'', hc'', hrest⟩ := ih hk' hs' hlen'
    exact ⟨later, hk'', (hc.trans hc').trans hc'', hrest⟩

/-- All that is in flight comes to its fate. -/
theorem drain (h : Keeps tags resolution books r) :
    ∃ later, Keeps tags resolution later r.drain ∧ books.Continues later ∧
      later.inSink = none ∧ r.drain.pending.queue = [] := by
  obtain ⟨done, hk, hc, hs, hq⟩ := h.complete
  obtain ⟨later, hk', hc', hrest⟩ :=
    hk.rounds r.pending.queue hs (Nat.le_of_eq (congrArg List.length hq))
  exact ⟨later, hk', hc.trans hc', hrest⟩

end Keeps

/-! ## Any order of steps -/

/-- An observation, or a step of one of the two tasks. -/
inductive Move where
  | observe (x : SeriesKey × Observation)
  | start
  | tick (t : Int64)
  | takeUp
  | complete

def Move.isObservation : Move → Bool
  | observe _ => true
  | start | tick _ | takeUp | complete => false

def move (r : Rotation) : Move → Rotation
  | .observe x => (r.observe x.1 x.2).1
  | .start => r.start
  | .tick t => r.tick t
  | .takeUp => r.takeUp
  | .complete => r.complete

theorem Keeps.move (h : Keeps tags resolution books r) (hwhole : books.IsWhole) (m : Move) :
    ∃ later, Keeps tags resolution later (r.move m) ∧ later.IsWhole ∧
      later.admissions.length = books.admissions.length + [m].countP Move.isObservation := by
  cases m with
  | observe x =>
    exact ⟨_, (h.observe x).1, hwhole.enter rfl, List.length_append⟩
  | start => exact ⟨books, h.start, hwhole, rfl⟩
  | tick t =>
    obtain ⟨b, fate, hk⟩ := h.tick t
    exact ⟨_, hk, hwhole.close b fate, rfl⟩
  | takeUp =>
    obtain ⟨later, hk, hc, -⟩ := h.takeUp
    exact ⟨later, hk, hc.isWhole hwhole, congrArg List.length hc.admissions⟩
  | complete =>
    obtain ⟨later, hk, hc, -⟩ := h.complete
    exact ⟨later, hk, hc.isWhole hwhole, congrArg List.length hc.admissions⟩

/-- Whatever the order of the steps: at any moment the books of a rotation are true, and each
observation is in them once. -/
theorem moves_keep (maxKeys : Nat) (resolution : Resolution) (period : Duration) (tags : Tags)
    (plan : List (Option SinkError)) (moves : List Move) :
    ∃ books,
      Keeps tags resolution books
        (moves.foldl move
          { recorder := { maxKeys, resolution, period }, writer := .holding tags { plan } none }) ∧
      books.IsWhole ∧ books.admissions.length = moves.countP Move.isObservation := by
  induction moves using List.reverseRecOn with
  | nil => exact ⟨{}, .new maxKeys resolution period plan, rfl, rfl⟩
  | append_singleton moves m ih =>
    obtain ⟨books, hk, hwhole, hlen⟩ := ih
    obtain ⟨later, hk', hwhole', hlen'⟩ := hk.move hwhole m
    rw [List.foldl_append, List.countP_append, ← hlen, ← hlen']
    exact ⟨later, hk', hwhole', rfl⟩

end Rotation

end SpanRollup
