import SpanRollup.Proofs.Payload.ReadBack

/-!
# Whole buckets are written or given up

A call that writes a whole bucket leaves nothing half done. Main statement: `writeBucket_whole`, the
sink is called with everything in the bucket or not at all, and the writer is idle afterwards.
-/

namespace SpanRollup

namespace Text

/-- UTF-8 has at least a byte for each character. -/
theorem length_le_utf8ByteSize (s : String) : s.length ≤ s.utf8ByteSize := by
  rw [← String.length_toList, ← String.ofList_toList (s := s), String.toList_ofList,
    String.utf8ByteSize_ofList]
  induction s.toList with
  | nil => exact Nat.le_refl 0
  | cons c cs ih =>
    have := c.utf8Size_pos
    rw [List.length_cons, String.utf8Len_cons]
    omega

theorem length_sanitized_le (s : String) : (sanitized s).length ≤ s.length := by
  unfold sanitized
  split
  · exact Nat.le_refl _
  · exact Nat.zero_le _

end Text

namespace Payload

open Msgpack

theorem Item.isWritable_text_of_short {s : String} (h : s.utf8ByteSize < 2 ^ 32) :
    (text s).IsWritable := by
  have := Text.length_le_utf8ByteSize s
  have := Text.length_sanitized_le s
  rw [isWritable_text]
  omega

/-- No length in a bucket and its tags is too long. Texts are measured in UTF-8. -/
structure IsShort (tags : Tags) (b : Bucket) : Prop where
  size_lt : b.size < 2 ^ 32
  tags : ∀ s ∈ tags.texts, s.utf8ByteSize < 2 ^ 32
  keys : ∀ e ∈ b.entries, ∀ s ∈ e.1.texts, s.utf8ByteSize < 2 ^ 32
  ok_lt : ∀ e ∈ b.entries, e.2.ok.encode.length < 2 ^ 32
  failed_lt : ∀ e ∈ b.entries, e.2.failed.encode.length < 2 ^ 32

theorem IsShort.isWritable {tags : Tags} {b : Bucket} (h : IsShort tags b) :
    (Draft.ofBucket b).IsWritable tags := by
  refine Draft.ofBucket_isWritable.mpr ⟨⟨?_, h.size_lt⟩, ?_⟩
  · intro s hs
    exact Item.isWritable_text_of_short (h.tags s hs)
  · intro e he
    refine ⟨?_, h.ok_lt e he, h.failed_lt e he⟩
    intro s hs
    exact Item.isWritable_text_of_short (h.keys e he s hs)

namespace Writer

variable {tags : Tags} {sink : Sink} {b : Bucket}

/-! ## Too many records -/

/-- The number of records is the last that is written of a header. -/
theorem start_too_large (sink : Sink) {declared : Nat} (start duration : Int64)
    (htags : ∀ s ∈ tags.texts, (Item.text s).IsWritable) (hlarge : 2 ^ 32 ≤ declared) :
    ∃ events, (holding tags sink none).start declared start duration =
      ⟨holding tags sink none, .error (.encode (.tooLong declared)), events⟩ := by
  have hlast : headerItems tags declared start duration =
      (headerItems tags 0 start duration).dropLast ++ [.array declared] := rfl
  have hfirst : ∀ item ∈ (headerItems tags 0 start duration).dropLast, item.IsWritable := by
    intro item hi
    exact headerItems_isWritable.mpr ⟨htags, by decide⟩ item (List.mem_of_mem_dropLast hi)
  have htoken : (Item.array declared).token = .error (.tooLong declared) :=
    if_neg (Nat.not_lt.mpr hlarge)
  have hheader : (Buffer.empty.writeAll (headerItems tags declared start duration)).result =
      .error (.tooLong declared) := by
    rw [hlast, Buffer.writeAll_append_of_writable hfirst]
    rw [Buffer.writeAll, Encoder.callOrEmpty_of_tooLong htoken]
  simp only [Writer.start, holding, hheader, giveUp, discard]
  exact ⟨_, rfl⟩

theorem writeBucket_too_large (sink : Sink) (hne : b.isEmpty = false)
    (htags : ∀ s ∈ tags.texts, (Item.text s).IsWritable) (hlarge : 2 ^ 32 ≤ b.size) :
    ((holding tags sink none).writeBucket b).result =
      .error (.encode (.tooLong b.size)) := by
  obtain ⟨events, hstart⟩ := start_too_large sink b.start b.duration htags hlarge
  have hassemble : (holding tags sink none).assemble b =
      ⟨holding tags sink none, .error (.encode (.tooLong b.size)), events⟩ := by
    rw [assemble_eq_addAll, hstart, Turn.addAll_of_error rfl]
  rw [writeBucket_of_error hne hassemble]

/-- A bucket that has too many records is given up, and the sink is not called. The error tells the
number of records, unless a tag is too long as well. -/
theorem writeBucket_large (sink : Sink) (hne : b.isEmpty = false) (hlarge : 2 ^ 32 ≤ b.size) :
    let t := (holding tags sink none).writeBucket b
    ∃ len, t.result = .error (.encode (.tooLong len)) ∧
      ((∀ s ∈ tags.texts, s.utf8ByteSize < 2 ^ 32) → len = b.size) ∧
      t.writer.sink = sink ∧ (Health.ofEvents t.events).bucketsDiscarded = 1 := by
  intro t
  have hw : ¬(Draft.ofBucket b).IsWritable tags := by
    intro hw
    exact absurd (Draft.ofBucket_isWritable.mp hw).1.2 (Nat.not_lt.mpr hlarge)
  obtain ⟨len, done, last, hlast, ht⟩ : Fails tags sink t := writeBucket_fails sink hne hw
  rw [ht]
  refine ⟨len, rfl, ?_, rfl, ?_⟩
  · intro hshort
    have htags : ∀ s ∈ tags.texts, (Item.text s).IsWritable := by
      intro s hs
      exact Item.isWritable_text_of_short (hshort s hs)
    have hlen : t.result = .error (.encode (.tooLong b.size)) :=
      writeBucket_too_large sink hne htags hlarge
    rw [ht] at hlen
    simpa using hlen
  · rw [ofEvents_givenUp done hlast]
    rfl

/-! ## All or nothing -/

/-- Whatever comes of a bucket, no other is open after it. -/
theorem writeBucket_idle (hne : b.isEmpty = false) (draft : Option Draft) :
    ∃ later, ((holding tags sink draft).writeBucket b).writer = holding tags later none := by
  have h : (((⟨draft, []⟩ : Assembly).writer tags sink).writeBucket b).writer = _ :=
    Assembly.writeBucket_writer b
  rw [Assembly.writeBucket, hne, if_neg Bool.false_ne_true] at h
  exact ⟨_, h⟩

theorem writeBucket_of_isShort (sink : Sink) (hne : b.isEmpty = false) (h : IsShort tags b) :
    (holding tags sink none).writeBucket b =
      sent tags sink ((Draft.ofBucket b).delivery tags)
        (((Draft.ofBucket b).items tags).flatMap Item.notices) :=
  writeBucket_of_isWritable hne h.isWritable

/-- A bucket with which the sink was called is not given up. -/
theorem sent_bucketsDiscarded (delivery : Delivery) (items : List Item) :
    (Health.ofEvents
      (sent tags sink delivery (items.flatMap Item.notices)).events).bucketsDiscarded = 0 := by
  rw [ofEvents_sent, Health.ofEvents_notices]
  cases (sink.accept delivery).2 <;> rfl

/-- Whatever a writer has been told before: an empty bucket changes nothing. After any other the
writer is idle with an empty buffer. If a bucket was open, both are lost and the sink is not called.
Else, if no length is too long, the sink is called once, with everything in the bucket, and its
answer is the result; if there are too many records, the sink is not called. -/
theorem writeBucket_whole {tags : Tags} {sink : Sink} {capacity : Nat} {w : Writer}
    (h : ofCapacity? tags sink capacity = some w) (commands : List Command) (b : Bucket) :
    let v := w.obeyAll commands
    let t := v.writeBucket b
    (b.entries = [] → t.writer = v ∧ t.result = .ok () ∧ Health.ofEvents t.events = 0) ∧
      (b.entries ≠ [] →
        t.writer.isOpen = false ∧ t.writer.buffer.size = 0 ∧
        (v.isOpen = true →
          t.result = .error .alreadyOpen ∧ t.writer.sink = v.sink ∧
            Health.ofEvents t.events = { bucketsDiscarded := 1 }) ∧
        (v.isOpen = false → IsShort tags b →
          ∃ payload,
            let answer := v.sink.accept { messages := 1, payload }
            t.writer.sink = answer.1 ∧ t.result = answer.2.mapError .sink ∧
              Value.decode payload =
                some (payloadValue tags.sanitized b.start b.duration
                  (b.entries.map fun e => recordValue e.1.sanitized e.2)) ∧
              (Health.ofEvents t.events).bucketsDiscarded = 0) ∧
        (v.isOpen = false → 2 ^ 32 ≤ b.size →
          ∃ len, t.result = .error (.encode (.tooLong len)) ∧
            ((∀ s ∈ tags.texts, s.utf8ByteSize < 2 ^ 32) → len = b.size) ∧
            t.writer.sink = v.sink ∧ (Health.ofEvents t.events).bucketsDiscarded = 1)) := by
  obtain ⟨sink, draft, hv⟩ := Assembly.obeyAll_eq_holding h commands
  rw [hv]
  intro v t
  constructor
  · intro hentries
    have hempty : b.isEmpty = true := List.isEmpty_iff.mpr hentries
    have ht : t = ⟨v, .ok (), [.emptySkipped]⟩ := writeBucket_of_isEmpty hempty v
    rw [ht]
    exact ⟨rfl, rfl, rfl⟩
  intro hentries
  have hne : b.isEmpty = false := List.isEmpty_eq_false_iff.mpr hentries
  obtain ⟨later, hidle⟩ : ∃ later, t.writer = holding tags later none := writeBucket_idle hne draft
  refine ⟨?_, ?_, ?_⟩
  · rw [hidle]
    rfl
  · rw [hidle]
    rfl
  clear hidle
  cases draft with
  | some d =>
    have ht : t = ⟨holding tags sink none, .error .alreadyOpen, [.startedTwice]⟩ :=
      writeBucket_of_open hne d
    rw [ht]
    exact ⟨fun _ => ⟨rfl, rfl, rfl⟩, nofun, nofun⟩
  | none =>
    refine ⟨nofun, ?_, ?_⟩
    · intro _ hshort
      have ht : t = sent tags sink ((Draft.ofBucket b).delivery tags)
          (((Draft.ofBucket b).items tags).flatMap Item.notices) :=
        writeBucket_of_isShort sink hne hshort
      rw [ht]
      exact ⟨(Draft.ofBucket b).bytes tags, rfl, rfl,
        Draft.decode_bytes (Draft.ofBucket_isComplete b) hshort.isWritable,
        sent_bucketsDiscarded _ _⟩
    · intro _ hlarge
      exact writeBucket_large sink hne hlarge

/-- A bucket is lost with the one it interrupts. Written again, it is refused, and the refusal is
the result. -/
theorem writeBucket_whole_refused :
    let b : Bucket :=
      { start := -1, duration := 10
        entries :=
          [({ service := "日本", operation := "get", resource := "", kind := "web", status := 404 },
            .empty default)] }
    let w := holding {} { plan := [some .closed] } none
    ofCapacity? {} { plan := [some .closed] } 16 = some w ∧ b.entries ≠ [] ∧
      (w.obeyAll [.start 1 0 0]).isOpen = true ∧
      ((w.obeyAll [.start 1 0 0]).writeBucket b).result = .error .alreadyOpen ∧
      (w.obeyAll [.start 1 0 0, .writeBucket b]).isOpen = false ∧ IsShort {} b ∧
      ((w.obeyAll [.start 1 0 0, .writeBucket b]).writeBucket b).result =
        .error (.sink .closed) := by
  intro b w
  have h : ofCapacity? {} { plan := [some .closed] } 16 = some w := by decide
  have hne : b.entries ≠ [] := List.cons_ne_nil _ _
  have hopen : (w.obeyAll [.start 1 0 0]).isOpen = true := by decide +kernel
  have hclosed : (w.obeyAll [.start 1 0 0, .writeBucket b]).isOpen = false := by decide +kernel
  have hplan : (w.obeyAll [.start 1 0 0, .writeBucket b]).sink.plan = [some .closed] := by
    decide +kernel
  have hb : IsShort {} b := ⟨by decide +kernel, by decide +kernel, by decide +kernel,
    by decide +kernel, by decide +kernel⟩
  obtain ⟨-, -, hinterrupt, -⟩ := (writeBucket_whole h [.start 1 0 0] b).2 hne
  obtain ⟨-, -, -, hshort, -⟩ :=
    (writeBucket_whole h [.start 1 0 0, .writeBucket b] b).2 hne
  obtain ⟨payload, -, hresult, -⟩ := hshort hclosed hb
  refine ⟨h, hne, hopen, (hinterrupt hopen).1, hclosed, hb, hresult.trans ?_⟩
  rw [Sink.accept, hplan]
  rfl

end Writer

end Payload

end SpanRollup
