import SpanRollup.Proofs.Payload.WholeBucket

/-!
# A text that has no bytes costs only itself

A sanitized bucket has empty texts in place of those that cannot be written. What is put down for a
bucket and for the sanitized one is the same, item by item. Main statement: `writeBucket_replaces`,
the payload and the result are those of the sanitized bucket, and the texts that were replaced are
counted besides.
-/

namespace SpanRollup

/-- The bucket without the texts that cannot be written. -/
def Bucket.sanitized (b : Bucket) : Bucket :=
  { b with entries := b.entries.map fun e => (e.1.sanitized, e.2) }

theorem Text.sanitized_sanitized (s : String) : sanitized (sanitized s) = sanitized s :=
  sanitized_of_isSingleByte (sanitized_isSingleByte s)

namespace Payload

/-! ## Items -/

namespace Item

variable (item : Item)

theorem written_sanitized : item.sanitized.written = item.written := by
  cases item with
  | text s => simp only [written, sanitized, Text.sanitized_sanitized]
  | _ => rfl

theorem bytes_sanitized : item.sanitized.bytes = item.bytes := by
  simp only [bytes, written_sanitized]

theorem sanitized_isWritable : item.sanitized.IsWritable ↔ item.IsWritable := by
  simp only [IsWritable, written_sanitized]

theorem isReplaced_sanitized : item.sanitized.isReplaced = false := by
  cases item with
  | text s =>
    simp only [sanitized, isReplaced, Text.sanitized_isSingleByte, decide_true, Bool.not_true]
  | _ => rfl

end Item

/-! ## Buckets -/

/-- The texts that are written for a bucket. -/
def textsOf (tags : Tags) (b : Bucket) : List String :=
  tags.texts ++ b.entries.flatMap fun e => e.1.texts

/-- How many of them cannot be written. -/
def replacedCount (tags : Tags) (b : Bucket) : Nat :=
  (textsOf tags b).countP fun s => !decide (Text.IsSingleByte s)

variable {tags : Tags} {b : Bucket}

theorem headerItems_sanitized (tags : Tags) (declared : Nat) (start duration : Int64) :
    headerItems tags.sanitized declared start duration =
      (headerItems tags declared start duration).map Item.sanitized := rfl

theorem recordItems_sanitized (key : SeriesKey) (cell : Cell) :
    recordItems key.sanitized cell = (recordItems key cell).map Item.sanitized := rfl

theorem items_sanitized (tags : Tags) (b : Bucket) :
    (Draft.ofBucket b.sanitized).items tags.sanitized =
      ((Draft.ofBucket b).items tags).map Item.sanitized := by
  have hsize : b.sanitized.size = b.size := List.length_map _
  simp only [Draft.items, Draft.ofBucket, hsize, headerItems_sanitized, List.map_append,
    List.map_flatMap, ← recordItems_sanitized]
  simp only [Bucket.sanitized, List.flatMap_map]

/-- The payload is the same, byte for byte. -/
theorem delivery_sanitized (tags : Tags) (b : Bucket) :
    (Draft.ofBucket b.sanitized).delivery tags.sanitized = (Draft.ofBucket b).delivery tags := by
  simp only [Draft.delivery, Draft.bytes, items_sanitized, List.flatMap_map, Item.bytes_sanitized]

theorem sanitized_isWritable (h : (Draft.ofBucket b).IsWritable tags) :
    (Draft.ofBucket b.sanitized).IsWritable tags.sanitized := by
  unfold Draft.IsWritable
  rw [items_sanitized, List.forall_mem_map]
  intro item hi
  exact item.sanitized_isWritable.mpr (h item hi)

/-! ## What is counted -/

theorem countP_isReplaced_headerItems (tags : Tags) (declared : Nat) (start duration : Int64) :
    (headerItems tags declared start duration).countP Item.isReplaced =
      tags.texts.countP fun s => !decide (Text.IsSingleByte s) := rfl

theorem countP_isReplaced_recordItems (key : SeriesKey) (cell : Cell) :
    (recordItems key cell).countP Item.isReplaced =
      key.texts.countP fun s => !decide (Text.IsSingleByte s) := rfl

/-- No item but a text is replaced. -/
theorem countP_isReplaced_items (tags : Tags) (b : Bucket) :
    ((Draft.ofBucket b).items tags).countP Item.isReplaced = replacedCount tags b := by
  simp only [Draft.items, Draft.ofBucket, replacedCount, textsOf, List.countP_append,
    List.countP_flatMap, countP_isReplaced_headerItems, countP_isReplaced_recordItems,
    Function.comp_def]

theorem replacedCount_sanitized (tags : Tags) (b : Bucket) :
    replacedCount tags.sanitized b.sanitized = 0 := by
  rw [← countP_isReplaced_items, items_sanitized, List.countP_map, List.countP_eq_zero]
  intro item _
  simp only [Function.comp_apply, Item.isReplaced_sanitized, Bool.false_eq_true, not_false_eq_true]

/-- There are three texts in the header and four in each record. -/
theorem length_textsOf (tags : Tags) (b : Bucket) : (textsOf tags b).length = 3 + 4 * b.size := by
  have hkeys : (b.entries.flatMap fun e => e.1.texts).length = 4 * b.entries.length := by
    simp only [List.length_flatMap, SeriesKey.texts, List.length_cons, List.length_nil,
      List.map_const', List.sum_replicate, smul_eq_mul, Nat.mul_comm]
  rw [textsOf, List.length_append, hkeys]
  rfl

theorem replacedCount_lt (h : IsShort tags b) : replacedCount tags b < 2 ^ 64 := by
  have hlen := length_textsOf tags b
  have hsize := h.size_lt
  have hle : replacedCount tags b ≤ (textsOf tags b).length := List.countP_le_length
  omega

namespace Writer

theorem ofEvents_sent_bucket (sink : Sink) (delivery : Delivery) (tags : Tags) (b : Bucket) :
    Health.ofEvents (sent tags sink delivery
        (((Draft.ofBucket b).items tags).flatMap Item.notices)).events =
      .substituted (.ofNat (replacedCount tags b)) +
        (report delivery.payload.length (sink.accept delivery).2).counts := by
  rw [ofEvents_sent, Health.ofEvents_notices, countP_isReplaced_items]

/-- If everything is written, only the texts that are replaced are counted besides. -/
theorem ofEvents_sent_sanitized (sink : Sink) (delivery : Delivery) (tags : Tags) (b : Bucket) :
    let events := (sent tags sink delivery
      (((Draft.ofBucket b).items tags).flatMap Item.notices)).events
    let others := (sent tags.sanitized sink delivery
      (((Draft.ofBucket b.sanitized).items tags.sanitized).flatMap Item.notices)).events
    Health.ofEvents events =
        .substituted (.ofNat (replacedCount tags b)) + Health.ofEvents others ∧
      (Health.ofEvents others).fieldSubstitutions = 0 := by
  intro events others
  have hothers : Health.ofEvents others =
      (report delivery.payload.length (sink.accept delivery).2).counts := by
    refine (ofEvents_sent_bucket sink delivery tags.sanitized b.sanitized).trans ?_
    rw [replacedCount_sanitized]
    exact zero_add _
  rw [hothers]
  refine ⟨ofEvents_sent_bucket sink delivery tags b, ?_⟩
  cases (sink.accept delivery).2 <;> rfl

theorem writeBucket_sanitized (sink : Sink) (hne : b.isEmpty = false) (h : IsShort tags b) :
    (holding tags.sanitized sink none).writeBucket b.sanitized =
      sent tags.sanitized sink ((Draft.ofBucket b).delivery tags)
        (((Draft.ofBucket b.sanitized).items tags.sanitized).flatMap Item.notices) := by
  have hsanitized : b.sanitized.isEmpty = false := by
    rw [Bucket.isEmpty, Bucket.sanitized, List.isEmpty_map]
    exact hne
  rw [← delivery_sanitized]
  exact writeBucket_of_isWritable hsanitized (sanitized_isWritable h.isWritable)

/-- If no bucket is open and no length is too long: the sink is called with the payload that it
would get for the sanitized bucket, and the result is the same. The counters differ only by the
texts that were replaced, each of which is counted once. -/
theorem writeBucket_replaces {tags : Tags} {sink : Sink} {capacity : Nat} {w : Writer}
    (h : ofCapacity? tags sink capacity = some w) (commands : List Command)
    (hidle : (w.obeyAll commands).isOpen = false) {b : Bucket} (hne : b.entries ≠ [])
    (hb : IsShort tags b) {room : Nat} {fresh : Writer}
    (hfresh : ofCapacity? tags.sanitized (w.obeyAll commands).sink room = some fresh) :
    let t := (w.obeyAll commands).writeBucket b
    let u := fresh.writeBucket b.sanitized
    (∃ payload,
      t.writer.sink = ((w.obeyAll commands).sink.accept { messages := 1, payload }).1 ∧
        u.writer.sink = (fresh.sink.accept { messages := 1, payload }).1) ∧
      t.result = u.result ∧
      Health.ofEvents t.events =
        { fieldSubstitutions := .ofNat (replacedCount tags b) } + Health.ofEvents u.events ∧
      (Health.ofEvents t.events).fieldSubstitutions.toNat = replacedCount tags b ∧
      (Health.ofEvents u.events).fieldSubstitutions = 0 := by
  rw [eq_holding_of_ofCapacity? hfresh]
  obtain ⟨later, draft, hv⟩ := Assembly.obeyAll_eq_holding h commands
  rw [hv] at hidle ⊢
  obtain rfl : draft = none := by
    cases draft with
    | none => rfl
    | some d => cases hidle
  intro t u
  have hempty : b.isEmpty = false := List.isEmpty_eq_false_iff.mpr hne
  have ht : t = sent tags later ((Draft.ofBucket b).delivery tags)
      (((Draft.ofBucket b).items tags).flatMap Item.notices) :=
    writeBucket_of_isShort later hempty hb
  have hu : u = sent tags.sanitized later ((Draft.ofBucket b).delivery tags)
      (((Draft.ofBucket b.sanitized).items tags.sanitized).flatMap Item.notices) :=
    writeBucket_sanitized later hempty hb
  obtain ⟨hhealth, hnone⟩ :=
    ofEvents_sent_sanitized later ((Draft.ofBucket b).delivery tags) tags b
  rw [← ht, ← hu] at hhealth
  rw [← hu] at hnone
  refine ⟨⟨(Draft.ofBucket b).bytes tags, ?_, ?_⟩, ?_, hhealth, ?_, hnone⟩
  · rw [ht]
    rfl
  · rw [hu]
    rfl
  · rw [ht, hu]
    rfl
  · rw [hhealth]
    show (UInt64.ofNat (replacedCount tags b) +
      (Health.ofEvents u.events).fieldSubstitutions).toNat = _
    rw [hnone, UInt64.add_zero]
    exact UInt64.toNat_ofNat_of_lt' (replacedCount_lt hb)

/-- A tag and two texts of a key are replaced, and a text beyond ASCII is not. -/
theorem writeBucket_replaces_three :
    let tags : Tags := { hostname := "é", env := "生产" }
    let b : Bucket :=
      { start := -1, duration := 10
        entries :=
          [({ service := "日本", operation := "café", resource := "a→b", kind := "web"
              status := 404 }, .empty default)] }
    let w := holding tags {} none
    let v := w.obeyAll [.start 1 0 0, .reset]
    ofCapacity? tags {} 16 = some w ∧ v.isOpen = false ∧ b.entries ≠ [] ∧ IsShort tags b ∧
      ofCapacity? tags.sanitized v.sink 0 = some (holding tags.sanitized {} none) ∧
      tags.sanitized = { hostname := "é", env := "" } ∧
      b.sanitized.entries.map Prod.fst =
        [{ service := "", operation := "café", resource := "", kind := "web", status := 404 }] ∧
      (Health.ofEvents (v.writeBucket b).events).fieldSubstitutions.toNat = 3 := by
  intro tags b w v
  have h : ofCapacity? tags {} 16 = some w := by decide
  have hidle : v.isOpen = false := by decide +kernel
  have hne : b.entries ≠ [] := List.cons_ne_nil _ _
  have hb : IsShort tags b := ⟨by decide +kernel, by decide +kernel, by decide +kernel,
    by decide +kernel, by decide +kernel⟩
  have hfresh : ofCapacity? tags.sanitized v.sink 0 = some (holding tags.sanitized {} none) := by
    decide +kernel
  have hcount : replacedCount tags b = 3 := by decide +kernel
  obtain ⟨-, -, -, hsubstitutions, -⟩ :=
    writeBucket_replaces h [.start 1 0 0, .reset] hidle hne hb hfresh
  exact ⟨h, hidle, hne, hb, hfresh, by decide +kernel, by decide +kernel,
    hsubstitutions.trans hcount⟩

end Writer

end Payload

end SpanRollup
