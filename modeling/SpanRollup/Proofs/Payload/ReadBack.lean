import SpanRollup.Proofs.Digest.ReadBack
import SpanRollup.Proofs.Msgpack.Value
import SpanRollup.Proofs.Payload.Assembly

/-!
# Payloads are read back

`payloadValue` is what a payload says. Main statements: `decode_bytes`, the bytes of a draft are
that value and nothing else; `decode_delivered`, so is what the sink is called with, whichever way
a bucket is written, and its texts and digests can be read back.
-/

namespace SpanRollup

namespace Text

/-- The text whose characters are given as bytes. -/
def ofBytes (bytes : List UInt8) : String := String.ofList (bytes.map fun b => Char.ofNat b.toNat)

theorem ofBytes_bytes {s : String} (h : IsSingleByte s) : ofBytes (bytes s) = s := by
  have hc : ∀ c ∈ s.toList, Char.ofNat (UInt8.ofNat c.toNat).toNat = c := by
    intro c hc
    have hlt : c.toNat < 256 := by simpa [fitsByte] using h c hc
    rw [UInt8.toNat_ofNat', Nat.mod_eq_of_lt hlt, Char.ofNat_toNat]
  have hmap : s.toList.map (fun c => Char.ofNat (UInt8.ofNat c.toNat).toNat) = s.toList := by
    conv => rhs; rw [← List.map_id s.toList]
    exact List.map_congr_left hc
  rw [ofBytes, bytes, List.map_map, Function.comp_def, hmap, String.ofList_toList]

/-- Every character has a byte, and 32 bits hold their number. -/
def IsEncodable (s : String) : Prop := IsSingleByte s ∧ s.length < 2 ^ 32

instance (s : String) : Decidable (IsEncodable s) := by unfold IsEncodable; infer_instance

theorem bytes_length (s : String) : (bytes s).length = s.length := by
  simp only [bytes, List.length_map, String.length_toList]

end Text

open Msgpack

/-! ## Values -/

namespace Msgpack.Value

/-- A text, one byte for each character. -/
def text (s : String) : Value := .str (Text.bytes s)

end Msgpack.Value

namespace SeriesKey

def texts (k : SeriesKey) : List String := [k.operation, k.service, k.resource, k.kind]

def sanitized (k : SeriesKey) : SeriesKey :=
  { service := Text.sanitized k.service
    operation := Text.sanitized k.operation
    resource := Text.sanitized k.resource
    kind := Text.sanitized k.kind
    status := k.status }

theorem sanitized_eq {k : SeriesKey} (h : ∀ s ∈ k.texts, Text.IsSingleByte s) :
    k.sanitized = k := by
  simp only [texts, List.forall_mem_cons] at h
  obtain ⟨ho, hs, hr, hk, -⟩ := h
  simp only [sanitized, Text.sanitized_of_isSingleByte, ho, hs, hr, hk]

end SeriesKey

namespace Payload

namespace Tags

def texts (t : Tags) : List String := [t.hostname, t.env, t.version]

def sanitized (t : Tags) : Tags :=
  { hostname := Text.sanitized t.hostname
    env := Text.sanitized t.env
    version := Text.sanitized t.version }

theorem sanitized_eq {t : Tags} (h : ∀ s ∈ t.texts, Text.IsSingleByte s) : t.sanitized = t := by
  simp only [texts, List.forall_mem_cons] at h
  obtain ⟨hh, he, hv, -⟩ := h
  simp only [sanitized, Text.sanitized_of_isSingleByte, hh, he, hv]

end Tags

open Value (text int)

def recordValue (key : SeriesKey) (cell : Cell) : Value :=
  .map
    [(text "Name", text key.operation),
      (text "Service", text key.service),
      (text "Resource", text key.resource),
      (text "Type", text key.kind),
      (text "HTTPStatusCode", int key.status.toNat),
      (text "Hits", int cell.hits.toNat),
      (text "Errors", int cell.errors.toNat),
      (text "TopLevelHits", int cell.topLevel.toNat),
      (text "Duration", int cell.duration.toInt),
      (text "OkSummary", .bin cell.ok.encode),
      (text "ErrorSummary", .bin cell.failed.encode)]

def bucketValue (start duration : Int64) (records : List Value) : Value :=
  .map
    [(text "Start", int start.toInt),
      (text "Duration", int duration.toInt),
      (text "Stats", .array records)]

def payloadValue (tags : Tags) (start duration : Int64) (records : List Value) : Value :=
  .map
    [(text "Hostname", text tags.hostname),
      (text "Env", text tags.env),
      (text "Version", text tags.version),
      (text "Stats", .array [bucketValue start duration records])]

/-! ## Items -/

namespace Item

theorem sized_eq_ok {len : Nat} {token t : Token} :
    sized len token = .ok t ↔ len < 2 ^ 32 ∧ token = t := by
  unfold sized
  split <;> simp [*]

/-- A map or an array is whole only if it has no elements. -/
def IsWhole : Item → Prop
  | map len | array len => len = 0
  | _ => True

/-- The value of a whole item. -/
def value : Item → Value
  | map _ => .map []
  | array _ => .array []
  | raw bytes => .str bytes
  | text s => Value.text (Text.sanitized s)
  | int n => Value.int n.toInt
  | uint n => Value.int n.toNat
  | float x => .scalar (.float x)
  | binary bytes => .bin bytes

variable {depth : Nat}

theorem bytes_map {len : Nat} (h : len < 2 ^ 32) : (map len).bytes = Token.encode (.map len) :=
  bytes_of_written (sized_eq_ok.mpr ⟨h, rfl⟩)

theorem bytes_array {len : Nat} (h : len < 2 ^ 32) :
    (array len).bytes = Token.encode (.array len) :=
  bytes_of_written (sized_eq_ok.mpr ⟨h, rfl⟩)

theorem reads_value {item : Item} (hwhole : item.IsWhole) (hw : item.IsWritable) :
    Reads (Value.reader (depth + 1)) item.bytes item.value := by
  obtain ⟨token, hw⟩ := hw
  rw [bytes_of_written hw]
  cases item with
  | map len =>
    cases hwhole
    have hw : sized 0 (.map 0) = .ok token := hw
    obtain ⟨hlen, rfl⟩ := sized_eq_ok.mp hw
    exact @Value.reads_map depth Unit (fun _ => []) (fun _ => (.str [], .str [])) [] hlen (by simp)
  | array len =>
    cases hwhole
    have hw : sized 0 (.array 0) = .ok token := hw
    obtain ⟨hlen, rfl⟩ := sized_eq_ok.mp hw
    exact @Value.reads_array depth Unit (fun _ => []) (fun _ => .str []) [] hlen (by simp)
  | raw bytes =>
    obtain ⟨hlen, rfl⟩ := sized_eq_ok.mp hw
    exact Value.reads_str hlen
  | text s =>
    rw [written_text] at hw
    obtain ⟨hlen, rfl⟩ := sized_eq_ok.mp hw
    exact Value.reads_str hlen
  | int n =>
    cases hw
    have := n.toInt_lt
    have := n.le_toInt
    exact Value.reads_int (by omega) (by omega)
  | uint n =>
    cases hw
    have := n.toNat_lt
    exact Value.reads_int (by omega) (by omega)
  | float x =>
    cases hw
    exact Value.reads_scalar (opens_float x)
  | binary bytes =>
    obtain ⟨hlen, rfl⟩ := sized_eq_ok.mp hw
    exact Value.reads_bin hlen

theorem isWritable_map {len : Nat} : (map len).IsWritable ↔ len < 2 ^ 32 :=
  ⟨fun ⟨_, h⟩ => (sized_eq_ok.mp h).1, fun h => ⟨_, sized_eq_ok.mpr ⟨h, rfl⟩⟩⟩

theorem isWritable_array {len : Nat} : (array len).IsWritable ↔ len < 2 ^ 32 :=
  ⟨fun ⟨_, h⟩ => (sized_eq_ok.mp h).1, fun h => ⟨_, sized_eq_ok.mpr ⟨h, rfl⟩⟩⟩

theorem isWritable_binary {bytes : List UInt8} :
    (binary bytes).IsWritable ↔ bytes.length < 2 ^ 32 :=
  ⟨fun ⟨_, h⟩ => (sized_eq_ok.mp h).1, fun h => ⟨_, sized_eq_ok.mpr ⟨h, rfl⟩⟩⟩

theorem isWritable_name {s : String} (h : s.length < 2 ^ 32) : (name s).IsWritable :=
  ⟨_, sized_eq_ok.mpr ⟨Text.bytes_length s ▸ h, rfl⟩⟩

theorem isWritable_text {s : String} :
    (text s).IsWritable ↔ (Text.sanitized s).length < 2 ^ 32 := by
  rw [IsWritable, written_text, ← Text.bytes_length]
  exact ⟨fun ⟨_, h⟩ => (sized_eq_ok.mp h).1, fun h => ⟨_, sized_eq_ok.mpr ⟨h, rfl⟩⟩⟩

theorem isWritable_text_of_isEncodable {s : String} (h : Text.IsEncodable s) :
    (text s).IsWritable := by
  rw [isWritable_text, Text.sanitized_of_isSingleByte h.1]
  exact h.2

theorem isWritable_int (n : Int64) : (int n).IsWritable := ⟨_, rfl⟩

theorem isWritable_uint (n : UInt64) : (uint n).IsWritable := ⟨_, rfl⟩

end Item

/-! ## Drafts -/

section Draft

variable {depth : Nat}

/-- The fields of a record in the order in which they are written. -/
def recordFields (key : SeriesKey) (cell : Cell) : List (String × Item) :=
  [("Name", .text key.operation),
    ("Service", .text key.service),
    ("Resource", .text key.resource),
    ("Type", .text key.kind),
    ("HTTPStatusCode", .uint key.status.toUInt64),
    ("Hits", .uint cell.hits),
    ("Errors", .uint cell.errors),
    ("TopLevelHits", .uint cell.topLevel),
    ("Duration", .int cell.duration),
    ("OkSummary", .binary cell.ok.encode),
    ("ErrorSummary", .binary cell.failed.encode)]

theorem recordItems_eq (key : SeriesKey) (cell : Cell) :
    recordItems key cell =
      .map 11 :: (recordFields key cell).flatMap fun f => [.name f.1, f.2] := rfl

theorem recordFields_isWhole (key : SeriesKey) (cell : Cell) :
    ∀ f ∈ recordFields key cell, f.2.IsWhole := by
  simp [recordFields, Item.IsWhole]

theorem recordValue_eq (key : SeriesKey) (cell : Cell) :
    recordValue key.sanitized cell =
      .map ((recordFields key cell).map fun f => (text f.1, f.2.value)) := rfl

theorem reads_name {s : String} (h : (Item.name s).IsWritable) :
    Reads (Value.reader (depth + 1)) (Item.name s).bytes (text s) := Item.reads_value trivial h

theorem reads_field {s : String} {bytes : List UInt8} {v : Value} (h : (Item.name s).IsWritable)
    (hv : Reads (Value.reader (depth + 1)) bytes v) :
    Reads (Reader.entry (Value.reader (depth + 1))) ((Item.name s).bytes ++ bytes) (text s, v) :=
  Value.reads_entry (reads_name h) hv

theorem reads_record {key : SeriesKey} {cell : Cell}
    (hw : ∀ item ∈ recordItems key cell, item.IsWritable) :
    Reads (Value.reader (depth + 2)) ((recordItems key cell).flatMap Item.bytes)
      (recordValue key.sanitized cell) := by
  have hcount : 11 = (recordFields key cell).length := rfl
  have hlen : (recordFields key cell).length < 2 ^ 32 := by simp [recordFields]
  rw [recordItems_eq] at hw ⊢
  obtain ⟨-, hw⟩ := List.forall_mem_cons.mp hw
  rw [recordValue_eq, List.flatMap_cons, List.flatMap_assoc, Item.bytes_map (by decide), hcount]
  refine Value.reads_map hlen fun f hf => ?_
  have hmem : ∀ item ∈ [Item.name f.1, f.2], item.IsWritable :=
    fun item hi => hw item (List.mem_flatMap_of_mem hf hi)
  simp only [List.forall_mem_cons] at hmem
  obtain ⟨hname, hvalue, -⟩ := hmem
  simp only [List.flatMap_cons, List.flatMap_nil, List.append_nil]
  exact reads_field hname (Item.reads_value (recordFields_isWhole key cell f hf) hvalue)

/-- Entries that are read each from their own bytes make a map. -/
theorem reads_entries {entries : List (List UInt8 × Value × Value)} {n : Nat}
    (hn : entries.length = n) (hlen : n < 2 ^ 32)
    (h : ∀ e ∈ entries, Reads (Reader.entry (Value.reader depth)) e.1 e.2) :
    Reads (Value.reader (depth + 1)) (Token.encode (.map n) ++ entries.flatMap Prod.fst)
      (.map (entries.map Prod.snd)) := by
  subst hn
  exact Value.reads_map hlen h

theorem reads_bucket (start duration : Int64) {records : List Value} {bytes : List UInt8}
    (h : Reads (Value.reader (depth + 1)) bytes (.array records)) :
    Reads (Value.reader (depth + 2))
      (Token.encode (.map 3) ++
        [((Item.name "Start").bytes ++ (Item.int start).bytes, text "Start", int start.toInt),
          ((Item.name "Duration").bytes ++ (Item.int duration).bytes, text "Duration",
            int duration.toInt),
          ((Item.name "Stats").bytes ++ bytes, text "Stats", .array records)].flatMap Prod.fst)
      (bucketValue start duration records) := by
  have hname {s : String} (hs : s.length < 2 ^ 32) := Item.isWritable_name hs
  refine reads_entries ?_ (by decide) ?_
  · rfl
  simp only [List.forall_mem_cons]
  refine ⟨?_, ?_, ?_, by simp⟩
  · exact reads_field (hname (by decide)) (Item.reads_value trivial (Item.isWritable_int _))
  · exact reads_field (hname (by decide)) (Item.reads_value trivial (Item.isWritable_int _))
  · exact reads_field (hname (by decide)) h

theorem reads_singleton {bytes : List UInt8} {v : Value}
    (h : Reads (Value.reader depth) bytes v) :
    Reads (Value.reader (depth + 1)) (Token.encode (.array 1) ++ bytes) (.array [v]) := by
  have := Value.reads_array (by decide : [()].length < 2 ^ 32) fun _ _ => h
  simpa using this

theorem reads_payload {tags : Tags} {start duration : Int64} {records : List Value}
    {bytes : List UInt8} (hh : (Item.text tags.hostname).IsWritable)
    (he : (Item.text tags.env).IsWritable) (hv : (Item.text tags.version).IsWritable)
    (h : Reads (Value.reader (depth + 1)) bytes (bucketValue start duration records)) :
    Reads (Value.reader (depth + 3))
      (Token.encode (.map 4) ++
        [((Item.name "Hostname").bytes ++ (Item.text tags.hostname).bytes, text "Hostname",
            text tags.sanitized.hostname),
          ((Item.name "Env").bytes ++ (Item.text tags.env).bytes, text "Env",
            text tags.sanitized.env),
          ((Item.name "Version").bytes ++ (Item.text tags.version).bytes, text "Version",
            text tags.sanitized.version),
          ((Item.name "Stats").bytes ++ (Token.encode (.array 1) ++ bytes), text "Stats",
            .array [bucketValue start duration records])].flatMap Prod.fst)
      (payloadValue tags.sanitized start duration records) := by
  have hname {s : String} (hs : s.length < 2 ^ 32) := Item.isWritable_name hs
  refine reads_entries ?_ (by decide) ?_
  · rfl
  simp only [List.forall_mem_cons]
  refine ⟨?_, ?_, ?_, ?_, by simp⟩
  · exact reads_field (hname (by decide)) (Item.reads_value trivial hh)
  · exact reads_field (hname (by decide)) (Item.reads_value trivial he)
  · exact reads_field (hname (by decide)) (Item.reads_value trivial hv)
  · exact reads_field (hname (by decide)) (reads_singleton h)

/-- The bytes of a complete draft are read as its tags, its time and its records. -/
theorem Draft.reads_bytes {tags : Tags} {d : Draft} (hc : d.IsComplete)
    (hw : d.IsWritable tags) :
    Reads (Value.reader (depth + 6)) (d.bytes tags)
      (payloadValue tags.sanitized d.start d.duration
        (d.records.map fun r => recordValue r.1.sanitized r.2)) := by
  obtain ⟨hheader, hrecords⟩ := List.forall_mem_append.mp hw
  simp only [headerItems, List.forall_mem_cons] at hheader
  obtain ⟨-, -, hh, -, he, -, hv, -, -, -, -, -, -, -, -, hn, -⟩ := hheader
  have hlen : d.declared < 2 ^ 32 := Item.isWritable_array.mp hn
  have harray : Reads (Value.reader (depth + 3))
      (Token.encode (.array d.declared) ++
        d.records.flatMap fun r => (recordItems r.1 r.2).flatMap Item.bytes)
      (.array (d.records.map fun r => recordValue r.1.sanitized r.2)) := by
    rw [hc] at hlen ⊢
    exact Value.reads_array hlen fun r hr =>
      reads_record fun item hi => hrecords item (List.mem_flatMap_of_mem hr hi)
  have hpayload := reads_payload hh he hv (reads_bucket d.start d.duration harray)
  simpa only [Draft.bytes, Draft.items, headerItems, List.flatMap_append, List.flatMap_assoc,
    List.flatMap_cons, List.flatMap_nil, List.append_nil, List.append_assoc,
    Item.bytes_map (by decide : 4 < 2 ^ 32), Item.bytes_map (by decide : 3 < 2 ^ 32),
    Item.bytes_array (by decide : 1 < 2 ^ 32), Item.bytes_array hlen] using hpayload

theorem Draft.decode_bytes {tags : Tags} {d : Draft} (hc : d.IsComplete) (hw : d.IsWritable tags) :
    Value.decode (d.bytes tags) =
      some (payloadValue tags.sanitized d.start d.duration
        (d.records.map fun r => recordValue r.1.sanitized r.2)) := by
  have h : Reads (Value.reader (1018 + 6)) (d.bytes tags) _ := Draft.reads_bytes hc hw
  exact Value.decode_eq_some h

end Draft

/-! ## What can be written -/

theorem headerItems_isWritable {tags : Tags} {declared : Nat} {start duration : Int64} :
    (∀ item ∈ headerItems tags declared start duration, item.IsWritable) ↔
      (∀ s ∈ tags.texts, (Item.text s).IsWritable) ∧ declared < 2 ^ 32 := by
  have hname {s : String} (hs : s.length < 2 ^ 32) := Item.isWritable_name hs
  simp only [headerItems, Tags.texts, List.forall_mem_cons]
  constructor
  · rintro ⟨-, -, hh, -, he, -, hv, -, -, -, -, -, -, -, -, hn, -⟩
    exact ⟨⟨hh, he, hv, by simp⟩, Item.isWritable_array.mp hn⟩
  · rintro ⟨⟨hh, he, hv, -⟩, hn⟩
    refine ⟨?_, hname (by decide), hh, hname (by decide), he, hname (by decide), hv,
      hname (by decide), ?_, ?_, hname (by decide), Item.isWritable_int _, hname (by decide),
      Item.isWritable_int _, hname (by decide), Item.isWritable_array.mpr hn, by simp⟩
    · exact Item.isWritable_map.mpr (by decide)
    · exact Item.isWritable_array.mpr (by decide)
    · exact Item.isWritable_map.mpr (by decide)

theorem recordItems_isWritable {key : SeriesKey} {cell : Cell} :
    (∀ item ∈ recordItems key cell, item.IsWritable) ↔
      (∀ s ∈ key.texts, (Item.text s).IsWritable) ∧ cell.ok.encode.length < 2 ^ 32 ∧
        cell.failed.encode.length < 2 ^ 32 := by
  have hname {s : String} (hs : s.length < 2 ^ 32) := Item.isWritable_name hs
  simp only [recordItems, SeriesKey.texts, List.forall_mem_cons]
  constructor
  · rintro ⟨-, -, ho, -, hs, -, hr, -, hk, -, -, -, -, -, -, -, -, -, -, -, hok, -, hfailed, -⟩
    exact ⟨⟨ho, hs, hr, hk, by simp⟩, Item.isWritable_binary.mp hok,
      Item.isWritable_binary.mp hfailed⟩
  · rintro ⟨⟨ho, hs, hr, hk, -⟩, hok, hfailed⟩
    refine ⟨?_, hname (by decide), ho, hname (by decide), hs, hname (by decide), hr,
      hname (by decide), hk, hname (by decide), Item.isWritable_uint _, hname (by decide),
      Item.isWritable_uint _, hname (by decide), Item.isWritable_uint _, hname (by decide),
      Item.isWritable_uint _, hname (by decide), Item.isWritable_int _, hname (by decide),
      Item.isWritable_binary.mpr hok, hname (by decide), Item.isWritable_binary.mpr hfailed,
      by simp⟩
    exact Item.isWritable_map.mpr (by decide)

/-- What has to be short for a bucket to be written. -/
theorem Draft.ofBucket_isWritable {tags : Tags} {b : Bucket} :
    (Draft.ofBucket b).IsWritable tags ↔
      ((∀ s ∈ tags.texts, (Item.text s).IsWritable) ∧ b.size < 2 ^ 32) ∧
        ∀ e ∈ b.entries, (∀ s ∈ e.1.texts, (Item.text s).IsWritable) ∧
          e.2.ok.encode.length < 2 ^ 32 ∧ e.2.failed.encode.length < 2 ^ 32 := by
  have hrecords : (∀ item ∈ b.entries.flatMap fun e => recordItems e.1 e.2, item.IsWritable) ↔
      ∀ e ∈ b.entries, ∀ item ∈ recordItems e.1 e.2, item.IsWritable := by
    simp only [List.mem_flatMap, forall_exists_index, and_imp]
    exact ⟨fun h e he item hi => h item e he hi, fun h item e he hi => h e he item hi⟩
  simp only [IsWritable, items, ofBucket, List.forall_mem_append, headerItems_isWritable, hrecords,
    recordItems_isWritable]

/-! ## Buckets that are written as they are -/

/-- A bucket of which nothing has to be left out: all its texts have bytes, and no length is too
long. -/
structure IsEncodable (tags : Tags) (b : Bucket) : Prop where
  size_lt : b.size < 2 ^ 32
  tags : ∀ s ∈ tags.texts, Text.IsEncodable s
  keys : ∀ e ∈ b.entries, ∀ s ∈ e.1.texts, Text.IsEncodable s
  ok_lt : ∀ e ∈ b.entries, e.2.ok.encode.length < 2 ^ 32
  failed_lt : ∀ e ∈ b.entries, e.2.failed.encode.length < 2 ^ 32

namespace IsEncodable

variable {tags : Tags} {b : Bucket}

theorem header_isWritable (h : IsEncodable tags b) :
    ∀ item ∈ headerItems tags b.size b.start b.duration, item.IsWritable := by
  refine headerItems_isWritable.mpr ⟨?_, h.size_lt⟩
  intro s hs
  exact Item.isWritable_text_of_isEncodable (h.tags s hs)

theorem record_isWritable (h : IsEncodable tags b) {e : SeriesKey × Cell} (he : e ∈ b.entries) :
    ∀ item ∈ recordItems e.1 e.2, item.IsWritable := by
  refine recordItems_isWritable.mpr ⟨?_, h.ok_lt e he, h.failed_lt e he⟩
  intro s hs
  exact Item.isWritable_text_of_isEncodable (h.keys e he s hs)

theorem isWritable (h : IsEncodable tags b) : (Draft.ofBucket b).IsWritable tags := by
  refine List.forall_mem_append.mpr ⟨h.header_isWritable, fun item hi => ?_⟩
  obtain ⟨e, he, hi⟩ := List.mem_flatMap.mp hi
  exact h.record_isWritable he item hi

/-- Its payload says what is in it. -/
theorem decode_bytes (h : IsEncodable tags b) :
    Value.decode ((Draft.ofBucket b).bytes tags) =
      some (payloadValue tags b.start b.duration
        (b.entries.map fun e => recordValue e.1 e.2)) := by
  have htags : tags.sanitized = tags := Tags.sanitized_eq fun s hs => (h.tags s hs).1
  have hkeys : b.entries.map (fun e => recordValue e.1.sanitized e.2) =
      b.entries.map fun e => recordValue e.1 e.2 := by
    refine List.map_congr_left fun e he => ?_
    rw [SeriesKey.sanitized_eq fun s hs => (h.keys e he s hs).1]
  rw [Draft.decode_bytes (Draft.ofBucket_isComplete b) h.isWritable, htags]
  simp only [Draft.ofBucket, hkeys]

end IsEncodable

/-! ## Both ways to write a bucket -/

/-- The steps of `Writer.writeBucket`, one by one. -/
def stepsFor (b : Bucket) : List Command :=
  .start b.size b.start b.duration :: b.entries.map (fun e => .add e.1 e.2) ++ [.finish]

namespace Assembly

variable {tags : Tags}

theorem obeyAll_append (a : Assembly) (cs ds : List Command) :
    a.obeyAll tags (cs ++ ds) = (a.obeyAll tags cs).obeyAll tags ds := by
  simp only [obeyAll, List.foldl_append]

theorem obeyAll_add {d : Draft} {sent : List Draft} {es : List (SeriesKey × Cell)}
    (hlen : d.records.length + es.length ≤ d.declared)
    (hw : ∀ e ∈ es, ∀ item ∈ recordItems e.1 e.2, item.IsWritable) :
    obeyAll tags ⟨some d, sent⟩ (es.map fun e => .add e.1 e.2) =
      ⟨some { d with records := d.records ++ es }, sent⟩ := by
  induction es generalizing d with
  | nil => simp [obeyAll]
  | cons e es ih =>
    obtain ⟨he, hes⟩ := List.forall_mem_cons.mp hw
    have hlt : d.records.length < d.declared := by
      simp only [List.length_cons] at hlen
      omega
    have hadd : obey tags ⟨some d, sent⟩ (.add e.1 e.2) = ⟨some (d.push e.1 e.2), sent⟩ := by
      simp only [obey, add, if_pos (And.intro hlt he)]
    rw [List.map_cons, obeyAll, List.foldl_cons, hadd]
    refine (ih ?_ hes).trans ?_
    · simp only [Draft.push, List.length_append, List.length_cons, List.length_nil] at hlen ⊢
      omega
    · simp [Draft.push]

theorem obeyAll_stepsFor {b : Bucket} (h : IsEncodable tags b) (sent : List Draft) :
    obeyAll tags ⟨none, sent⟩ (stepsFor b) = ⟨none, sent ++ [.ofBucket b]⟩ := by
  have hs : Draft.IsWritable tags
      { declared := b.size, start := b.start, duration := b.duration } := by
    intro item hi
    rw [Draft.items_header] at hi
    exact h.header_isWritable item hi
  have hstart : obey tags ⟨none, sent⟩ (.start b.size b.start b.duration) =
      ⟨some { declared := b.size, start := b.start, duration := b.duration }, sent⟩ := by
    simp only [obey, Assembly.start, if_pos hs]
  rw [stepsFor, List.cons_append, obeyAll, List.foldl_cons, hstart]
  refine (obeyAll_append _ _ _).trans ?_
  rw [obeyAll_add (Nat.le_of_eq (Nat.zero_add _)) fun e he => h.record_isWritable he]
  simp only [obeyAll, List.foldl_cons, List.foldl_nil, obey, finish, Draft.IsComplete,
    List.nil_append, Bucket.size, if_true]
  rfl

end Assembly

/-- Whatever a writer has been told before: if no bucket is open, a bucket that can be written as it
is leads to one call of the sink. Its payload is one value, which says what is in the bucket, and
the texts and digests in it can be read back. -/
theorem decode_delivered {tags : Tags} {sink : Sink} {capacity : Nat} {w : Writer}
    (h : Writer.ofCapacity? tags sink capacity = some w) (commands : List Command)
    (hidle : (w.obeyAll commands).isOpen = false) {b : Bucket} (hne : b.entries ≠ [])
    (hb : IsEncodable tags b) (hcells : ∀ e ∈ b.entries, e.2.Reached) :
    ∃ payload,
      ((w.obeyAll commands).writeBucket b).writer.sink =
          ((w.obeyAll commands).sink.accept { messages := 1, payload }).1 ∧
        ((w.obeyAll commands).obeyAll (stepsFor b)).sink =
          ((w.obeyAll commands).sink.accept { messages := 1, payload }).1 ∧
        Value.decode payload =
          some (payloadValue tags b.start b.duration
            (b.entries.map fun e => recordValue e.1 e.2)) ∧
        (∀ s ∈ tags.texts ++ b.entries.flatMap fun e => e.1.texts,
          Text.ofBytes (Text.bytes s) = s) ∧
        ∀ e ∈ b.entries, Digest.decode e.2.ok.encode = .ok e.2.ok ∧
          Digest.decode e.2.failed.encode = .ok e.2.failed := by
  have hrun : w.obeyAll commands = (Assembly.obeyAll tags {} commands).writer tags sink := by
    rw [Writer.eq_holding_of_ofCapacity? h]
    exact Assembly.obeyAll_writer (a := {}) commands
  rw [hrun] at hidle ⊢
  generalize Assembly.obeyAll tags {} commands = a at hidle ⊢
  obtain ⟨draft, sent⟩ := a
  cases draft with
  | some d => simp [Assembly.writer, Writer.holding, Writer.isOpen] at hidle
  | none =>
  have hempty : b.isEmpty = false := by simpa [Bucket.isEmpty] using hne
  have hsent (a : Assembly) (ha : a = ⟨none, sent ++ [.ofBucket b]⟩) :
      (a.writer tags sink).sink = (((⟨none, sent⟩ : Assembly).writer tags sink).sink.accept
        ((Draft.ofBucket b).delivery tags)).1 := by
    subst ha
    simp only [Assembly.writer, Writer.holding_sink, List.map_append, List.map_singleton,
      Sink.acceptAll_concat]
  refine ⟨(Draft.ofBucket b).bytes tags, ?_, ?_, hb.decode_bytes, fun s hs => ?_, fun e he => ?_⟩
  · rw [Assembly.writeBucket_writer]
    refine hsent _ ?_
    simp only [Assembly.writeBucket, hempty, hb.isWritable, and_self, if_true, Bool.false_eq_true,
      if_false]
  · rw [Assembly.obeyAll_writer]
    exact hsent _ (Assembly.obeyAll_stepsFor hb sent)
  · refine Text.ofBytes_bytes ?_
    rcases List.mem_append.mp hs with hs | hs
    · exact (hb.tags s hs).1
    · obtain ⟨e, he, hs⟩ := List.mem_flatMap.mp hs
      exact (hb.keys e he s hs).1
  · obtain ⟨hok, hfailed⟩ := (hcells e he).formed
    exact ⟨Digest.decode_encode hok, Digest.decode_encode hfailed⟩

/-- A bucket with a text beyond ASCII and a start before the epoch, after one that was given up. -/
theorem decode_delivered_latin1 :
    let b : Bucket :=
      { start := -1, duration := 10
        entries :=
          [({ service := "café", operation := "get", resource := "", kind := "web", status := 404 },
            (Cell.empty (.ofSettings Resolution.defaultAccuracy 2048)).record { duration := 5 })] }
    let w := (Writer.holding { env := "prod" } {} none).obeyAll [.start 1 0 0, .reset]
    w.isOpen = false ∧ b.entries ≠ [] ∧ IsEncodable { env := "prod" } b ∧
      (∀ e ∈ b.entries, e.2.Reached) ∧
      ∃ payload, (w.writeBucket b).writer.sink = (w.sink.accept { messages := 1, payload }).1 ∧
        Value.decode payload =
          some (payloadValue { env := "prod" } b.start b.duration
            (b.entries.map fun e => recordValue e.1 e.2)) := by
  intro b w
  have hw : Writer.ofCapacity? { env := "prod" } {} 16 =
      some (.holding { env := "prod" } {} none) := by decide
  have hidle : w.isOpen = false := by decide +kernel
  have hne : b.entries ≠ [] := by simp [b]
  have hb : IsEncodable { env := "prod" } b := ⟨by decide +kernel, by decide +kernel,
    by decide +kernel, by decide +kernel, by decide +kernel⟩
  have hcells : ∀ e ∈ b.entries, e.2.Reached := by
    simp only [b, List.forall_mem_singleton]
    exact .record _ (.empty _ _)
  refine ⟨hidle, hne, hb, hcells, ?_⟩
  obtain ⟨payload, hsink, -, hdecode, -⟩ :=
    decode_delivered hw [.start 1 0 0, .reset] hidle hne hb hcells
  simp only [w]
  exact ⟨payload, hsink, hdecode⟩

end Payload

end SpanRollup
