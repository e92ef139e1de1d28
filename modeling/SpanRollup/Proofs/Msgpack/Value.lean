import SpanRollup.Proofs.Msgpack.Reads

/-!
# Whole MessagePack values

`Value.decode` reads one value of any kind and form, and nothing may be left of the input. Main
statements: what is written as one token is read as that scalar or text (`reads_scalar`,
`reads_str`, `reads_bin`), and an array or map whose length goes before its elements is read as
those elements (`reads_array`, `reads_map`).
-/

namespace SpanRollup.Msgpack

/-! ## Values -/

inductive Value where
  | scalar (s : Reader.Scalar)
  | str (bytes : List UInt8)
  | bin (bytes : List UInt8)
  | array (elements : List Value)
  | map (entries : List (Value × Value))
  | ext (kind : Nat) (bytes : List UInt8)

/-- What a marker and the number after it tell of a value: a scalar as a whole, of anything else
the length. -/
inductive Lead where
  | scalar (s : Reader.Scalar)
  | str (len : Nat)
  | bin (len : Nat)
  | array (len : Nat)
  | map (len : Nat)
  | ext (len : Nat)

def Lead.after? (m : Marker) : Option (Reader Lead) :=
  match Reader.scalarAfter? m, Reader.strLength? m, Reader.binLength? m, Reader.arrayLength? m,
    Reader.mapLength? m, Reader.extLength? m with
  | some read, _, _, _, _, _ => some (scalar <$> read)
  | _, some len, _, _, _, _ => some (str <$> len)
  | _, _, some len, _, _, _ => some (bin <$> len)
  | _, _, _, some len, _, _ => some (array <$> len)
  | _, _, _, _, some len, _ => some (map <$> len)
  | _, _, _, _, _, some len => some (ext <$> len)
  | none, none, none, none, none, none => none

def Lead.reader : Reader Lead := do
  let m ← Reader.marker
  match after? m with
  | some read => read
  | none => Reader.fail (.wrongMarker m)

/-- Reads `n` elements. -/
def Reader.list {α : Type} (read : Reader α) : Nat → Reader (List α)
  | 0 => pure []
  | n + 1 => do
    let a ← read
    return a :: (← list read n)

/-- Reads a key and what belongs to it. -/
def Reader.entry {α : Type} (read : Reader α) : Reader (α × α) := do
  let key ← read
  return (key, ← read)

namespace Value

/-- A value that nests less than `depth` levels deep. -/
def reader : (depth : Nat) → Reader Value
  | 0 => Reader.fail .tooDeep
  | depth + 1 => do
    match ← Lead.reader with
    | .scalar s => return .scalar s
    | .str len => return .str (← Reader.bytes len)
    | .bin len => return .bin (← Reader.bytes len)
    | .array len => return .array (← Reader.list (reader depth) len)
    | .map len => return .map (← Reader.list (Reader.entry (reader depth)) len)
    | .ext len =>
      let kind ← Reader.data 1
      return .ext kind (← Reader.bytes len)

/-- How deep values may nest. -/
def maxDepth : Nat := 1024

/-- The value that bytes are, if they are one value and nothing else. -/
def decode (bytes : List UInt8) : Option Value :=
  match (reader maxDepth).run bytes with
  | .ok (v, []) => some v
  | _ => none

def int (n : Int) : Value := .scalar (.int n)

end Value

/-! ## Leads -/

theorem Lead.reads {select : Marker → Option (Reader α)} {f : α → Lead} {bytes : List UInt8}
    {a : α} (hf : ∀ m read, select m = some read → after? m = some (f <$> read))
    (h : Opens select bytes a) : Reads Lead.reader bytes (f a) := by
  obtain ⟨byte, data, read, rfl, he, hr⟩ := h
  refine .marker_bind ?_
  rw [hf _ _ he]
  exact hr.map

namespace Lead

theorem reads_scalar {bytes : List UInt8} {s : Reader.Scalar}
    (h : Opens Reader.scalarAfter? bytes s) : Reads reader bytes (.scalar s) :=
  reads (f := .scalar) (fun m read hm => by simp only [after?, hm]) h

theorem reads_str {len : Nat} (h : len < 2 ^ 32) : Reads reader (Token.strHeader len) (.str len) :=
  reads (f := .str) (fun m read hm => by cases m <;> cases hm <;> rfl) (opens_strHeader h)

theorem reads_bin {len : Nat} (h : len < 2 ^ 32) : Reads reader (Token.binHeader len) (.bin len) :=
  reads (f := .bin) (fun m read hm => by cases m <;> cases hm <;> rfl) (opens_binHeader h)

theorem reads_array {len : Nat} (h : len < 2 ^ 32) :
    Reads reader (Token.arrayHeader len) (.array len) :=
  reads (f := .array) (fun m read hm => by cases m <;> cases hm <;> rfl) (opens_arrayHeader h)

theorem reads_map {len : Nat} (h : len < 2 ^ 32) : Reads reader (Token.mapHeader len) (.map len) :=
  reads (f := .map) (fun m read hm => by cases m <;> cases hm <;> rfl) (opens_mapHeader h)

end Lead

namespace Value

variable {depth : Nat}

/-! ## Reading back what was written -/

theorem reads_scalar {bytes : List UInt8} {s : Reader.Scalar}
    (h : Opens Reader.scalarAfter? bytes s) :
    Reads (reader (depth + 1)) bytes (.scalar s) :=
  (Lead.reads_scalar h).bind_last (.pure _)

theorem reads_int {n : Int} (lo : -2 ^ 63 ≤ n) (hi : n < 2 ^ 64) :
    Reads (reader (depth + 1)) (Token.encode (.int n)) (int n) :=
  reads_scalar (opens_encodeInt lo hi)

theorem reads_str {bytes : List UInt8} (h : bytes.length < 2 ^ 32) :
    Reads (reader (depth + 1)) (Token.encode (.str bytes)) (.str bytes) :=
  (Lead.reads_str h).bind (Reads.bytes rfl).bind_pure

theorem reads_bin {bytes : List UInt8} (h : bytes.length < 2 ^ 32) :
    Reads (reader (depth + 1)) (Token.encode (.bin bytes)) (.bin bytes) :=
  (Lead.reads_bin h).bind (Reads.bytes rfl).bind_pure

/-- Elements are read one after another, each from its own part of the input. -/
theorem reads_list {α ι : Type} {read : Reader α} {part : ι → List UInt8} {f : ι → α}
    {is : List ι} (h : ∀ i ∈ is, Reads read (part i) (f i)) :
    Reads (Reader.list read is.length) (is.flatMap part) (is.map f) := by
  induction is with
  | nil => exact .pure []
  | cons i is ih =>
    obtain ⟨hi, his⟩ := List.forall_mem_cons.mp h
    exact hi.bind (ih his).bind_pure

theorem reads_entry {α : Type} {read : Reader α} {key value : List UInt8} {k v : α}
    (hk : Reads read key k) (hv : Reads read value v) :
    Reads (Reader.entry read) (key ++ value) (k, v) :=
  hk.bind hv.bind_pure

theorem reads_array {ι : Type} {part : ι → List UInt8} {f : ι → Value} {is : List ι}
    (hlen : is.length < 2 ^ 32) (h : ∀ i ∈ is, Reads (reader depth) (part i) (f i)) :
    Reads (reader (depth + 1)) (Token.encode (.array is.length) ++ is.flatMap part)
      (.array (is.map f)) :=
  (Lead.reads_array hlen).bind (reads_list h).bind_pure

theorem reads_map {ι : Type} {part : ι → List UInt8} {f : ι → Value × Value} {is : List ι}
    (hlen : is.length < 2 ^ 32)
    (h : ∀ i ∈ is, Reads (Reader.entry (reader depth)) (part i) (f i)) :
    Reads (reader (depth + 1)) (Token.encode (.map is.length) ++ is.flatMap part)
      (.map (is.map f)) :=
  (Lead.reads_map hlen).bind (reads_list h).bind_pure

theorem decode_eq_some {bytes : List UInt8} {v : Value} (h : Reads (reader maxDepth) bytes v) :
    decode bytes = some v := by
  rw [decode, h.run_eq]

end Value

end SpanRollup.Msgpack
