import SpanRollup.Msgpack.Reader

/-!
# Records in MessagePack

A record is either an array of exactly its fields, in order, or a map from field names to values
in any order. A map may have keys that are no field's name; a key may also be a field's number. A
byte string can stand for a record too: its bytes are the fields, and there may be more of them.

- `FieldReader`: how one field is read into a record under construction.
- `Reader.record`: reads the record in any of its forms.
-/

namespace SpanRollup.Msgpack

/-- A field of a record. While the record is read, `σ` holds the fields that are known. -/
structure FieldReader (σ : Type) where
  name : String
  isKnown : σ → Bool
  read : σ → Reader σ

/-- The key of a map entry. -/
inductive Key where
  | name (bytes : List UInt8)
  | number (n : Nat)

namespace Reader

/-- Reads the fields in order, of which `done` came before and `left` elements are there. -/
def recordElements {σ : Type} (expected : String) :
    List (FieldReader σ) → (done left : Nat) → σ → Reader σ
  | [], done, left, s => if 0 < left then fail (.tooLong done) else pure s
  | _ :: _, done, 0, _ => fail (.tooShort done expected)
  | field :: fields, done, left + 1, s => do
    recordElements expected fields (done + 1) left (← field.read s)

/-- A number is a key only if its form has no sign. -/
def key : Reader Key := do
  let m ← marker
  match strLength? m, binLength? m with
  | some len, _ => return .name (← bytes (← len))
  | _, some len => return .name (← bytes (← len))
  | none, none =>
    match ← found m with
    | .int n =>
      if m.isUnsigned then return .number n.toNat
      else fail (.wrongType (.int n) "field identifier")
    | other => fail (.wrongType other "field identifier")

/-- The field that a key stands for. -/
def fieldOf? {σ : Type} (fields : List (FieldReader σ)) : Key → Option (FieldReader σ)
  | .name bytes => fields.find? (fun field => Utf8.encode field.name = bytes)
  | .number n => fields[n]?

/-- Reads `n` entries of a map. -/
def recordEntries {σ : Type} (depth : Nat) (fields : List (FieldReader σ)) : Nat → σ → Reader σ
  | 0, s => pure s
  | n + 1, s => do
    match fieldOf? fields (← key) with
    | some field =>
      if field.isKnown s then fail (.duplicateField field.name)
      recordEntries depth fields n (← field.read s)
    | none =>
      skip depth
      recordEntries depth fields n s

/-- A record called `name`. `fields` says how to read its fields within the depth that is left. -/
def record {σ α : Type} (name : String) (depth : Nat) (fields : Nat → List (FieldReader σ))
    (start : σ) (finish : σ → Option α) : Reader α := do
  let m ← marker
  let expected (count : Nat) := s!"struct {name} with {count} elements"
  let known ← match arrayLength? m, mapLength? m, binLength? m with
    | some len, _, _ =>
      let n ← len
      let fields := fields (← enter depth)
      recordElements (expected fields.length) fields 0 n start
    | _, some len, _ =>
      let n ← len
      let depth ← enter depth
      recordEntries depth (fields depth) n start
    | _, _, some len =>
      let content ← bytes (← len)
      let fields := fields depth
      fromBytes content (recordElements (expected fields.length) fields 0
        (min content.length fields.length) start)
    | none, none, none => fail (.wrongType (← found m) s!"struct {name}")
  match finish known, (fields depth).find? (fun field => !field.isKnown known) with
  | some a, _ => return a
  | none, some field => fail (.missingField field.name)
  | none, none => fail (.missingField name)

end Reader

end SpanRollup.Msgpack
