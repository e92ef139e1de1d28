import Mathlib
import SpanRollup.Msgpack.Record
import SpanRollup.Proofs.Msgpack.Reads

/-!
# Readers do not look ahead

A reader takes its value off the front of the input and leaves the rest alone. So there are three
things it can make of an input: it wants more than there is, it finds something wrong, or it finds a
value. Only in the first case does it matter what might follow.

- `Steady`: nothing that follows an input makes a difference, unless the input is too short.
- `Steady.bind`: steady readers one after another are steady.
- `Steady.truncated`: a steady reader does not make do with a part of what it reads.
- `Steady.record`, `Steady.sequence`, `Steady.skip`: so are the readers of all that nests.
-/

namespace SpanRollup.Msgpack

/-- The input ended where the reader wanted more. -/
def ReadError.isShortage : ReadError → Bool
  | noMarker | noData | noBytes => true
  | _ => false

variable {α β σ : Type}

def Steady (read : Reader α) : Prop :=
  ∀ input, (∃ e, e.isShortage = true ∧ read.run input = .error e) ∨
    ∀ rest, read.run (input ++ rest) =
      (read.run input).map fun found => (found.1, found.2 ++ rest)

theorem Reader.take_run (n : Nat) (shortage : ReadError) (input : List UInt8) :
    (Reader.take n shortage).run input =
      if input.length < n then .error shortage else .ok (input.take n, input.drop n) := by
  have hlen : (input.take n).length < n ↔ input.length < n := by
    rw [List.length_take]
    omega
  rw [Reader.take, StateT.run_bind]
  change StateT.run (if (input.take n).length < n then _ else _) input = _
  rw [if_congr hlen rfl rfl]
  split <;> rfl

namespace Steady

variable {read : Reader α} {m : Marker}

/-! ## Readers one after another -/

theorem pure (a : α) : Steady (Pure.pure a) := fun _ => .inr fun _ => rfl

theorem fail (e : ReadError) : Steady (Reader.fail e : Reader α) := fun _ => .inr fun _ => rfl

theorem bind {k : α → Reader β} (h : Steady read) (hk : ∀ a, Steady (k a)) :
    Steady (read >>= k) := by
  intro input
  rcases h input with ⟨e, he, hrun⟩ | hread
  · exact .inl ⟨e, he, by rw [StateT.run_bind, hrun]; rfl⟩
  cases hrun : read.run input with
  | error e =>
    refine .inr fun rest => ?_
    rw [StateT.run_bind, StateT.run_bind, hread, hrun]
    rfl
  | ok found =>
    -- The next reader starts on what is left, and has the same bytes after it.
    rcases hk found.1 found.2 with ⟨e, he, hnext⟩ | hnext
    · exact .inl ⟨e, he, by rw [StateT.run_bind, hrun]; exact hnext⟩
    · refine .inr fun rest => ?_
      rw [StateT.run_bind, StateT.run_bind, hread, hrun]
      exact hnext rest

theorem bind_pure {f : α → β} (h : Steady read) : Steady (read >>= fun a => Pure.pure (f a)) :=
  h.bind fun a => pure (f a)

/-- What is read from some bytes as a whole is not read from a part of them. -/
theorem truncated {part rest whole : List UInt8} {a : α} (h : Steady read)
    (hread : Reads read whole a) (hwhole : part ++ rest = whole) (hrest : rest ≠ []) :
    ∃ e, e.isShortage = true ∧ read.run part = .error e := by
  rcases h part with hshort | hsteady
  · exact hshort
  -- Otherwise `rest` would be left of the whole.
  have hrun := hread.run_eq
  rw [← hwhole, hsteady rest] at hrun
  cases hpart : read.run part with
  | error e =>
    rw [hpart] at hrun
    cases hrun
  | ok found =>
    rw [hpart] at hrun
    have hleft : found.2 ++ rest = [] := congrArg Prod.snd (Except.ok.inj hrun)
    exact absurd (List.append_eq_nil_iff.mp hleft).2 hrest

/-! ## Bytes -/

theorem marker : Steady Reader.marker := by
  intro input
  cases input with
  | nil => exact .inl ⟨.noMarker, rfl, rfl⟩
  | cons byte input => exact .inr fun _ => rfl

theorem take {shortage : ReadError} (h : shortage.isShortage = true) (n : Nat) :
    Steady (Reader.take n shortage) := by
  intro input
  rw [Reader.take_run]
  by_cases hlen : input.length < n
  · exact .inl ⟨shortage, h, if_pos hlen⟩
  · refine .inr fun rest => ?_
    rw [Reader.take_run, if_neg hlen, if_neg (by rw [List.length_append]; omega),
      List.take_append_of_le_length (by omega), List.drop_append_of_le_length (by omega)]
    rfl

theorem data (width : Nat) : Steady (Reader.data width) := (take rfl width).bind_pure

theorem signedData (width : Nat) : Steady (Reader.signedData width) := (data width).bind_pure

theorem bytes (len : Nat) : Steady (Reader.bytes len) := take rfl len

/-! ## What follows a marker -/

theorem strLength {len : Reader Nat} (h : Reader.strLength? m = some len) : Steady len := by
  unfold Reader.strLength? at h
  split at h <;> cases h
  · exact .pure _
  · exact .data 1
  · exact .data 2
  · exact .data 4

theorem binLength {len : Reader Nat} (h : Reader.binLength? m = some len) : Steady len := by
  unfold Reader.binLength? at h
  split at h <;> cases h
  · exact .data 1
  · exact .data 2
  · exact .data 4

theorem arrayLength {len : Reader Nat} (h : Reader.arrayLength? m = some len) : Steady len := by
  unfold Reader.arrayLength? at h
  split at h <;> cases h
  · exact .pure _
  · exact .data 2
  · exact .data 4

theorem mapLength {len : Reader Nat} (h : Reader.mapLength? m = some len) : Steady len := by
  unfold Reader.mapLength? at h
  split at h <;> cases h
  · exact .pure _
  · exact .data 2
  · exact .data 4

theorem extLength {len : Reader Nat} (h : Reader.extLength? m = some len) : Steady len := by
  unfold Reader.extLength? at h
  split at h <;> cases h
  · exact .pure _
  · exact .data 1
  · exact .data 2
  · exact .data 4

theorem scalarAfter {read : Reader Reader.Scalar} (h : Reader.scalarAfter? m = some read) :
    Steady read := by
  unfold Reader.scalarAfter? at h
  split at h <;> cases h
  · exact .pure _
  · exact .pure _
  · exact .pure _
  · exact .pure _
  · exact (data 1).bind_pure
  · exact (data 2).bind_pure
  · exact (data 4).bind_pure
  · exact (data 8).bind_pure
  · exact (signedData 1).bind_pure
  · exact (signedData 2).bind_pure
  · exact (signedData 4).bind_pure
  · exact (signedData 8).bind_pure
  · exact (data 4).bind_pure
  · exact (data 8).bind_pure

/-! ## Numbers of a kind -/

theorem scalar : Steady Reader.scalar := by
  refine marker.bind fun m => ?_
  split
  · rename_i read hread
    exact scalarAfter hread
  · exact fail _

theorem intWithin (low high : Int) (expected : String) :
    Steady (Reader.intWithin low high expected) := by
  refine scalar.bind fun s => ?_
  split
  · split
    · exact pure _
    · exact fail _
  · exact fail _

theorem uint8 : Steady Reader.uint8 := (intWithin _ _ _).bind_pure

theorem uint32 : Steady Reader.uint32 := (intWithin _ _ _).bind_pure

theorem uint64 : Steady Reader.uint64 := (intWithin _ _ _).bind_pure

theorem size : Steady Reader.size := (intWithin _ _ _).bind_pure

theorem int32 : Steady Reader.int32 := (intWithin _ _ _).bind_pure

theorem int64 : Steady Reader.int64 := (intWithin _ _ _).bind_pure

theorem float : Steady Reader.float := by
  refine scalar.bind fun s => ?_
  split
  · exact pure _
  · exact pure _
  · exact fail _

theorem bool : Steady Reader.bool := by
  refine scalar.bind fun s => ?_
  split
  · exact pure _
  · exact fail _

/-! ## Values of any kind -/

theorem decodeStr (bytes : List UInt8) : Steady (Reader.decodeStr bytes) := by
  unfold Reader.decodeStr
  split
  · exact pure _
  split
  · exact fail _
  · exact fail _

theorem found (m : Marker) : Steady (Reader.found m) := by
  unfold Reader.found
  split
  · rename_i read hread
    exact (scalarAfter hread).bind_pure
  split
  · rename_i len hlen
    exact (strLength hlen).bind fun n => (bytes n).bind fun content => (decodeStr content).bind_pure
  split
  · rename_i len hlen
    exact (binLength hlen).bind fun n => (bytes n).bind_pure
  split
  · rename_i len hlen
    exact (arrayLength hlen).bind_pure
  split
  · rename_i len hlen
    exact (mapLength hlen).bind_pure
  split
  · rename_i len hlen
    exact (extLength hlen).bind_pure
  · exact fail _

theorem enter (depth : Nat) : Steady (Reader.enter depth) := by
  unfold Reader.enter
  split
  · exact fail _
  · exact pure _

theorem times {read : Reader Unit} (h : Steady read) (n : Nat) : Steady (Reader.times read n) := by
  induction n with
  | zero => exact pure _
  | succ n ih => exact h.bind fun _ => ih

theorem skip (depth : Nat) : Steady (Reader.skip depth) := by
  induction depth with
  | zero => exact fail _
  | succ depth ih =>
    refine marker.bind fun m => ?_
    split
    · rename_i read hread
      exact (scalarAfter hread).bind_pure
    split
    · rename_i len hlen
      exact (strLength hlen).bind fun n => (bytes n).bind_pure
    · rename_i len hlen _
      exact (binLength hlen).bind fun n => (bytes n).bind_pure
    split
    · rename_i len hlen
      exact (arrayLength hlen).bind fun n => (enter _).bind fun _ => ih.times n
    split
    · rename_i len hlen
      exact (mapLength hlen).bind fun n => (enter _).bind fun _ => ih.times (2 * n)
    split
    · rename_i len hlen
      exact (extLength hlen).bind fun n =>
        (enter _).bind fun _ => (data 1).bind fun _ => (bytes n).bind_pure
    · exact fail _

/-! ## Sequences and records -/

theorem elements (h : Steady read) (n : Nat) (done : Array α) :
    Steady (Reader.elements read n done) := by
  induction n generalizing done with
  | zero => exact pure _
  | succ n ih => exact h.bind fun a => ih (done.push a)

/-- The bytes of a byte string have been taken already. Nothing more is taken of the input, whatever
is made of them. -/
theorem fromBytes_run (content : List UInt8) (read : Reader α) (input : List UInt8) :
    (Reader.fromBytes content read).run input =
      (read.run (content.flatMap fun byte => Token.encode (.int byte.toNat))).map
        fun found => (found.1, input) := by
  change (read.run _).bind _ = _
  cases read.run (content.flatMap fun byte => Token.encode (.int byte.toNat)) <;> rfl

theorem fromBytes (content : List UInt8) (read : Reader α) :
    Steady (Reader.fromBytes content read) := by
  refine fun input => .inr fun rest => ?_
  rw [fromBytes_run, fromBytes_run]
  cases read.run (content.flatMap fun byte => Token.encode (.int byte.toNat)) <;> rfl

theorem sequence (h : Steady read) (depth : Nat) : Steady (Reader.sequence depth read) := by
  refine marker.bind fun m => ?_
  split
  · rename_i len _ hlen
    exact (arrayLength hlen).bind fun n => (enter depth).bind fun _ => h.elements n #[]
  · rename_i len hlen _
    exact (binLength hlen).bind fun n => (bytes n).bind fun content => fromBytes content _
  · exact (found m).bind fun _ => fail _

variable {fields : List (FieldReader σ)}

theorem recordElements (h : ∀ field ∈ fields, ∀ s, Steady (field.read s)) (expected : String)
    (done left : Nat) (s : σ) : Steady (Reader.recordElements expected fields done left s) := by
  induction fields generalizing done left s with
  | nil =>
    unfold Reader.recordElements
    split
    · exact fail _
    · exact pure _
  | cons field fields ih =>
    obtain ⟨hfield, hfields⟩ := List.forall_mem_cons.mp h
    cases left with
    | zero => exact fail _
    | succ left => exact (hfield s).bind fun s => ih hfields (done + 1) left s

theorem key : Steady Reader.key := by
  refine marker.bind fun m => ?_
  split
  · rename_i len _ hlen
    exact (strLength hlen).bind fun n => (bytes n).bind_pure
  · rename_i len hlen _
    exact (binLength hlen).bind fun n => (bytes n).bind_pure
  · refine (found m).bind fun v => ?_
    split
    · split
      · exact pure _
      · exact fail _
    · exact fail _

theorem mem_of_fieldOf? {key : Key} {field : FieldReader σ}
    (h : Reader.fieldOf? fields key = some field) : field ∈ fields := by
  cases key with
  | name bytes => exact List.mem_of_find?_eq_some h
  | number n => exact List.mem_of_getElem? h

theorem recordEntries (h : ∀ field ∈ fields, ∀ s, Steady (field.read s)) (depth n : Nat) (s : σ) :
    Steady (Reader.recordEntries depth fields n s) := by
  induction n generalizing s with
  | zero => exact pure _
  | succ n ih =>
    refine key.bind fun k => ?_
    split
    · rename_i field hfield
      have hread := (h field (mem_of_fieldOf? hfield) s).bind ih
      split
      · exact (fail _).bind fun _ => hread
      · exact hread
    · exact (skip depth).bind fun _ => ih s

theorem record {fields : Nat → List (FieldReader σ)}
    (h : ∀ depth, ∀ field ∈ fields depth, ∀ s, Steady (field.read s)) (name : String) (depth : Nat)
    (start : σ) (finish : σ → Option α) :
    Steady (Reader.record name depth fields start finish) := by
  refine marker.bind fun m => ?_
  -- Whatever form the fields come in, the same is done once they are known.
  extract_lets expected finishing
  have hfinish (known : σ) : Steady (finishing known) := by
    dsimp only [finishing]
    split
    · exact pure _
    · exact fail _
    · exact fail _
  split
  · rename_i len _ _ hlen
    exact (arrayLength hlen).bind fun n =>
      (enter depth).bind fun d => (recordElements (h d) _ 0 n start).bind hfinish
  · rename_i len hlen _
    exact (mapLength hlen).bind fun n =>
      (enter depth).bind fun d => (recordEntries (h d) d n start).bind hfinish
  · rename_i len hlen _ _
    exact (binLength hlen).bind fun n =>
      (bytes n).bind fun content => (fromBytes content _).bind hfinish
  · exact (found m).bind fun _ => (fail _).bind hfinish

end Steady

end SpanRollup.Msgpack
