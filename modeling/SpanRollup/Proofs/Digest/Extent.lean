import Mathlib
import SpanRollup.Proofs.Digest.Received
import SpanRollup.Proofs.Msgpack.Steady

/-!
# Where a written digest ends

The readers of a digest are steady, so an input is judged by the part that they take, whatever
follows it. A digest that is cut short is therefore never taken for one, but neither are bytes
after its end noticed.

- `decode_steady`: what follows an input makes no difference, unless the input ended too early.
- `Reached.decode_truncated`: a digest that was cut short is malformed.
- `Reached.decode_followed`: whatever follows a digest, it is read as if it stood alone.
-/

namespace SpanRollup

open Msgpack

/-! ## Sketches -/

theorem Scale.reader_steady (depth : Nat) : Steady (Scale.reader depth) := by
  refine .record (fun _ => ?_) _ _ _ _
  simp only [Scale.fields, List.forall_mem_cons, List.not_mem_nil, false_imp_iff, implies_true,
    and_true]
  exact ⟨fun _ => Steady.uint32.bind_pure, fun _ => Steady.float.bind_pure,
    fun _ => Steady.float.bind_pure, fun _ => Steady.float.bind_pure,
    fun _ => Steady.int32.bind_pure⟩

theorem Bins.reader_steady (depth : Nat) : Steady (Bins.reader depth) := by
  refine .record (fun depth => ?_) _ _ _ _
  simp only [Bins.fields, List.forall_mem_cons, List.not_mem_nil, false_imp_iff, implies_true,
    and_true]
  exact ⟨fun _ => (Steady.uint64.sequence depth).bind_pure, fun _ => Steady.uint64.bind_pure,
    fun _ => Steady.int32.bind_pure, fun _ => Steady.int32.bind_pure,
    fun _ => Steady.int32.bind_pure, fun _ => Steady.size.bind_pure,
    fun _ => Steady.bool.bind_pure⟩

theorem Sketch.reader_steady (depth : Nat) : Steady (Sketch.reader depth) := by
  refine .record (fun depth => ?_) _ _ _ _
  simp only [Sketch.fields, List.forall_mem_cons, List.not_mem_nil, false_imp_iff, implies_true,
    and_true]
  exact ⟨fun _ => (Scale.reader_steady depth).bind_pure,
    fun _ => (Bins.reader_steady depth).bind_pure, fun _ => (Bins.reader_steady depth).bind_pure,
    fun _ => Steady.float.bind_pure, fun _ => Steady.float.bind_pure,
    fun _ => Steady.float.bind_pure, fun _ => Steady.uint64.bind_pure⟩

namespace Digest

/-! ## Envelopes -/

theorem envelopeReader_steady : Steady envelopeReader := by
  refine .bind .marker fun m => ?_
  extract_lets reading
  have hreading : Steady (reading ()) := by
    refine .bind (.enter _) fun depth => .bind .uint8 fun _ => .bind .float fun _ => ?_
    refine .bind .uint32 fun _ => .bind .uint64 fun _ => .bind .int64 fun _ => ?_
    exact (Sketch.reader_steady depth).bind_pure
  split
  · rename_i len hlen
    exact .bind (.arrayLength hlen) fun _ => hreading
  · exact hreading

/-- The input ended before the digest did. -/
def Malformed.isEarlyEnd : Malformed → Bool
  | noHeaderMarker | noHeaderData => true
  | content e => e.isShortage
  | _ => false

theorem headerCause_isEarlyEnd (e : ReadError) : (headerCause e).isEarlyEnd = true := by
  cases e <;> rfl

/-! ## The header -/

theorem readFieldCount_cons_eq (byte : UInt8) (input : List UInt8) :
    readFieldCount (byte :: input) =
      match Reader.arrayLength? (.ofByte byte) with
      | some len => (len.run input).mapError headerCause
      | none => .error .wrongHeader := rfl

theorem readFieldCount_steady (input : List UInt8) :
    (∃ cause, cause.isEarlyEnd = true ∧ readFieldCount input = .error cause) ∨
      ∀ rest, readFieldCount (input ++ rest) =
        (readFieldCount input).map fun found => (found.1, found.2 ++ rest) := by
  cases input with
  | nil => exact .inl ⟨.noHeaderMarker, rfl, rfl⟩
  | cons byte input =>
    simp only [List.cons_append, readFieldCount_cons_eq]
    cases hlen : Reader.arrayLength? (.ofByte byte) with
    | none => exact .inr fun _ => rfl
    | some len =>
      dsimp only
      rcases Steady.arrayLength hlen input with ⟨e, -, hrun⟩ | hsteady
      · exact .inl ⟨headerCause e, headerCause_isEarlyEnd e, by rw [hrun]; rfl⟩
      · refine .inr fun rest => ?_
        rw [hsteady]
        cases len.run input <;> rfl

theorem readVersion_steady (input : List UInt8) :
    (∃ cause, cause.isEarlyEnd = true ∧ readVersion input = .error cause) ∨
      ∀ rest, readVersion (input ++ rest) = readVersion input := by
  cases input with
  | nil => exact .inl ⟨.noHeaderMarker, rfl, rfl⟩
  | cons byte input =>
    unfold readVersion
    simp only [List.cons_append, marker_run_cons, Except.mapError, bind, Except.bind]
    split
    · exact .inr fun _ => rfl
    · exact .inr fun _ => rfl
    · rename_i read hread _ _
      rcases Steady.scalarAfter hread input with ⟨e, -, hrun⟩ | hsteady
      · exact .inl ⟨headerCause e, headerCause_isEarlyEnd e, by rw [hrun]⟩
      · refine .inr fun rest => ?_
        rw [hsteady]
        cases read.run input <;> rfl
    · exact .inr fun _ => rfl

/-! ## Digests -/

section

variable {input left : List UInt8} {fields : Nat} {version : UInt8} {cause : Malformed}

theorem decode_of_count_error (hcount : readFieldCount input = .error cause) :
    decode input = .error (.malformed cause) := by
  rw [decode, hcount]
  rfl

theorem decode_of_wrong_count (hcount : readFieldCount input = .ok (fields, left))
    (hfields : fields ≠ fieldCount) :
    decode input = .error (.malformed (.wrongFieldCount fields)) := by
  rw [decode, hcount]
  exact if_pos hfields

theorem decode_of_version_error (hcount : readFieldCount input = .ok (fieldCount, left))
    (hversion : readVersion left = .error cause) : decode input = .error (.malformed cause) := by
  rw [decode, hcount]
  simp only [Except.mapError, bind, Except.bind, hversion, ne_eq, not_true_eq_false, if_false]

theorem decode_of_wrong_version (hcount : readFieldCount input = .ok (fieldCount, left))
    (hversion : readVersion left = .ok version) (hne : version ≠ formatVersion) :
    decode input = .error (.unsupportedVersion version) := by
  rw [decode, hcount]
  simp only [Except.mapError, bind, Except.bind, hversion, ne_eq, not_true_eq_false, if_false, hne,
    not_false_eq_true, if_true]

/-- The envelope is read from the start of the input, as far as it goes. -/
theorem envelope_steady
    (hcount : ∀ rest, readFieldCount (input ++ rest) = .ok (fieldCount, left ++ rest))
    (hversion : ∀ rest, readVersion (left ++ rest) = .ok formatVersion) :
    (∃ cause, cause.isEarlyEnd = true ∧ decode input = .error (.malformed cause)) ∨
      ∀ rest, decode (input ++ rest) = decode input := by
  have hdecode (rest : List UInt8) := decode_of_header (hcount rest) (hversion rest)
  have hinput := hdecode []
  rw [List.append_nil] at hinput
  rcases envelopeReader_steady input with ⟨e, he, hread⟩ | hread
  · refine .inl ⟨.content e, he, ?_⟩
    rw [hinput, hread]
  · refine .inr fun rest => ?_
    rw [hdecode, hinput, hread]
    cases envelopeReader.run input <;> rfl

end

/-- What follows an input makes no difference, unless the input ended before the digest did. -/
theorem decode_steady (input : List UInt8) :
    (∃ cause, cause.isEarlyEnd = true ∧ decode input = .error (.malformed cause)) ∨
      ∀ rest, decode (input ++ rest) = decode input := by
  rcases readFieldCount_steady input with ⟨cause, hcause, hcount⟩ | hcounts
  · exact .inl ⟨cause, hcause, decode_of_count_error hcount⟩
  cases hcount : readFieldCount input with
  | error cause =>
    refine .inr fun rest => ?_
    have hcount' := hcounts rest
    rw [hcount] at hcount'
    rw [decode_of_count_error hcount, decode_of_count_error hcount']
  | ok found =>
    obtain ⟨fields, left⟩ := found
    have hcount' (rest : List UInt8) :
        readFieldCount (input ++ rest) = .ok (fields, left ++ rest) := by
      rw [hcounts, hcount]
      rfl
    by_cases hfields : fields = fieldCount
    swap
    · refine .inr fun rest => ?_
      rw [decode_of_wrong_count hcount hfields, decode_of_wrong_count (hcount' rest) hfields]
    subst hfields
    rcases readVersion_steady left with ⟨cause, hcause, hversion⟩ | hversions
    · exact .inl ⟨cause, hcause, decode_of_version_error hcount hversion⟩
    cases hversion : readVersion left with
    | error cause =>
      refine .inr fun rest => ?_
      rw [decode_of_version_error hcount hversion,
        decode_of_version_error (hcount' rest) ((hversions rest).trans hversion)]
    | ok version =>
      by_cases hformat : version = formatVersion
      · subst hformat
        exact envelope_steady hcount' fun rest => (hversions rest).trans hversion
      · refine .inr fun rest => ?_
        rw [decode_of_wrong_version hcount hversion hformat,
          decode_of_wrong_version (hcount' rest) ((hversions rest).trans hversion) hformat]

/-- A digest that was cut short is malformed, wherever it was cut: the input ended early. -/
theorem Reached.decode_truncated {d : Digest} (h : d.Reached) {part : List UInt8}
    (hpart : part <+: d.encode) (hne : part ≠ d.encode) :
    ∃ cause, cause.isEarlyEnd = true ∧ decode part = .error (.malformed cause) := by
  obtain ⟨rest, hwhole⟩ := hpart
  have hrest : rest ≠ [] := by
    rintro rfl
    exact hne (by rw [← hwhole, List.append_nil])
  obtain ⟨e, he, hread⟩ :=
    envelopeReader_steady.truncated (envelopeReader_reads h.formed) hwhole hrest
  rw [encode_eq] at hwhole
  match part with
  | [] => exact ⟨.noHeaderMarker, rfl, decode_of_count_error rfl⟩
  | [byte] =>
    simp only [List.cons_append, List.cons.injEq] at hwhole
    obtain ⟨rfl, -⟩ := hwhole
    exact ⟨.noHeaderMarker, rfl, decode_of_version_error (readFieldCount_cons []) rfl⟩
  | byte :: version :: part =>
    simp only [List.cons_append, List.cons.injEq] at hwhole
    obtain ⟨rfl, rfl, -⟩ := hwhole
    refine ⟨.content e, he, ?_⟩
    rw [decode_of_header (readFieldCount_cons _) (readVersion_cons part), hread]

/-- The last bytes of a digest of two durations are missing. -/
theorem decode_truncated_end :
    let d := ((empty (.ofSettings Resolution.defaultAccuracy 2048)).record 5).record (-3)
    let part := d.encode.take (d.encode.length - 4)
    d.Reached ∧ part <+: d.encode ∧ part ≠ d.encode ∧
      ∃ cause, cause.isEarlyEnd = true ∧ decode part = .error (.malformed cause) := by
  intro d part
  have hd : d.Reached := .record (-3) (.record 5 (.empty _ _))
  have hpart : part <+: d.encode := List.take_prefix _ _
  have hne : part ≠ d.encode := by
    intro heq
    have hlen := congrArg List.length heq
    rw [List.length_take, encode_eq, List.length_cons] at hlen
    omega
  exact ⟨hd, hpart, hne, hd.decode_truncated hpart hne⟩

/-- Whatever follows a digest, it is read as if it stood alone, and so is all else that is
accepted. -/
theorem Reached.decode_followed {d : Digest} (h : d.Reached) (rest : List UInt8) :
    decode (d.encode ++ rest) = .ok d ∧
      ∀ input s, decode input = .ok s → decode (input ++ rest) = .ok s := by
  have hall (input : List UInt8) (s : Digest) (hs : decode input = .ok s) :
      decode (input ++ rest) = .ok s := by
    rcases decode_steady input with ⟨cause, -, hshort⟩ | hsteady
    · rw [hs] at hshort
      cases hshort
    · rw [hsteady, hs]
  exact ⟨hall _ _ (decode_encode h.formed), hall⟩

/-- Of two digests the first is read. -/
theorem decode_followed_two :
    let d := (empty (.ofSettings Resolution.defaultAccuracy 2048)).record 5
    let e := empty (.ofSettings Resolution.defaultAccuracy 16)
    d.Reached ∧ decode e.encode = .ok e ∧ decode (d.encode ++ e.encode) = .ok d ∧
      decode (e.encode ++ e.encode) = .ok e := by
  intro d e
  have hd : d.Reached := .record 5 (.empty _ _)
  have he : e.Reached := .empty _ _
  obtain ⟨hfollowed, hall⟩ := hd.decode_followed e.encode
  exact ⟨hd, decode_encode he.formed, hfollowed, hall _ _ (decode_encode he.formed)⟩

/-- A byte too many is not noticed. -/
theorem decode_trailing_byte :
    let d := empty (.ofSettings Resolution.defaultAccuracy 2048)
    d.Reached ∧ decode (d.encode ++ [0]) = .ok d := by
  intro d
  have hd : d.Reached := .empty _ _
  exact ⟨hd, decode_encode_append hd.formed [0]⟩

end Digest

end SpanRollup
