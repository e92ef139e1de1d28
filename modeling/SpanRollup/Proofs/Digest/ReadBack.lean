import SpanRollup.Digest.Codec
import SpanRollup.Proofs.Digest.Formed
import SpanRollup.Proofs.Sketch.ReadBack

/-!
# Digests read back

Main statement: `decode_encode`, a formed digest is what its written form is read as.
-/

namespace SpanRollup

open Msgpack

theorem Bins.Within.writable {b : Bins} {maxBins : UInt32} {total : UInt64}
    (h : b.Within maxBins.toNat total) : b.Writable := by
  have := maxBins.toNat_lt
  exact ⟨by have := h.size_le; omega, by rw [h.limit_eq]; omega⟩

namespace Digest

/-- The written form begins with the length of the array and the version, a byte each. -/
theorem encode_eq (d : Digest) :
    d.encode = 0x96 :: 0x01 ::
      (Token.encode (.float d.resolution.accuracy) ++
        (Token.encode (.int d.resolution.maxBins.toNat) ++
          (Token.encode (.int d.count.toNat) ++
            (Token.encode (.int d.sum.toInt) ++ d.sketch.tokens.flatMap Token.encode)))) := by
  simp only [encode, tokens, List.cons_append, List.nil_append, List.flatMap_cons]
  rfl

theorem marker_run_cons (byte : UInt8) (rest : List UInt8) :
    Reader.marker.run (byte :: rest) = .ok (Marker.ofByte byte, rest) := rfl

theorem ofByte_six : Marker.ofByte 0x96 = .fixArray 6 := rfl

theorem ofByte_one : Marker.ofByte 0x01 = .fixPos 1 := rfl

theorem readFieldCount_cons (rest : List UInt8) :
    readFieldCount (0x96 :: rest) = .ok (fieldCount, rest) := by
  unfold readFieldCount
  rw [marker_run_cons, ofByte_six]
  rfl

theorem readVersion_cons (rest : List UInt8) :
    readVersion (0x01 :: rest) = .ok formatVersion := by
  unfold readVersion
  rw [marker_run_cons, ofByte_one]
  rfl

theorem envelopeReader_reads {d : Digest} (h : d.Formed) :
    Reads envelopeReader d.encode
      { accuracy := d.resolution.accuracy, maxBins := d.resolution.maxBins, count := d.count,
        sum := d.sum, sketch := d.sketch } := by
  rw [encode_eq]
  refine .marker_bind ?_
  rw [ofByte_six]
  refine .bind_nil (.pure 6) (.bind_nil (.enter (by decide)) ?_)
  change Reads _ (Token.encode (.int formatVersion.toNat) ++ _) _
  refine .bind (.uint8 formatVersion) ?_
  refine .bind (.float _) (.bind (.uint32 _) (.bind (.uint64 _) (.bind (.int64 _) ?_)))
  exact (Sketch.reads h.counts.positive.writable h.counts.negative.writable
    (by decide)).bind_pure

theorem ofEnvelope_eq {d : Digest} (h : d.Formed) :
    ofEnvelope
      { accuracy := d.resolution.accuracy, maxBins := d.resolution.maxBins, count := d.count,
        sum := d.sum, sketch := d.sketch } = .ok d := by
  simp [ofEnvelope, h.legal.ofSettings_eq, h.legal.accuracy_same, h.counts.count_eq]

/-- Behind the right header the envelope decides. -/
theorem decode_of_header {input left : List UInt8}
    (hcount : readFieldCount input = .ok (fieldCount, left))
    (hversion : readVersion left = .ok formatVersion) :
    decode input =
      match envelopeReader.run input with
      | .ok (envelope, _) => (ofEnvelope envelope).mapError .malformed
      | .error e => .error (.malformed (.content e)) := by
  rw [decode, hcount]
  simp only [Except.mapError, bind, Except.bind, hversion, ne_eq, not_true_eq_false, if_false]
  cases envelopeReader.run input <;> rfl

/-- What stands behind the written form is not looked at. -/
theorem decode_encode_append {d : Digest} (h : d.Formed) (rest : List UInt8) :
    decode (d.encode ++ rest) = .ok d := by
  have hread := envelopeReader_reads h rest
  rw [encode_eq, List.cons_append, List.cons_append] at hread ⊢
  rw [decode_of_header (readFieldCount_cons _) (readVersion_cons _), hread]
  dsimp only
  rw [ofEnvelope_eq h]
  rfl

/-- A formed digest survives being written and read. -/
theorem decode_encode {d : Digest} (h : d.Formed) : decode d.encode = .ok d := by
  simpa using decode_encode_append h []

end Digest

end SpanRollup
