import SpanRollup.Proofs.Digest.Intact

/-!
# The size of written digests

A number, a float or the header of an array takes nine bytes at most. A digest has 33 of them
besides the counts of its bins, and no more bins than its resolution says, whatever it counts.

- `Token.length_encode_le`: the size of a token.
- `length_tokens`: the number of tokens.
- `Reached.encode_bounded`: the size of a digest.
-/

namespace SpanRollup

/-! ## Tokens -/

namespace Msgpack.Token

/-- Whether a token has no content of its own length. -/
def isScalar : Token → Bool
  | bool _ | int _ | float _ | array _ | map _ => true
  | str _ | bin _ => false

theorem length_encodeLength_le {short fixed : Nat} {markers : List (Nat × UInt8)}
    (h : ∀ m ∈ markers, m.1 ≤ 8) (len : Nat) :
    (encodeLength short fixed markers len).length ≤ 9 := by
  unfold encodeLength
  split
  · simp
  cases hfind : markers.find? fun m => len < 256 ^ m.1 with
  | none => exact Nat.zero_le _
  | some m =>
    dsimp only
    rw [List.length_cons, bigEndian_length]
    exact Nat.succ_le_succ (h m (List.mem_of_find?_eq_some hfind))

theorem length_encodeInt_le (n : Int) : (encodeInt n).length ≤ 9 := by
  unfold encodeInt
  split
  · exact length_encodeLength_le (by decide) _
  repeat' split
  all_goals simp

theorem length_encode_le {t : Token} (h : t.isScalar = true) : t.encode.length ≤ 9 := by
  cases t with
  | bool b => cases b <;> decide
  | int n => exact length_encodeInt_le n
  | float x => rw [encode, List.length_cons, bigEndian_length]
  | array len => exact length_encodeLength_le (by decide) len
  | map len => exact length_encodeLength_le (by decide) len
  | str _ | bin _ => cases h

theorem length_flatMap_encode_le {ts : List Token} (h : ts.all isScalar = true) :
    (ts.flatMap encode).length ≤ 9 * ts.length := by
  induction ts with
  | nil => exact Nat.le_refl _
  | cons t ts ih =>
    rw [List.all_cons, Bool.and_eq_true] at h
    obtain ⟨ht, hts⟩ := h
    have htoken := length_encode_le ht
    have hrest := ih hts
    rw [List.flatMap_cons, List.length_append, List.length_cons]
    omega

end Msgpack.Token

/-! ## Digests -/

open Msgpack

theorem Bins.length_tokens (b : Bins) : b.tokens.length = b.counts.size + 8 := by
  simp [tokens]

theorem Bins.all_isScalar (b : Bins) : b.tokens.all Token.isScalar = true := by
  simp [tokens, Token.isScalar]

namespace Digest

theorem length_tokens (d : Digest) :
    d.tokens.length = d.sketch.positive.counts.size + d.sketch.negative.counts.size + 33 := by
  simp only [tokens, Sketch.tokens, Scale.tokens, List.length_append, List.length_cons,
    List.length_nil, Bins.length_tokens]
  omega

theorem all_isScalar (d : Digest) : d.tokens.all Token.isScalar = true := by
  simp only [tokens, Sketch.tokens, Scale.tokens, List.all_append, List.all_cons, List.all_nil,
    Bins.all_isScalar, Token.isScalar, Bool.and_self]

/-- All that is not the count of a bin fits into the fixed part. -/
theorem length_encode_le (d : Digest) :
    d.encode.length ≤
      512 + 9 * (d.sketch.positive.counts.size + d.sketch.negative.counts.size) := by
  have hle := Token.length_flatMap_encode_le d.all_isScalar
  rw [length_tokens] at hle
  unfold encode
  omega

/-- A digest that came about by the operations, however much it counts, has no more bins than its
resolution says and is written in at most as many bytes as its resolution says, from which it is
read. It can take in every duration, and every other such digest that is compatible, and remains of
its resolution. -/
theorem Reached.encode_bounded {d : Digest} (h : d.Reached) :
    d.sketch.positive.counts.size ≤ d.resolution.maxBins.toNat ∧
      d.sketch.negative.counts.size ≤ d.resolution.maxBins.toNat ∧
      d.encode.length ≤
        512 + 9 * (d.sketch.positive.counts.size + d.sketch.negative.counts.size) ∧
      d.encode.length ≤ d.resolution.maxEncodedSize ∧
      d.resolution.maxEncodedSize = 512 + 18 * d.resolution.maxBins.toNat ∧
      decode d.encode = .ok d ∧
      (∀ duration, ∃ e, d.record? duration = some e ∧ e.resolution = d.resolution) ∧
      ∀ other : Digest, other.Reached →
        d.merge other = .error .incompatible ∨
          ∃ e, d.merge other = .ok e ∧ e.resolution = d.resolution := by
  have hpositive := h.intact.sound.1.size_le
  have hnegative := h.intact.sound.2.size_le
  have hlength := d.length_encode_le
  have hmax : d.resolution.maxEncodedSize = 512 + 18 * d.resolution.maxBins.toNat := by
    unfold Resolution.maxEncodedSize
    omega
  refine ⟨hpositive, hnegative, hlength, by omega, hmax, decode_encode h.formed, ?_, ?_⟩
  · intro duration
    obtain ⟨e, hrecord, hresolution, -⟩ := h.intact.record duration
    exact ⟨e, hrecord, hresolution⟩
  · intro other ho
    rcases h.intact.merge ho.intact with hmerge | ⟨e, hmerge, hresolution, -⟩
    · exact .inl hmerge
    · exact .inr ⟨e, hmerge, hresolution⟩

/-- With room for two bins, the shortest and the longest duration there is, and one in between that
is merged in. -/
theorem encode_bounded_folded :
    let r := Resolution.ofSettings Resolution.defaultAccuracy 2
    let d := ((empty r).record 2).record Int64.maxValue
    let both := (d.merge ((empty r).record (2 ^ 40))).toOption.getD d
    both.Reached ∧ both.count = 3 ∧ both.sketch.positive.collapsed = true ∧
      both.encode.length ≤ 548 := by
  intro r d both
  have hd : d.Reached := .record _ (.record _ (.empty _ _))
  have hboth : both.Reached := .merge hd (.record _ (.empty _ _))
  have hmax : both.resolution.maxEncodedSize = 548 := by decide +kernel
  obtain ⟨-, -, -, hlength, -⟩ := hboth.encode_bounded
  exact ⟨hboth, by decide +kernel, by decide +kernel, hmax ▸ hlength⟩

end Digest

end SpanRollup
