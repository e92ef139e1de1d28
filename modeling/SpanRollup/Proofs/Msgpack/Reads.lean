import Mathlib
import SpanRollup.Msgpack.Reader

/-!
# What readers make of written bytes

`Reads read bytes a`: whatever follows `bytes`, `read` takes exactly them off the input and finds
`a`. Readings compose as readers do. `Opens select bytes a` says the same of a marker and of what
`select` has read after it; the shortest forms of numbers and lengths are opened here.
-/

namespace SpanRollup

theorem bind_eq_ok {ε α β : Type} {x : Except ε α} {next : α → Except ε β} {b : β}
    (h : x >>= next = .ok b) : ∃ a, x = .ok a ∧ next a = .ok b := by
  cases x with
  | error _ => cases h
  | ok a => exact ⟨a, rfl, h⟩

theorem bind_eq_error {ε α β : Type} {x : Except ε α} {next : α → Except ε β} {e : ε}
    (h : x >>= next = .error e) : x = .error e ∨ ∃ a, x = .ok a ∧ next a = .error e := by
  cases x with
  | error _ =>
    cases h
    exact .inl rfl
  | ok a => exact .inr ⟨a, rfl, h⟩

theorem mapError_eq_ok {ε ε' α : Type} {x : Except ε α} {f : ε → ε'} {a : α}
    (h : x.mapError f = .ok a) : x = .ok a := by
  cases x with
  | error _ => cases h
  | ok _ =>
    cases h
    rfl

theorem mapError_eq_error {ε ε' α : Type} {x : Except ε α} {f : ε → ε'} {e : ε'}
    (h : x.mapError f = .error e) : ∃ cause, x = .error cause ∧ f cause = e := by
  cases x with
  | error cause => exact ⟨cause, rfl, Except.error.inj h⟩
  | ok _ => cases h

namespace Msgpack

variable {α β : Type}

def Reads (read : Reader α) (bytes : List UInt8) (a : α) : Prop :=
  ∀ rest, read.run (bytes ++ rest) = .ok (a, rest)

namespace Reads

theorem pure (a : α) : Reads (Pure.pure a) [] a := fun _ => rfl

theorem run_bind {read : Reader α} {bytes : List UInt8} {a : α} (h : Reads read bytes a)
    (k : α → Reader β) (rest : List UInt8) :
    (read >>= k).run (bytes ++ rest) = (k a).run rest := by
  rw [StateT.run_bind, h]
  rfl

theorem bind {read : Reader α} {k : α → Reader β} {bytes more : List UInt8} {a : α} {b : β}
    (h : Reads read bytes a) (hk : Reads (k a) more b) :
    Reads (read >>= k) (bytes ++ more) b := by
  intro rest
  rw [List.append_assoc, h.run_bind]
  exact hk rest

/-- The last step of a reader that gives back what it has put together. -/
theorem bind_pure {read : Reader α} {f : α → β} {bytes : List UInt8} {a : α}
    (h : Reads read bytes a) : Reads (read >>= fun a => Pure.pure (f a)) bytes (f a) := by
  simpa using h.bind (k := fun a => Pure.pure (f a)) (.pure (f a))

theorem bind_pure_eq {read : Reader α} {f : α → β} {bytes : List UInt8} {a : α} {b : β}
    (h : Reads read bytes a) (hb : f a = b) :
    Reads (read >>= fun a => Pure.pure (f a)) bytes b := hb ▸ h.bind_pure

theorem map {read : Reader α} {f : α → β} {bytes : List UInt8} {a : α}
    (h : Reads read bytes a) : Reads (f <$> read) bytes (f a) := by
  rw [map_eq_pure_bind]
  exact h.bind_pure

/-- A step that only looks at what it is handed takes nothing. -/
theorem bind_nil {read : Reader α} {k : α → Reader β} {more : List UInt8} {a : α} {b : β}
    (h : Reads read [] a) (hk : Reads (k a) more b) : Reads (read >>= k) more b := h.bind hk

/-- Nothing is taken after the last step that takes something. -/
theorem bind_last {read : Reader α} {k : α → Reader β} {bytes : List UInt8} {a : α} {b : β}
    (h : Reads read bytes a) (hk : Reads (k a) [] b) : Reads (read >>= k) bytes b := by
  rw [← List.append_nil bytes]
  exact h.bind hk

theorem take {bytes : List UInt8} {n : Nat} (h : bytes.length = n) (shortage : ReadError) :
    Reads (Reader.take n shortage) bytes bytes := by
  subst h
  intro rest
  simp [Reader.take]
  rfl

theorem bytes {bytes : List UInt8} {n : Nat} (h : bytes.length = n) :
    Reads (Reader.bytes n) bytes bytes := take h .noBytes

theorem marker_bind {k : Marker → Reader β} {byte : UInt8} {more : List UInt8} {b : β}
    (hk : Reads (k (Marker.ofByte byte)) more b) :
    Reads (Reader.marker >>= k) (byte :: more) b := by
  intro rest
  exact hk rest

/-- Nothing can be left of an input that is exactly what is read. -/
theorem run_eq {read : Reader α} {bytes : List UInt8} {a : α} (h : Reads read bytes a) :
    read.run bytes = .ok (a, []) := by
  simpa using h []

end Reads

/-! ## Digits -/

@[simp] theorem bigEndian_length (width n : Nat) : (bigEndian width n).length = width := by
  induction width generalizing n with
  | zero => rfl
  | succ width ih => simp [bigEndian, ih]

theorem ofBigEndian_append (bytes : List UInt8) (byte : UInt8) :
    ofBigEndian (bytes ++ [byte]) = 256 * ofBigEndian bytes + byte.toNat := by
  simp [ofBigEndian]

theorem ofBigEndian_lt (bytes : List UInt8) : ofBigEndian bytes < 256 ^ bytes.length := by
  induction bytes using List.reverseRecOn with
  | nil => exact Nat.one_pos
  | append_singleton bytes byte ih =>
    have := byte.toNat_lt
    rw [ofBigEndian_append, List.length_append, List.length_singleton, Nat.pow_succ]
    omega

theorem ofBigEndian_bigEndian {width n : Nat} (h : n < 256 ^ width) :
    ofBigEndian (bigEndian width n) = n := by
  induction width generalizing n with
  | zero =>
    have : n = 0 := by simpa using h
    subst this; rfl
  | succ width ih =>
    have hdiv : n / 256 < 256 ^ width := by
      rw [Nat.div_lt_iff_lt_mul (by decide)]
      simpa [Nat.pow_succ] using h
    rw [bigEndian, ofBigEndian_append, ih hdiv, UInt8.toNat_ofNat']
    omega

theorem Reads.data {width n : Nat} (h : n < 256 ^ width) :
    Reads (Reader.data width) (bigEndian width n) n := by
  have := (Reads.take (bigEndian_length width n) .noData).bind_pure (f := ofBigEndian)
  rwa [ofBigEndian_bigEndian h] at this

/-- A negative number is written as what it leaves to the power that `width` bytes reach. -/
theorem Reads.signedData {width : Nat} {n : Int} (lo : -(256 ^ width : Nat) ≤ 2 * n) (hi : n < 0) :
    Reads (Reader.signedData width) (bigEndian width (n + (256 ^ width : Nat)).toNat) n := by
  have hlt : (n + (256 ^ width : Nat)).toNat < 256 ^ width := by omega
  have := (Reads.data hlt).bind_pure
    (f := fun m : Nat => if 2 * m < 256 ^ width then (m : Int) else (m : Int) - 256 ^ width)
  have hpow : ((256 ^ width : Nat) : Int) = 256 ^ width := Int.natCast_pow 256 width
  rwa [if_neg (by omega), ← hpow, Int.toNat_of_nonneg (by omega), Int.add_sub_cancel] at this

/-! ## Markers and what follows them -/

/-- `bytes` start with a marker that `select` knows, and what it has read after it finds `a`. -/
def Opens (select : Marker → Option (Reader α)) (bytes : List UInt8) (a : α) : Prop :=
  ∃ byte data read, bytes = byte :: data ∧ select (Marker.ofByte byte) = some read ∧
    Reads read data a

theorem Opens.of_marker {select : Marker → Option (Reader α)} {byte : UInt8} {m : Marker}
    {data : List UInt8} {read : Reader α} {a : α} (hm : Marker.ofByte byte = m)
    (hs : select m = some read) (h : Reads read data a) : Opens select (byte :: data) a :=
  ⟨byte, data, read, rfl, by rw [hm, hs], h⟩

/-! ### Markers that carry a small number -/

theorem ofByte_fixPos {n : Nat} (h : n < 128) : Marker.ofByte (UInt8.ofNat n) = .fixPos n := by
  have hn : (UInt8.ofNat n).toNat = n := by rw [UInt8.toNat_ofNat']; omega
  generalize UInt8.ofNat n = byte at hn
  unfold Marker.ofByte
  rw [if_pos (by omega), hn]

theorem ofByte_fixMap {n : Nat} (h : n < 16) :
    Marker.ofByte (UInt8.ofNat (0x80 + n)) = .fixMap n := by
  have hn : (UInt8.ofNat (0x80 + n)).toNat = 0x80 + n := by rw [UInt8.toNat_ofNat']; omega
  generalize UInt8.ofNat (0x80 + n) = byte at hn
  unfold Marker.ofByte
  rw [if_neg (by omega), if_pos (by omega), hn, Nat.add_sub_cancel_left]

theorem ofByte_fixArray {n : Nat} (h : n < 16) :
    Marker.ofByte (UInt8.ofNat (0x90 + n)) = .fixArray n := by
  have hn : (UInt8.ofNat (0x90 + n)).toNat = 0x90 + n := by rw [UInt8.toNat_ofNat']; omega
  generalize UInt8.ofNat (0x90 + n) = byte at hn
  unfold Marker.ofByte
  rw [if_neg (by omega), if_neg (by omega), if_pos (by omega), hn, Nat.add_sub_cancel_left]

theorem ofByte_fixStr {n : Nat} (h : n < 32) :
    Marker.ofByte (UInt8.ofNat (0xa0 + n)) = .fixStr n := by
  have hn : (UInt8.ofNat (0xa0 + n)).toNat = 0xa0 + n := by rw [UInt8.toNat_ofNat']; omega
  generalize UInt8.ofNat (0xa0 + n) = byte at hn
  unfold Marker.ofByte
  rw [if_neg (by omega), if_neg (by omega), if_neg (by omega), if_pos (by omega), hn,
    Nat.add_sub_cancel_left]

theorem ofByte_fixNeg {n : Int} (lo : -32 ≤ n) (hi : n < 0) :
    Marker.ofByte (UInt8.ofNat (n + 0x100).toNat) = .fixNeg n := by
  have hn : (UInt8.ofNat (n + 0x100).toNat).toNat = (n + 0x100).toNat := by
    rw [UInt8.toNat_ofNat']; omega
  generalize UInt8.ofNat (n + 0x100).toNat = byte at hn
  unfold Marker.ofByte
  rw [if_neg (by omega), if_neg (by omega), if_neg (by omega), if_neg (by omega),
    if_pos (by omega), hn, Int.toNat_of_nonneg (by omega), Int.add_sub_cancel]

/-! ### Shortest forms -/

/-- A length, or whatever `f` makes of it, is found after each marker that may announce it. -/
theorem opens_encodeLength {select : Marker → Option (Reader α)} {f : Nat → α} {short fixed : Nat}
    {markers : List (Nat × UInt8)} {len : Nat}
    (hfix : ∀ n < short, ∃ read, select (Marker.ofByte (UInt8.ofNat (fixed + n))) = some read ∧
      Reads read [] (f n))
    (hmark : ∀ m ∈ markers, ∃ read, select (Marker.ofByte m.2) = some read ∧
      ∀ n < 256 ^ m.1, Reads read (bigEndian m.1 n) (f n))
    (h : ∃ m ∈ markers, len < 256 ^ m.1) :
    Opens select (Token.encodeLength short fixed markers len) (f len) := by
  unfold Token.encodeLength
  by_cases hs : len < short
  · obtain ⟨read, he, hr⟩ := hfix len hs
    rw [if_pos hs]
    exact .of_marker rfl he hr
  rw [if_neg hs]
  cases hf : markers.find? (fun m => len < 256 ^ m.1) with
  | none =>
    obtain ⟨m, hm, hlt⟩ := h
    exact absurd hlt (by simpa using List.find?_eq_none.mp hf m hm)
  | some m =>
    obtain ⟨read, he, hr⟩ := hmark m (List.mem_of_find?_eq_some hf)
    exact .of_marker rfl he (hr len (by simpa using List.find?_some hf))

theorem opens_strHeader {len : Nat} (h : len < 2 ^ 32) :
    Opens Reader.strLength? (Token.strHeader len) len := by
  refine opens_encodeLength (f := id)
    (fun n hn => ⟨_, by rw [ofByte_fixStr hn]; rfl, .pure n⟩) ?_ ⟨(4, 0xdb), by simp, h⟩
  simp only [List.forall_mem_cons, List.not_mem_nil, false_imp_iff, implies_true, and_true]
  exact ⟨⟨_, rfl, fun n => .data⟩, ⟨_, rfl, fun n => .data⟩, ⟨_, rfl, fun n => .data⟩⟩

theorem opens_binHeader {len : Nat} (h : len < 2 ^ 32) :
    Opens Reader.binLength? (Token.binHeader len) len := by
  refine opens_encodeLength (f := id) (fun n hn => absurd hn n.not_lt_zero) ?_
    ⟨(4, 0xc6), by simp, h⟩
  simp only [List.forall_mem_cons, List.not_mem_nil, false_imp_iff, implies_true, and_true]
  exact ⟨⟨_, rfl, fun n => .data⟩, ⟨_, rfl, fun n => .data⟩, ⟨_, rfl, fun n => .data⟩⟩

theorem opens_arrayHeader {len : Nat} (h : len < 2 ^ 32) :
    Opens Reader.arrayLength? (Token.arrayHeader len) len := by
  refine opens_encodeLength (f := id)
    (fun n hn => ⟨_, by rw [ofByte_fixArray hn]; rfl, .pure n⟩) ?_ ⟨(4, 0xdd), by simp, h⟩
  simp only [List.forall_mem_cons, List.not_mem_nil, false_imp_iff, implies_true, and_true]
  exact ⟨⟨_, rfl, fun n => .data⟩, ⟨_, rfl, fun n => .data⟩⟩

theorem opens_mapHeader {len : Nat} (h : len < 2 ^ 32) :
    Opens Reader.mapLength? (Token.mapHeader len) len := by
  refine opens_encodeLength (f := id)
    (fun n hn => ⟨_, by rw [ofByte_fixMap hn]; rfl, .pure n⟩) ?_ ⟨(4, 0xdf), by simp, h⟩
  simp only [List.forall_mem_cons, List.not_mem_nil, false_imp_iff, implies_true, and_true]
  exact ⟨⟨_, rfl, fun n => .data⟩, ⟨_, rfl, fun n => .data⟩⟩

/-- A whole number that 64 bits hold, with or without a sign, is read as itself. -/
theorem opens_encodeInt {n : Int} (lo : -2 ^ 63 ≤ n) (hi : n < 2 ^ 64) :
    Opens Reader.scalarAfter? (Token.encodeInt n) (.int n) := by
  unfold Token.encodeInt
  by_cases h0 : 0 ≤ n
  · rw [if_pos h0]
    conv => rhs; rw [← Int.toNat_of_nonneg h0]
    refine opens_encodeLength (f := fun m => Reader.Scalar.int m)
      (fun m hm => ⟨_, by rw [Nat.zero_add, ofByte_fixPos hm]; rfl, .pure _⟩) ?_
      ⟨(8, 0xcf), by simp, by simp only; omega⟩
    simp only [List.forall_mem_cons, List.not_mem_nil, false_imp_iff, implies_true, and_true]
    exact ⟨⟨_, rfl, fun m hm => (Reads.data hm).bind_pure⟩,
      ⟨_, rfl, fun m hm => (Reads.data hm).bind_pure⟩,
      ⟨_, rfl, fun m hm => (Reads.data hm).bind_pure⟩,
      ⟨_, rfl, fun m hm => (Reads.data hm).bind_pure⟩⟩
  rw [if_neg h0]
  by_cases h1 : -32 ≤ n
  · rw [if_pos h1]
    exact .of_marker (ofByte_fixNeg h1 (by omega)) rfl (.pure _)
  rw [if_neg h1]
  by_cases h2 : -2 ^ 7 ≤ n
  · rw [if_pos h2]
    exact .of_marker rfl rfl (Reads.signedData (by omega) (by omega)).bind_pure
  rw [if_neg h2]
  by_cases h3 : -2 ^ 15 ≤ n
  · rw [if_pos h3]
    exact .of_marker rfl rfl (Reads.signedData (by omega) (by omega)).bind_pure
  rw [if_neg h3]
  by_cases h4 : -2 ^ 31 ≤ n
  · rw [if_pos h4]
    exact .of_marker rfl rfl (Reads.signedData (by omega) (by omega)).bind_pure
  rw [if_neg h4]
  exact .of_marker rfl rfl (Reads.signedData (by omega) (by omega)).bind_pure

theorem opens_float (x : Binary64) :
    Opens Reader.scalarAfter? (Token.encode (.float x)) (.float x) :=
  .of_marker rfl rfl ((Reads.data x.bits.toNat_lt).bind_pure_eq (by rw [UInt64.ofNat_toNat]))

theorem opens_bool (b : Bool) : Opens Reader.scalarAfter? (Token.encode (.bool b)) (.bool b) := by
  cases b <;> exact .of_marker rfl rfl (.pure _)

/-! ## Numbers of a kind -/

namespace Reads

theorem scalar {bytes : List UInt8} {s : Reader.Scalar} (h : Opens Reader.scalarAfter? bytes s) :
    Reads Reader.scalar bytes s := by
  obtain ⟨byte, data, read, rfl, he, hr⟩ := h
  refine marker_bind ?_
  rw [he]
  exact hr

theorem intWithin {low high n : Int} (expected : String) (lo : -2 ^ 63 ≤ n) (hi : n < 2 ^ 64)
    (hlow : low ≤ n) (hhigh : n ≤ high) :
    Reads (Reader.intWithin low high expected) (Token.encode (.int n)) n := by
  refine (scalar (opens_encodeInt lo hi)).bind_last ?_
  simp only [hlow, hhigh, decide_true, Bool.and_self, ↓reduceIte]
  exact .pure n

theorem uint8 (n : UInt8) : Reads Reader.uint8 (Token.encode (.int n.toNat)) n := by
  have := n.toNat_lt
  exact (intWithin "u8" (by omega) (by omega) (by omega) (by omega)).bind_pure_eq (by simp)

theorem uint32 (n : UInt32) : Reads Reader.uint32 (Token.encode (.int n.toNat)) n := by
  have := n.toNat_lt
  exact (intWithin "u32" (by omega) (by omega) (by omega) (by omega)).bind_pure_eq (by simp)

theorem uint64 (n : UInt64) : Reads Reader.uint64 (Token.encode (.int n.toNat)) n := by
  have := n.toNat_lt
  exact (intWithin "u64" (by omega) (by omega) (by omega) (by omega)).bind_pure_eq (by simp)

theorem size {n : Nat} (h : n < 2 ^ 64) : Reads Reader.size (Token.encode (.int n)) n := by
  exact (intWithin "usize" (by omega) (by omega) (by omega) (by omega)).bind_pure_eq (by simp)

theorem int32 (n : Int32) : Reads Reader.int32 (Token.encode (.int n.toInt)) n := by
  have := n.toInt_lt
  have := n.le_toInt
  exact (intWithin "i32" (by omega) (by omega) (by omega) (by omega)).bind_pure_eq (by simp)

theorem int64 (n : Int64) : Reads Reader.int64 (Token.encode (.int n.toInt)) n := by
  have := n.toInt_lt
  have := n.le_toInt
  exact (intWithin "i64" (by omega) (by omega) (by omega) (by omega)).bind_pure_eq (by simp)

theorem float (x : Binary64) : Reads Reader.float (Token.encode (.float x)) x :=
  (scalar (opens_float x)).bind_last (.pure x)

theorem bool (b : Bool) : Reads Reader.bool (Token.encode (.bool b)) b :=
  (scalar (opens_bool b)).bind_last (.pure b)

end Reads

end Msgpack

end SpanRollup
