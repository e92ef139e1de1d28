import Mathlib
import SpanRollup.Proofs.Msgpack.Steady
import SpanRollup.Proofs.Payload.Stream

/-!
# Shortest forms

A number or a length can be written in several forms, of which an encoder takes the shortest.
Nothing is assumed of the others but that they are read as the same value.

- `Shortest`: some bytes are a form of a value, and no other form is shorter.
- `shortest_encodeInt`, `shortest_encodeLength`: this is true of what is written for numbers and for
  lengths.
- `Buffer.write_shortest`: so it is for what an encoder puts into its buffer.
-/

namespace SpanRollup

namespace Msgpack

variable {α β : Type}

/-- These bytes are read as `a`, and no fewer are. -/
def Shortest (select : Marker → Option (Reader α)) (bytes : List UInt8) (a : α) : Prop :=
  Opens select bytes a ∧ ∀ other, Opens select other a → bytes.length ≤ other.length

/-! ## What is read from all of an input -/

theorem exists_of_bind_pure {read : Reader α} {f : α → β} {input rest : List UInt8} {b : β}
    (h : (read >>= fun a => pure (f a)).run input = .ok (b, rest)) :
    ∃ a, read.run input = .ok (a, rest) ∧ f a = b := by
  rw [StateT.run_bind] at h
  obtain ⟨⟨a, left⟩, hread, hpure⟩ := bind_eq_ok h
  cases hpure
  exact ⟨a, hread, rfl⟩

/-- A number that takes up all of the input has as many bytes as it is wide. -/
theorem data_range {width n : Nat} {input : List UInt8}
    (h : (Reader.data width).run input = .ok (n, [])) :
    input.length = width ∧ n < 256 ^ width := by
  obtain ⟨bytes, htake, rfl⟩ := exists_of_bind_pure h
  rw [Reader.take_run] at htake
  split at htake
  · cases htake
  · rename_i hlen
    obtain ⟨rfl, hdrop⟩ := Prod.mk.inj (Except.ok.inj htake)
    have hlength : input.length = width :=
      Nat.le_antisymm (List.drop_eq_nil_iff.mp hdrop) (Nat.le_of_not_lt hlen)
    have hlt := ofBigEndian_lt (input.take width)
    rw [List.length_take, hlength, Nat.min_self] at hlt
    exact ⟨hlength, hlt⟩

/-- A number that `width` bytes hold with a sign or, if it is not negative, without one. -/
def FitsWidth (width : Nat) (n : Int) : Prop :=
  -(256 ^ width : Nat) ≤ 2 * n ∧ n < (256 ^ width : Nat)

theorem data_fits {width n : Nat} {input : List UInt8}
    (h : (Reader.data width).run input = .ok (n, [])) :
    input.length = width ∧ FitsWidth width n := by
  obtain ⟨hlength, hlt⟩ := data_range h
  exact ⟨hlength, by omega, by omega⟩

theorem signedData_fits {width : Nat} {n : Int} {input : List UInt8}
    (h : (Reader.signedData width).run input = .ok (n, [])) :
    input.length = width ∧ FitsWidth width n := by
  obtain ⟨m, hdata, rfl⟩ := exists_of_bind_pure h
  obtain ⟨hlength, hlt⟩ := data_range hdata
  have hpow : ((256 ^ width : Nat) : Int) = 256 ^ width := Int.natCast_pow 256 width
  refine ⟨hlength, ?_⟩
  unfold FitsWidth
  split <;> omega

/-! ## Markers -/

/-- The number in a marker is as small as the marker leaves room for. -/
def Marker.IsSmall : Marker → Prop
  | fixPos n => n < 128
  | fixNeg n => -32 ≤ n ∧ n < 0
  | fixMap len | fixArray len => len < 16
  | fixStr len => len < 32
  | _ => True

theorem ofByte_isSmall (byte : UInt8) : (Marker.ofByte byte).IsSmall := by
  have hbyte := byte.toNat_lt
  unfold Marker.ofByte
  dsimp only
  split
  · assumption
  split
  · exact (by omega : byte.toNat - 0x80 < 16)
  split
  · exact (by omega : byte.toNat - 0x90 < 16)
  split
  · exact (by omega : byte.toNat - 0xa0 < 32)
  split
  · exact (by omega : -32 ≤ (byte.toNat : Int) - 0x100 ∧ (byte.toNat : Int) - 0x100 < 0)
  split <;> trivial

/-! ## Lengths -/

namespace Token

/-- The narrowest marker with room comes first, so that no other one with room is narrower. -/
theorem length_encodeLength_le_of_mem {short fixed len : Nat} {marker : Nat × UInt8}
    {markers : List (Nat × UInt8)} (hsorted : markers.Pairwise fun m n => m.1 ≤ n.1)
    (hmem : marker ∈ markers) (hlen : len < 256 ^ marker.1) :
    (encodeLength short fixed markers len).length ≤ marker.1 + 1 := by
  unfold encodeLength
  split
  · simp
  cases hfind : markers.find? fun m => len < 256 ^ m.1 with
  | none => exact absurd hlen (by simpa using List.find?_eq_none.mp hfind _ hmem)
  | some m =>
    dsimp only
    rw [List.length_cons, bigEndian_length]
    obtain ⟨-, before, after, rfl, hbefore⟩ := List.find?_eq_some_iff_append.mp hfind
    refine Nat.succ_le_succ ?_
    rcases List.mem_append.mp hmem with hmem | hmem
    · exact absurd hlen (by simpa using hbefore _ hmem)
    rcases List.mem_cons.mp hmem with rfl | hmem
    · exact Nat.le_refl _
    · exact (List.pairwise_cons.mp (List.pairwise_append.mp hsorted).2.1).1 _ hmem

theorem length_encodeLength_of_lt {short len : Nat} (fixed : Nat) (markers : List (Nat × UInt8))
    (h : len < short) : (encodeLength short fixed markers len).length = 1 := by
  rw [encodeLength, if_pos h]
  rfl

end Token

section

variable {select : Marker → Option (Reader Nat)} {short fixed len : Nat}
  {markers : List (Nat × UInt8)}

/-- What is written for a length is the shortest if all forms that are read have either a small
number in their marker or one of the widths of the markers that are written. -/
theorem shortest_encodeLength (hsorted : markers.Pairwise fun m n => m.1 ≤ n.1)
    (hforms : ∀ m read, m.IsSmall → select m = some read →
      (∃ n < short, read = pure n) ∨ ∃ marker ∈ markers, read = Reader.data marker.1)
    (h : Opens select (Token.encodeLength short fixed markers len) len) :
    Shortest select (Token.encodeLength short fixed markers len) len := by
  refine ⟨h, fun other hother => ?_⟩
  obtain ⟨byte, data, read, rfl, hselect, hread⟩ := hother
  rcases hforms _ _ (ofByte_isSmall byte) hselect with ⟨n, hn, rfl⟩ | ⟨marker, hmarker, rfl⟩
  · obtain ⟨rfl, rfl⟩ := Prod.mk.inj (Except.ok.inj hread.run_eq)
    rw [Token.length_encodeLength_of_lt fixed markers hn]
    rfl
  · obtain ⟨hlength, hlt⟩ := data_range hread.run_eq
    rw [List.length_cons, hlength]
    exact Token.length_encodeLength_le_of_mem hsorted hmarker hlt

end

variable {len : Nat}

theorem shortest_strHeader (h : len < 2 ^ 32) :
    Shortest Reader.strLength? (Token.strHeader len) len := by
  refine shortest_encodeLength (by decide) (fun m read hsmall hread => ?_) (opens_strHeader h)
  unfold Reader.strLength? at hread
  split at hread <;> cases hread
  · exact .inl ⟨_, hsmall, rfl⟩
  · exact .inr ⟨(1, 0xd9), by decide, rfl⟩
  · exact .inr ⟨(2, 0xda), by decide, rfl⟩
  · exact .inr ⟨(4, 0xdb), by decide, rfl⟩

theorem shortest_binHeader (h : len < 2 ^ 32) :
    Shortest Reader.binLength? (Token.binHeader len) len := by
  refine shortest_encodeLength (by decide) (fun m read _ hread => ?_) (opens_binHeader h)
  unfold Reader.binLength? at hread
  split at hread <;> cases hread
  · exact .inr ⟨(1, 0xc4), by decide, rfl⟩
  · exact .inr ⟨(2, 0xc5), by decide, rfl⟩
  · exact .inr ⟨(4, 0xc6), by decide, rfl⟩

theorem shortest_arrayHeader (h : len < 2 ^ 32) :
    Shortest Reader.arrayLength? (Token.arrayHeader len) len := by
  refine shortest_encodeLength (by decide) (fun m read hsmall hread => ?_) (opens_arrayHeader h)
  unfold Reader.arrayLength? at hread
  split at hread <;> cases hread
  · exact .inl ⟨_, hsmall, rfl⟩
  · exact .inr ⟨(2, 0xdc), by decide, rfl⟩
  · exact .inr ⟨(4, 0xdd), by decide, rfl⟩

theorem shortest_mapHeader (h : len < 2 ^ 32) :
    Shortest Reader.mapLength? (Token.mapHeader len) len := by
  refine shortest_encodeLength (by decide) (fun m read hsmall hread => ?_) (opens_mapHeader h)
  unfold Reader.mapLength? at hread
  split at hread <;> cases hread
  · exact .inl ⟨_, hsmall, rfl⟩
  · exact .inr ⟨(2, 0xde), by decide, rfl⟩
  · exact .inr ⟨(4, 0xdf), by decide, rfl⟩

/-! ## Numbers -/

theorem scalar_fits {read : Reader α} {f : α → Int} {width : Nat} {data : List UInt8} {n : Int}
    (hfits : ∀ {m}, read.run data = .ok (m, []) → data.length = width ∧ FitsWidth width (f m))
    (h : (read >>= fun m => pure (Reader.Scalar.int (f m))).run data = .ok (.int n, [])) :
    data.length = width ∧ FitsWidth width n := by
  obtain ⟨m, hm, heq⟩ := exists_of_bind_pure h
  cases heq
  exact hfits hm

/-- The range of the numbers that have a form of some length. -/
theorem int_range {bytes : List UInt8} {n : Int} (h : Opens Reader.scalarAfter? bytes (.int n)) :
    bytes.length = 1 ∧ -32 ≤ n ∧ n < 128 ∨
      ∃ width ∈ [1, 2, 4, 8], bytes.length = width + 1 ∧ FitsWidth width n := by
  obtain ⟨byte, data, read, rfl, hselect, hread⟩ := h
  have hsmall := ofByte_isSmall byte
  have hrun := hread.run_eq
  have wide {width : Nat} (hwidth : width ∈ [1, 2, 4, 8])
      (h : data.length = width ∧ FitsWidth width n) :
      ∃ width ∈ [1, 2, 4, 8], (byte :: data).length = width + 1 ∧ FitsWidth width n :=
    ⟨width, hwidth, by rw [List.length_cons, h.1], h.2⟩
  generalize Marker.ofByte byte = marker at hselect hsmall
  unfold Reader.scalarAfter? at hselect
  split at hselect <;> cases hselect
  · cases hrun
  · cases hrun
  · cases hrun
    exact .inl ⟨rfl, by omega, Int.ofNat_lt.mpr hsmall⟩
  · cases hrun
    exact .inl ⟨rfl, hsmall.1, hsmall.2.trans (by decide)⟩
  · exact .inr (wide (by decide) (scalar_fits data_fits hrun))
  · exact .inr (wide (by decide) (scalar_fits data_fits hrun))
  · exact .inr (wide (by decide) (scalar_fits data_fits hrun))
  · exact .inr (wide (by decide) (scalar_fits data_fits hrun))
  · exact .inr (wide (by decide) (scalar_fits signedData_fits hrun))
  · exact .inr (wide (by decide) (scalar_fits signedData_fits hrun))
  · exact .inr (wide (by decide) (scalar_fits signedData_fits hrun))
  · exact .inr (wide (by decide) (scalar_fits signedData_fits hrun))
  · obtain ⟨m, -, heq⟩ := exists_of_bind_pure hrun
    cases heq
  · obtain ⟨m, -, heq⟩ := exists_of_bind_pure hrun
    cases heq

namespace Token

/-- The forms of a negative number go by the sign bit of their width. -/
theorem length_encodeInt_of_neg {n : Int} (h : n < 0) :
    (encodeInt n).length =
      if -32 ≤ n then 1 else if -2 ^ 7 ≤ n then 2 else if -2 ^ 15 ≤ n then 3
      else if -2 ^ 31 ≤ n then 5 else 9 := by
  rw [encodeInt, if_neg (by omega)]
  split_ifs <;> rfl

theorem length_encodeInt_of_small {n : Int} (lo : -32 ≤ n) (hi : n < 128) :
    (encodeInt n).length = 1 := by
  by_cases h0 : 0 ≤ n
  · rw [encodeInt, if_pos h0]
    exact length_encodeLength_of_lt 0 _ (by omega)
  · rw [length_encodeInt_of_neg (by omega), if_pos lo]

theorem length_encodeInt_le_of_fits {n : Int} {width : Nat} (hwidth : width ∈ [1, 2, 4, 8])
    (h : FitsWidth width n) : (encodeInt n).length ≤ width + 1 := by
  obtain ⟨lo, hi⟩ := h
  by_cases h0 : 0 ≤ n
  · obtain ⟨marker, hmarker, rfl⟩ :
        ∃ m ∈ ([(1, 0xcc), (2, 0xcd), (4, 0xce), (8, 0xcf)] : List (Nat × UInt8)), m.1 = width :=
      List.mem_map.mp hwidth
    rw [encodeInt, if_pos h0]
    exact length_encodeLength_le_of_mem (by decide) hmarker (by omega)
  · rw [length_encodeInt_of_neg (by omega)]
    have hcases : width = 1 ∨ width = 2 ∨ width = 4 ∨ width = 8 := by simpa using hwidth
    rcases hcases with rfl | rfl | rfl | rfl <;> split_ifs <;> omega

end Token

/-- A number of 64 bits, with a sign or without one, is written in its shortest form. -/
theorem shortest_encodeInt {n : Int} (lo : -2 ^ 63 ≤ n) (hi : n < 2 ^ 64) :
    Shortest Reader.scalarAfter? (Token.encodeInt n) (.int n) := by
  refine ⟨opens_encodeInt lo hi, fun other hother => ?_⟩
  rcases int_range hother with ⟨hlength, hlo, hhi⟩ | ⟨width, hwidth, hlength, hfits⟩
  · rw [hlength, Token.length_encodeInt_of_small hlo hhi]
  · rw [hlength]
    exact Token.length_encodeInt_le_of_fits hwidth hfits

end Msgpack

namespace Payload

open Msgpack

/-- What is put down for some content is the shortest header for its length and then the content, if
32 bits hold the length. -/
def Announces (select : Marker → Option (Reader Nat)) (item : Item) (len : Nat)
    (content : List UInt8) (b : Buffer) : Prop :=
  if len < 2 ^ 32 then
    ∃ header, b.write item = .ok (b.put (header ++ content)) ∧ Shortest select header len
  else b.write item = .error (.tooLong len)

/-- An item is announced right if its token begins with the shortest header. -/
theorem announces_of_token {select : Marker → Option (Reader Nat)} {item : Item} {token : Token}
    {header : Nat → List UInt8} {len : Nat} {content : List UInt8} (b : Buffer)
    (htoken : item.token = Item.sized len token) (hencode : token.encode = header len ++ content)
    (hshortest : len < 2 ^ 32 → Shortest select (header len) len) :
    Announces select item len content b := by
  rw [Announces, Buffer.write_eq, htoken, Item.sized]
  by_cases hlen : len < 2 ^ 32
  · rw [if_pos hlen, if_pos hlen]
    exact ⟨header len, by rw [← hencode]; rfl, hshortest hlen⟩
  · rw [if_neg hlen, if_neg hlen]
    rfl

namespace Buffer

/-- Numbers and lengths are put down in their shortest forms. A number that is not negative has the
same form with a sign as without one, and a length that 32 bits do not hold is refused. -/
theorem write_shortest (b : Buffer) :
    (∀ n : Int64, ∃ bytes, b.write (.int n) = .ok (b.put bytes) ∧
        Shortest Reader.scalarAfter? bytes (.int n.toInt)) ∧
      (∀ n : UInt64, ∃ bytes, b.write (.uint n) = .ok (b.put bytes) ∧
        Shortest Reader.scalarAfter? bytes (.int n.toNat)) ∧
      (∀ n : Int64, 0 ≤ n → b.write (.int n) = b.write (.uint n.toUInt64)) ∧
      (∀ len, Announces Reader.mapLength? (.map len) len [] b) ∧
      (∀ len, Announces Reader.arrayLength? (.array len) len [] b) ∧
      (∀ bytes, Announces Reader.strLength? (.raw bytes) bytes.length bytes b) ∧
      ∀ bytes, Announces Reader.binLength? (.binary bytes) bytes.length bytes b := by
  refine ⟨fun n => ?_, fun n => ?_, fun n hn => ?_, fun len => ?_, fun len => ?_, fun bytes => ?_,
    fun bytes => ?_⟩
  · have hlt := n.toInt_lt
    exact ⟨_, write_eq b (.int n), shortest_encodeInt n.le_toInt (by omega)⟩
  · have hlt := n.toNat_lt
    exact ⟨_, write_eq b (.uint n), shortest_encodeInt (by omega) (by omega)⟩
  · have hnat : n.toInt = (n.toUInt64.toNat : Nat) := by
      rw [Int64.toNat_toUInt64_of_le hn]
      exact Int64.toInt_eq_toNatClampNeg hn
    rw [write_eq, write_eq, Item.token, Item.token, hnat]
  · exact announces_of_token b rfl (List.append_nil _).symm shortest_mapHeader
  · exact announces_of_token b rfl (List.append_nil _).symm shortest_arrayHeader
  · exact announces_of_token b rfl rfl shortest_strHeader
  · exact announces_of_token b rfl rfl shortest_binHeader

/-- The first number for which two bytes are not enough, with a sign as without one. -/
theorem write_shortest_three_bytes :
    empty.write (.int 256) = .ok (empty.put [0xcd, 0x01, 0x00]) ∧
      Shortest Reader.scalarAfter? [0xcd, 0x01, 0x00] (.int 256) := by
  obtain ⟨-, huint, hsame, -⟩ := write_shortest empty
  have hwrite : empty.write (.uint 256) = .ok (empty.put [0xcd, 0x01, 0x00]) := rfl
  obtain ⟨bytes, hbytes, hshortest⟩ := huint 256
  have hput : empty.put bytes = empty.put [0xcd, 0x01, 0x00] :=
    Except.ok.inj (hbytes.symm.trans hwrite)
  obtain rfl : bytes = [0xcd, 0x01, 0x00] := by
    simpa [put, empty] using congrArg (·.pending.toList) hput
  exact ⟨(hsame 256 (by decide)).trans hwrite, hshortest⟩

end Buffer

end Payload

end SpanRollup
