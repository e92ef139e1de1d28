import Mathlib
import SpanRollup.Proofs.Msgpack.Value

/-!
# Streams of MessagePack

Tokens written one after another need no separators. `Piece.readAll` reads a stream to its end,
whatever it consists of; `readAll_tokens` says that it finds the tokens that were written, and
`encodeAll_injective` that no other tokens have the same bytes.
-/

namespace SpanRollup.Msgpack

/-- What a stream consists of. Of an array or a map only the header is a piece; its elements are the
pieces behind it. -/
inductive Piece where
  | scalar (s : Reader.Scalar)
  | str (bytes : List UInt8)
  | bin (bytes : List UInt8)
  | array (len : Nat)
  | map (len : Nat)
  | ext (kind : Nat) (bytes : List UInt8)
  deriving DecidableEq, Repr

namespace Piece

def reader : Reader Piece := do
  match ← Lead.reader with
  | .scalar s => return .scalar s
  | .str len => return .str (← Reader.bytes len)
  | .bin len => return .bin (← Reader.bytes len)
  | .array len => return .array len
  | .map len => return .map len
  | .ext len =>
    let kind ← Reader.data 1
    return .ext kind (← Reader.bytes len)

/-- The pieces that an input consists of, if they make up all of it. No piece is without bytes. -/
def readAll (input : List UInt8) : Option (List Piece) :=
  if input = [] then some []
  else
    match reader.run input with
    | .ok (piece, rest) =>
      if rest.length < input.length then (readAll rest).map (piece :: ·) else none
    | .error _ => none
termination_by input.length

theorem ne_nil_of_reads {bytes : List UInt8} {piece : Piece} (h : Reads reader bytes piece) :
    bytes ≠ [] := by
  rintro rfl
  cases h []

theorem readAll_append {bytes : List UInt8} {piece : Piece} (h : Reads reader bytes piece)
    (rest : List UInt8) : readAll (bytes ++ rest) = (readAll rest).map (piece :: ·) := by
  have hne := ne_nil_of_reads h
  have hlen : rest.length < (bytes ++ rest).length := by
    rw [List.length_append]
    exact Nat.lt_add_of_pos_left (List.length_pos_iff.mpr hne)
  rw [readAll, if_neg (by simp [hne]), h rest]
  exact if_pos hlen

theorem readAll_flatMap {ι : Type} {part : ι → List UInt8} {f : ι → Piece} {is : List ι}
    (h : ∀ i ∈ is, Reads reader (part i) (f i)) : readAll (is.flatMap part) = some (is.map f) := by
  induction is with
  | nil => rw [List.flatMap_nil, readAll, if_pos rfl, List.map_nil]
  | cons i is ih =>
    obtain ⟨hi, his⟩ := List.forall_mem_cons.mp h
    rw [List.flatMap_cons, readAll_append hi, ih his, Option.map_some, List.map_cons]

end Piece

namespace Token

/-- The piece that is read where a token was written. -/
def piece : Token → Piece
  | bool b => .scalar (.bool b)
  | int n => .scalar (.int n)
  | float x => .scalar (.float x)
  | str bytes => .str bytes
  | bin bytes => .bin bytes
  | array len => .array len
  | map len => .map len

theorem piece_injective : Function.Injective piece := by
  intro t u h
  cases t <;> cases u <;> cases h <;> rfl

/-- A token whose number has 64 bits, or whose length has 32. -/
def IsEncodable : Token → Prop
  | bool _ | float _ => True
  | int n => -2 ^ 63 ≤ n ∧ n < 2 ^ 64
  | str bytes | bin bytes => bytes.length < 2 ^ 32
  | array len | map len => len < 2 ^ 32

theorem reads_piece {t : Token} (h : t.IsEncodable) : Reads Piece.reader t.encode t.piece := by
  cases t with
  | bool b => exact (Lead.reads_scalar (opens_bool b)).bind_last (.pure _)
  | int n => exact (Lead.reads_scalar (opens_encodeInt h.1 h.2)).bind_last (.pure _)
  | float x => exact (Lead.reads_scalar (opens_float x)).bind_last (.pure _)
  | str bytes => exact (Lead.reads_str h).bind (Reads.bytes rfl).bind_pure
  | bin bytes => exact (Lead.reads_bin h).bind (Reads.bytes rfl).bind_pure
  | array len => exact (Lead.reads_array h).bind_last (.pure _)
  | map len => exact (Lead.reads_map h).bind_last (.pure _)

/-- What was written as tokens is read as these tokens, with nothing left over. -/
theorem readAll_tokens {ts : List Token} (h : ∀ t ∈ ts, t.IsEncodable) :
    Piece.readAll (ts.flatMap encode) = some (ts.map piece) :=
  Piece.readAll_flatMap fun t ht => reads_piece (h t ht)

theorem encodeAll_injective {ts us : List Token} (ht : ∀ t ∈ ts, t.IsEncodable)
    (hu : ∀ u ∈ us, u.IsEncodable) (h : ts.flatMap encode = us.flatMap encode) : ts = us := by
  have hread := readAll_tokens ht
  rw [h, readAll_tokens hu] at hread
  exact (piece_injective.list_map (Option.some.inj hread)).symm

end Token

end SpanRollup.Msgpack
