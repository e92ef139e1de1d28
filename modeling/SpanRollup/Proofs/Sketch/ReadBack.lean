import SpanRollup.Proofs.Msgpack.Reads
import SpanRollup.Sketch.Codec

/-!
# Sketches read back

The reader of each record finds the record whose fields were written in its array form. Only the
bins ask for something: their number and their limit have to be numbers that can be written.
-/

namespace SpanRollup

open Msgpack

namespace Msgpack.Reads

variable {σ α : Type}

theorem enter {depth : Nat} (h : 1 < depth) : Reads (Reader.enter depth) [] (depth - 1) := by
  unfold Reader.enter
  rw [if_neg (by omega)]
  exact .pure _

/-! ### Records in array form -/

theorem recordElements_nil {expected : String} {done : Nat} {known : σ} :
    Reads (Reader.recordElements expected [] done 0 known) [] known := .pure known

theorem recordElements_cons {expected : String} {field : FieldReader σ}
    {fields : List (FieldReader σ)} {done left : Nat} {s t known : σ} {part rest : List UInt8}
    (hf : Reads (field.read s) part t)
    (hs : Reads (Reader.recordElements expected fields (done + 1) left t) rest known) :
    Reads (Reader.recordElements expected (field :: fields) done (left + 1) s) (part ++ rest)
      known := hf.bind hs

theorem record {name : String} {depth n : Nat} {fields : Nat → List (FieldReader σ)}
    {start : σ} {finish : σ → Option α} {content : List UInt8} {a : α} (known : σ)
    (hd : 1 < depth) (hn : n < 2 ^ 32)
    (h : ∀ expected,
      Reads (Reader.recordElements expected (fields (depth - 1)) 0 n start) content known)
    (hf : finish known = some a) :
    Reads (Reader.record name depth fields start finish) (Token.encode (.array n) ++ content)
      a := by
  obtain ⟨byte, data, read, he, hs, hr⟩ := opens_arrayHeader hn
  rw [Token.encode, he, List.cons_append]
  refine .marker_bind ?_
  rw [hs]
  refine hr.bind (.bind_nil (.enter hd) ?_)
  refine (h _).bind_last ?_
  simp only [hf]
  exact .pure a

/-! ### Sequences in array form -/

theorem elements {ι : Type} {read : Reader α} {part : ι → List UInt8} {f : ι → α} {is : List ι}
    (h : ∀ i ∈ is, Reads read (part i) (f i)) (done : Array α) :
    Reads (Reader.elements read is.length done) (is.flatMap part) (done ++ is.map f) := by
  induction is generalizing done with
  | nil => simpa [Reader.elements] using Reads.pure done
  | cons i is ih =>
    obtain ⟨hi, his⟩ := List.forall_mem_cons.mp h
    have : Reads (Reader.elements read (is.length + 1) done) (part i ++ is.flatMap part) _ :=
      hi.bind (ih his (done.push (f i)))
    simpa using this

theorem sequence {ι : Type} {read : Reader α} {part : ι → List UInt8} {f : ι → α} {is : List ι}
    {depth : Nat} (hd : 1 < depth) (hn : is.length < 2 ^ 32)
    (h : ∀ i ∈ is, Reads read (part i) (f i)) :
    Reads (Reader.sequence depth read) (Token.encode (.array is.length) ++ is.flatMap part)
      (is.map f).toArray := by
  obtain ⟨byte, data, len, he, hs, hr⟩ := opens_arrayHeader hn
  rw [Token.encode, he, List.cons_append]
  refine .marker_bind ?_
  rw [hs]
  exact hr.bind (.bind_nil (.enter hd) (by simpa using elements h #[]))

end Msgpack.Reads

/-! ## The records of a sketch -/

theorem Scale.reads (s : Scale) {depth : Nat} (hd : 1 < depth) :
    Reads (Scale.reader depth) (s.tokens.flatMap Token.encode) s := by
  simp only [Scale.tokens, List.flatMap_cons, List.flatMap_nil]
  refine .record ⟨s.maxBins, s.gamma, s.lnGamma, s.minValue, s.offset⟩ hd (by decide)
    (fun expected => ?_) rfl
  refine .recordElements_cons (.bind_pure (.uint32 _)) ?_
  refine .recordElements_cons (.bind_pure (.float _)) ?_
  refine .recordElements_cons (.bind_pure (.float _)) ?_
  refine .recordElements_cons (.bind_pure (.float _)) ?_
  refine .recordElements_cons (.bind_pure (.int32 _)) ?_
  exact .recordElements_nil

/-- Bins whose number and limit can be written. -/
structure Bins.Writable (b : Bins) : Prop where
  size_lt : b.counts.size < 2 ^ 32
  limit_lt : b.limit < 2 ^ 64

theorem Bins.reads {b : Bins} (hb : b.Writable) {depth : Nat} (hd : 2 < depth) :
    Reads (Bins.reader depth) (b.tokens.flatMap Token.encode) b := by
  have hcounts : Reads (Reader.sequence (depth - 1) Reader.uint64)
      (Token.encode (.array b.counts.size) ++
        b.counts.toList.flatMap fun n => Token.encode (.int n.toNat)) b.counts := by
    have hd : 1 < depth - 1 := by omega
    have hn : b.counts.toList.length < 2 ^ 32 := by simpa using hb.size_lt
    simpa using Reads.sequence (f := id) hd hn fun n _ => Reads.uint64 n
  simp only [Bins.tokens, List.cons_append, List.nil_append, List.flatMap_cons,
    List.flatMap_append, List.flatMap_map, List.flatMap_nil]
  rw [← List.append_assoc (Token.encode (.array b.counts.size))]
  refine .record ⟨b.counts, b.total, b.minKey, b.maxKey, b.offset, b.limit, b.collapsed⟩
    (by omega) (by decide) (fun expected => ?_) rfl
  refine .recordElements_cons (.bind_pure hcounts) ?_
  refine .recordElements_cons (.bind_pure (.uint64 _)) ?_
  refine .recordElements_cons (.bind_pure (.int32 _)) ?_
  refine .recordElements_cons (.bind_pure (.int32 _)) ?_
  refine .recordElements_cons (.bind_pure (.int32 _)) ?_
  refine .recordElements_cons (.bind_pure (.size hb.limit_lt)) ?_
  refine .recordElements_cons (.bind_pure (.bool _)) ?_
  exact .recordElements_nil

theorem Sketch.reads {s : Sketch} (hp : s.positive.Writable) (hn : s.negative.Writable)
    {depth : Nat} (hd : 3 < depth) :
    Reads (Sketch.reader depth) (s.tokens.flatMap Token.encode) s := by
  simp only [Sketch.tokens, List.cons_append, List.append_assoc, List.flatMap_cons,
    List.flatMap_append, List.flatMap_nil]
  refine .record ⟨s.scale, s.positive, s.negative, s.min, s.max, s.sum, s.zeros⟩ (by omega)
    (by decide) (fun expected => ?_) rfl
  refine .recordElements_cons (.bind_pure (s.scale.reads (by omega))) ?_
  refine .recordElements_cons (.bind_pure (Bins.reads hp (by omega))) ?_
  refine .recordElements_cons (.bind_pure (Bins.reads hn (by omega))) ?_
  refine .recordElements_cons (.bind_pure (.float _)) ?_
  refine .recordElements_cons (.bind_pure (.float _)) ?_
  refine .recordElements_cons (.bind_pure (.float _)) ?_
  refine .recordElements_cons (.bind_pure (.uint64 _)) ?_
  exact .recordElements_nil

end SpanRollup
