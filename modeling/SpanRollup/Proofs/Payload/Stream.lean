import Mathlib
import SpanRollup.Proofs.Msgpack.Stream
import SpanRollup.Proofs.Payload.Calls

/-!
# What an encoder has written

A call of an encoder puts down a whole token or nothing, so the buffer can be told from what the
encoder was asked to do: it holds the tokens that were written since the last reset, and those
before the last mark are complete.

- `Buffer.serveAll_holds`: what the buffer holds after some requests.
- `Buffer.serveAll_stream`: what is complete is read as the tokens that were written.
-/

namespace SpanRollup

namespace Payload

open Msgpack

theorem Item.token_isEncodable {item : Item} {token : Token} (h : item.token = .ok token) :
    token.IsEncodable := by
  have of_sized {len : Nat} {t : Token} (ht : len < 2 ^ 32 → t.IsEncodable)
      (hs : sized len t = .ok token) : token.IsEncodable := by
    unfold sized at hs
    split at hs
    · cases hs
      exact ht ‹_›
    · cases hs
  cases item with
  | map len => exact of_sized id h
  | array len => exact of_sized id h
  | raw bytes => exact of_sized id h
  | text s =>
    rcases isSingleByte_or_unencodable s with hs | ⟨c, offset, he⟩
    · rw [token_text_of_isSingleByte hs] at h
      exact of_sized id h
    · rw [he] at h
      cases h
  | int n =>
    cases h
    have := n.toInt_lt
    exact ⟨n.le_toInt, by omega⟩
  | uint n =>
    cases h
    have := n.toNat_lt
    exact ⟨by omega, by omega⟩
  | float x =>
    cases h
    trivial
  | binary bytes => exact of_sized id h

/-! ## Requests -/

/-- What an encoder can be asked to do. -/
inductive Request where
  | write (item : Item)
  | mark
  | reset
  deriving DecidableEq

namespace Request

/-- The token that is written, if any. -/
def token? : Request → Option Token
  | write item => item.token.toOption
  | mark | reset => none

/-- The tokens that are written. -/
def tokens (requests : List Request) : List Token := requests.filterMap token?

/-- The requests after the last reset. -/
def sinceReset (requests : List Request) : List Request := requests.rtakeWhile (· ≠ reset)

/-- The requests up to the last mark. -/
def untilMark (requests : List Request) : List Request := requests.rdropWhile (· ≠ mark)

/-- The requests after the last mark. -/
def sinceMark (requests : List Request) : List Request := requests.rtakeWhile (· ≠ mark)

theorem untilMark_append_sinceMark (requests : List Request) :
    untilMark requests ++ sinceMark requests = requests := List.rdropWhile_append_rtakeWhile

theorem tokens_append (requests others : List Request) :
    tokens (requests ++ others) = tokens requests ++ tokens others := List.filterMap_append

theorem tokens_isEncodable {requests : List Request} : ∀ t ∈ tokens requests, t.IsEncodable := by
  intro t ht
  obtain ⟨request, -, htoken⟩ := List.mem_filterMap.mp ht
  cases request with
  | write item =>
    change item.token.toOption = some t at htoken
    cases hitem : item.token with
    | ok token =>
      rw [hitem] at htoken
      cases htoken
      exact Item.token_isEncodable hitem
    | error e =>
      rw [hitem] at htoken
      cases htoken
  | mark => cases htoken
  | reset => cases htoken

end Request

namespace Buffer

open Request

/-- The buffer after a request, which may have failed. -/
def serve (b : Buffer) : Request → Buffer
  | .write item =>
    match (Encoder.call item).run b with
    | .ok _ b => b
    | .error _ b => b
  | .mark => b.mark
  | .reset => .empty

def serveAll (b : Buffer) (requests : List Request) : Buffer := requests.foldl serve b

/-- What the buffer holds after some requests without a reset. -/
structure Holds (requests : List Request) (b : Buffer) : Prop where
  complete : b.complete.toList = (tokens (untilMark requests)).flatMap Token.encode
  pending : b.pending.toList = (tokens (sinceMark requests)).flatMap Token.encode
  messages : b.messages = requests.count .mark

variable {requests : List Request} {b : Buffer}

theorem serve_write (b : Buffer) (item : Item) :
    b.serve (.write item) =
      match item.token with
      | .ok token => b.put token.encode
      | .error _ => b := by
  rw [serve, Encoder.call_run]
  cases item.token <;> rfl

theorem holds_empty : Holds [] empty := ⟨rfl, rfl, rfl⟩

theorem Holds.write (h : Holds requests b) (item : Item) :
    Holds (requests ++ [.write item]) (b.serve (.write item)) := by
  have huntil : untilMark (requests ++ [.write item]) = untilMark requests :=
    List.rdropWhile_concat_pos _ _ _ (by simp)
  have hsince : sinceMark (requests ++ [.write item]) = sinceMark requests ++ [.write item] :=
    List.rtakeWhile_concat_pos _ _ _ (by simp)
  have hmessages :
      (requests ++ [Request.write item]).count Request.mark = requests.count Request.mark := by
    rw [List.count_append]
    rfl
  have hkept : (b.serve (.write item)).complete = b.complete ∧
      (b.serve (.write item)).messages = b.messages := by
    rw [serve_write]
    cases item.token <;> exact ⟨rfl, rfl⟩
  refine ⟨by rw [hkept.1, huntil]; exact h.complete, ?_,
    by rw [hkept.2, hmessages]; exact h.messages⟩
  rw [hsince, tokens_append, List.flatMap_append, ← h.pending, serve_write]
  cases hitem : item.token with
  | ok token => simp [put, tokens, token?, hitem, Except.toOption]
  | error e => simp [tokens, token?, hitem, Except.toOption]

/-- What was pending becomes complete, behind what was so before. -/
theorem Holds.mark (h : Holds requests b) : Holds (requests ++ [.mark]) (b.serve .mark) := by
  have huntil : untilMark (requests ++ [.mark]) = requests ++ [.mark] :=
    List.rdropWhile_concat_neg _ _ _ (by simp)
  have hsince : sinceMark (requests ++ [.mark]) = [] :=
    List.rtakeWhile_concat_neg _ _ _ (by simp)
  have htokens : tokens (requests ++ [.mark]) =
      tokens (untilMark requests) ++ tokens (sinceMark requests) := by
    rw [← tokens_append, untilMark_append_sinceMark, tokens_append]
    exact List.append_nil _
  refine ⟨?_, by rw [hsince]; rfl, ?_⟩
  · rw [huntil, htokens, List.flatMap_append, ← h.complete, ← h.pending]
    exact Array.toList_append
  · rw [List.count_append, ← h.messages]
    rfl

theorem serveAll_concat (b : Buffer) (requests : List Request) (request : Request) :
    b.serveAll (requests ++ [request]) = (b.serveAll requests).serve request := by
  rw [serveAll, List.foldl_append]
  rfl

/-- Nothing is left of the requests before the last reset. -/
theorem serveAll_holds (requests : List Request) :
    Holds (sinceReset requests) (empty.serveAll requests) := by
  induction requests using List.reverseRecOn with
  | nil => exact holds_empty
  | append_singleton requests request ih =>
    rw [serveAll_concat, sinceReset, List.rtakeWhile_concat]
    cases request with
    | write item => exact ih.write item
    | mark => exact ih.mark
    | reset => exact holds_empty

theorem Holds.size_eq (h : Holds requests b) :
    b.size = ((tokens requests).flatMap Token.encode).length := by
  rw [← untilMark_append_sinceMark requests, tokens_append, List.flatMap_append, ← h.complete,
    ← h.pending, List.length_append]
  rfl

/-- The complete part of the buffer is the tokens that were written since the last reset and before
the last mark, and nothing else is read from it. A call that fails leaves the buffer as it was. -/
theorem serveAll_stream {capacity : Nat} {b : Buffer} (hb : ofCapacity? capacity = some b)
    (requests : List Request) :
    let e := b.serveAll requests
    let marked := tokens (untilMark (sinceReset requests))
    e.complete.toList = marked.flatMap Token.encode ∧
      Piece.readAll e.complete.toList = some (marked.map Token.piece) ∧
      e.messages = (sinceReset requests).count .mark ∧
      e.size = ((tokens (sinceReset requests)).flatMap Token.encode).length ∧
      (∀ item, (Encoder.call item).run e =
        match item.token with
        | .ok token => .ok () (e.put token.encode)
        | .error error => .error error e) ∧
      ∀ others, (b.serveAll others).complete = e.complete →
        tokens (untilMark (sinceReset others)) = marked := by
  intro e marked
  obtain rfl : b = empty := by
    unfold ofCapacity? at hb
    split at hb
    · exact (Option.some.inj hb).symm
    · cases hb
  have hholds := serveAll_holds requests
  refine ⟨hholds.complete, ?_, hholds.messages, hholds.size_eq, fun item => ?_,
    fun others heq => ?_⟩
  · rw [hholds.complete]
    exact Token.readAll_tokens tokens_isEncodable
  · exact Encoder.call_run item e
  · refine Token.encodeAll_injective tokens_isEncodable tokens_isEncodable ?_
    rw [← (serveAll_holds others).complete, heq]
    exact hholds.complete

/-- A reset, a text that cannot be written, and an item after the last mark. -/
theorem serveAll_stream_refused :
    let requests : List Request :=
      [.write (.int 5), .mark, .reset, .write (.map 1), .write (.text "a"), .write (.text "€"),
        .write (.int (-7)), .mark, .write (.uint 300)]
    let e := empty.serveAll requests
    ofCapacity? 16 = some empty ∧ e.complete.toList = [0x81, 0xa1, 0x61, 0xf9] ∧
      Piece.readAll e.complete.toList = some [.map 1, .str [0x61], .scalar (.int (-7))] ∧
      e.messages = 1 ∧ e.size = 7 := by
  intro requests e
  have hcapacity : ofCapacity? 16 = some empty := rfl
  have hsince : sinceReset requests = requests.drop 3 := by decide +kernel
  have hmarked : tokens (untilMark (sinceReset requests)) = [.map 1, .str [0x61], .int (-7)] := by
    decide +kernel
  obtain ⟨hcomplete, hread, hmessages, hsize, -⟩ := serveAll_stream hcapacity requests
  rw [hmarked] at hcomplete hread
  rw [hsince] at hmessages hsize
  refine ⟨hcapacity, hcomplete.trans (by decide), hread, hmessages, hsize.trans (by decide +kernel)⟩

end Buffer

end Payload

end SpanRollup
