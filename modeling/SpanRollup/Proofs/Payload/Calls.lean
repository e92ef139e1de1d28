import Mathlib
import SpanRollup.Proofs.Payload.Encoding

/-!
# What the calls of an encoder put down

An encoder puts down an item part by part, but all its checks come before the first part, so a call
that fails leaves the buffer as it was. Whatever is written, a single item or the items of a bucket,
is written by such calls.

- `Encoder.call_run`: an item is put down as one token, or not at all.
- `Encoder.callOrEmpty_of_writable`: with an empty text in place of one that has no bytes, it is put
  down as its bytes.
- `Buffer.writeAll_of_writable`: items that can be written are put down one after another.
- `Buffer.writeAll_of_not_writable`: they fail only for a length that 32 bits do not hold.
-/

namespace SpanRollup

/-! ## Text -/

theorem Text.isSingleByte_of_ascii {s : String} (h : ∀ c ∈ s.toList, c.toNat < 128) :
    IsSingleByte s := fun c hc => decide_eq_true ((h c hc).trans (by decide))

theorem Utf8.encode_eq_flatMap (s : String) :
    encode s = s.toList.flatMap String.utf8EncodeChar := by
  rw [encode, String.toUTF8, ← String.utf8Encode_toList, List.utf8Encode,
    List.toList_data_toByteArray]

/-- A character of ASCII is one byte in UTF-8 too. -/
theorem Utf8.encode_of_ascii {s : String} (h : ∀ c ∈ s.toList, c.toNat < 128) :
    encode s = Text.bytes s := by
  rw [encode_eq_flatMap, Text.bytes]
  generalize s.toList = cs at h
  induction cs with
  | nil => rfl
  | cons c cs ih =>
    obtain ⟨hc, hcs⟩ := List.forall_mem_cons.mp h
    have hbyte : String.utf8EncodeChar c = [UInt8.ofNat c.toNat] := if_pos (Nat.le_of_lt_succ hc)
    rw [List.flatMap_cons, hbyte, ih hcs, List.singleton_append, List.map_cons]

namespace Payload

open Msgpack

/-! ## Buffers -/

namespace Buffer

@[simp] theorem put_nil (b : Buffer) : b.put [] = b := by simp [put]

@[simp] theorem put_put (b : Buffer) (xs ys : List UInt8) :
    (b.put xs).put ys = b.put (xs ++ ys) := by
  simp only [put, mk.injEq, true_and, and_true]
  apply Array.ext'
  simp

/-- The first message to be completed in an empty buffer. -/
theorem mark_put_empty (bytes : List UInt8) :
    (empty.put bytes).mark = { complete := bytes.toArray, pending := #[], messages := 1 } := by
  simp only [mark, put, empty, mk.injEq, and_true, Nat.zero_add]
  apply Array.ext'
  simp

end Buffer

/-! ## Calls -/

namespace Encoder

/-- What a call does to the buffer that puts down a token as a whole or not at all. -/
def outcome (token : Except EncodeError Token) (b : Buffer) :
    EStateM.Result EncodeError Buffer Unit :=
  match token with
  | .ok token => .ok () (b.put token.encode)
  | .error e => .error e b

theorem length_run (len : Nat) (b : Buffer) :
    (length len).run b = if len < 2 ^ 32 then .ok len b else .error (.tooLong len) b := by
  unfold length
  split <;> rfl

theorem put_run (bytes : List UInt8) (b : Buffer) : (put bytes).run b = .ok () (b.put bytes) := rfl

/-- The length is looked at before anything is put down. -/
theorem header_run {header : Nat → List UInt8} {len : Nat} {token : Token}
    (h : token.encode = header len) (b : Buffer) :
    (do put (header (← length len)) : Encoder Unit).run b = outcome (Item.sized len token) b := by
  rw [EStateM.run_bind, length_run, Item.sized]
  by_cases hlen : len < 2 ^ 32
  · rw [if_pos hlen, if_pos hlen, outcome, h]
    exact put_run _ b
  · rw [if_neg hlen, if_neg hlen]
    rfl

theorem announced_run {header : Nat → List UInt8} {content : List UInt8} {token : Token}
    (h : token.encode = header content.length ++ content) (b : Buffer) :
    (announced header content).run b = outcome (Item.sized content.length token) b := by
  rw [announced, EStateM.run_bind, length_run, Item.sized]
  by_cases hlen : content.length < 2 ^ 32
  · rw [if_pos hlen, if_pos hlen, outcome, h, ← Buffer.put_put]
    rfl
  · rw [if_neg hlen, if_neg hlen]
    rfl

/-- Both ways to put down a text come to the same. -/
theorem text_run (s : String) (b : Buffer) : (text s).run b = outcome (Item.text s).token b := by
  unfold text
  split
  · rename_i h
    have hascii : ∀ c ∈ s.toList, c.toNat < 128 := by simpa using h
    rw [Utf8.encode_of_ascii hascii,
      Item.token_text_of_isSingleByte (Text.isSingleByte_of_ascii hascii)]
    exact announced_run rfl b
  · rw [Item.token_text]
    cases Text.latin1 s.toList with
    | ok bytes => exact announced_run rfl b
    | error found => rfl

/-- An item is put down as its token, or not at all. -/
theorem call_run (item : Item) (b : Buffer) : (call item).run b = outcome item.token b := by
  cases item with
  | map len => exact header_run rfl b
  | array len => exact header_run rfl b
  | raw bytes => exact announced_run rfl b
  | text s => exact text_run s b
  | int n => rfl
  | uint n => rfl
  | float x => rfl
  | binary bytes => exact announced_run rfl b

/-! ### Calls that may replace a text -/

theorem callOrEmpty_of_token {item : Item} {token : Token} (h : item.token = .ok token)
    (b : Buffer) : (callOrEmpty item).run b = .ok [] (b.put token.encode) := by
  rw [callOrEmpty, EStateM.run_tryCatch, EStateM.run_bind, call_run, h]
  rfl

theorem callOrEmpty_of_tooLong {item : Item} {len : Nat} (h : item.token = .error (.tooLong len))
    (b : Buffer) : (callOrEmpty item).run b = .error (.tooLong len) b := by
  rw [callOrEmpty, EStateM.run_tryCatch, EStateM.run_bind, call_run, h]
  cases item <;> rfl

/-- The call that has failed has put nothing down, so the empty text stands in the place of the
other one. -/
theorem callOrEmpty_of_unencodable {s : String} {c : Char} {offset : Nat}
    (h : (Item.text s).token = .error (.unencodable c offset)) (b : Buffer) :
    (callOrEmpty (.text s)).run b =
      .ok [.substituted s (.unencodable c offset)] (b.put (Token.encode (.str []))) := by
  rw [callOrEmpty, EStateM.run_tryCatch, EStateM.run_bind, call_run, h]
  dsimp only [outcome]
  rw [EStateM.run_bind, call_run]
  rfl

theorem callOrEmpty_of_writable {item : Item} (h : item.IsWritable) (b : Buffer) :
    (callOrEmpty item).run b = .ok item.notices (b.put item.bytes) := by
  rcases item.token_cases with ⟨t, ht⟩ | ⟨len, ht⟩ | ⟨s, c, offset, rfl, ht⟩
  · obtain ⟨hw, hn⟩ := Item.written_of_token_ok ht
    rw [callOrEmpty_of_token ht, Item.bytes_of_written hw, hn]
  · obtain ⟨t, h⟩ := h
    rw [Item.written_of_tooLong ht] at h
    cases h
  · obtain ⟨hw, hn⟩ := Item.written_of_unencodable ht
    rw [callOrEmpty_of_unencodable ht, Item.bytes_of_written hw, hn]

theorem callOrEmpty_of_not_writable {item : Item} (h : ¬item.IsWritable) (b : Buffer) :
    ∃ len, (callOrEmpty item).run b = .error (.tooLong len) b := by
  rcases item.token_cases with ⟨t, ht⟩ | ⟨len, ht⟩ | ⟨s, c, offset, rfl, ht⟩
  · exact absurd ⟨t, (Item.written_of_token_ok ht).1⟩ h
  · exact ⟨len, callOrEmpty_of_tooLong ht b⟩
  · exact absurd ⟨_, (Item.written_of_unencodable ht).1⟩ h

end Encoder

theorem Buffer.write_eq (b : Buffer) (item : Item) :
    b.write item = item.token.map fun token => b.put token.encode := by
  rw [write, Encoder.call_run]
  cases item.token <;> rfl

/-! ## Items one after another -/

namespace Buffer

theorem writeAll_cons_of_writable {item : Item} (h : item.IsWritable) (b : Buffer)
    (rest : List Item) :
    b.writeAll (item :: rest) =
      { (b.put item.bytes).writeAll rest with
        events := item.notices ++ ((b.put item.bytes).writeAll rest).events } := by
  rw [writeAll, Encoder.callOrEmpty_of_writable h]

theorem writeAll_cons_of_not_writable {item : Item} (h : ¬item.IsWritable) (b : Buffer)
    (rest : List Item) :
    ∃ len, b.writeAll (item :: rest) = ⟨b, .error (.tooLong len), []⟩ := by
  obtain ⟨len, hrun⟩ := Encoder.callOrEmpty_of_not_writable h b
  exact ⟨len, by rw [writeAll, hrun]⟩

/-- Items that can be written are put down as their bytes, whatever comes after them. -/
theorem writeAll_append_of_writable {items : List Item} (h : ∀ item ∈ items, item.IsWritable)
    (b : Buffer) (rest : List Item) :
    b.writeAll (items ++ rest) =
      { (b.put (items.flatMap Item.bytes)).writeAll rest with
        events := items.flatMap Item.notices ++
          ((b.put (items.flatMap Item.bytes)).writeAll rest).events } := by
  induction items generalizing b with
  | nil => simp
  | cons item items ih =>
    obtain ⟨hi, hr⟩ := List.forall_mem_cons.mp h
    simp only [List.cons_append, writeAll_cons_of_writable hi, ih hr, put_put, List.flatMap_cons,
      List.append_assoc]

theorem writeAll_of_writable {items : List Item} (h : ∀ item ∈ items, item.IsWritable)
    (b : Buffer) :
    b.writeAll items =
      ⟨b.put (items.flatMap Item.bytes), .ok (), items.flatMap Item.notices⟩ := by
  have := writeAll_append_of_writable h b []
  rwa [List.append_nil, writeAll, List.append_nil] at this

/-- An item that cannot be written makes all of them fail, after the texts before it may have been
replaced. -/
theorem writeAll_of_not_writable {items : List Item} (h : ¬∀ item ∈ items, item.IsWritable)
    (b : Buffer) :
    ∃ buffer len, ∃ done : List Item, b.writeAll items =
      ⟨buffer, .error (.tooLong len), done.flatMap Item.notices⟩ := by
  induction items generalizing b with
  | nil => simp at h
  | cons item rest ih =>
    by_cases hi : item.IsWritable
    · obtain ⟨buffer, len, done, he⟩ := ih (fun hr => h (List.forall_mem_cons.mpr ⟨hi, hr⟩))
        (b.put item.bytes)
      refine ⟨buffer, len, item :: done, ?_⟩
      simp only [writeAll_cons_of_writable hi, he, List.flatMap_cons]
    · obtain ⟨len, he⟩ := writeAll_cons_of_not_writable hi b rest
      exact ⟨b, len, [], he⟩

end Buffer

end Payload

end SpanRollup
