import Mathlib
import SpanRollup.Payload.Writer
import SpanRollup.Proofs.Health

/-!
# What is written for items

`Item.bytes` is what the buffer takes for an item, where an empty text stands for one that has no
bytes. Main statements: `Item.token_cases`, the ways to have no token; `Health.ofEvents_notices`,
every text that was replaced is counted once.
-/

namespace SpanRollup

namespace Text

/-- A text of characters that have bytes. -/
def IsSingleByte (s : String) : Prop := ∀ c ∈ s.toList, fitsByte c = true

instance (s : String) : Decidable (IsSingleByte s) :=
  List.decidableBAll (fun c => fitsByte c = true) s.toList

/-- The characters of a text as bytes. -/
def bytes (s : String) : List UInt8 := s.toList.map fun c => UInt8.ofNat c.toNat

/-- The text itself if it has bytes, and else an empty one. -/
def sanitized (s : String) : String := if IsSingleByte s then s else ""

theorem latin1_of_isSingleByte {s : String} (h : IsSingleByte s) :
    latin1 s.toList = .ok (bytes s) := by
  simp only [latin1, List.dropWhile_eq_nil_iff.mpr h, bytes]

theorem latin1_of_not_isSingleByte {s : String} (h : ¬IsSingleByte s) :
    ∃ c offset, latin1 s.toList = .error (c, offset) := by
  unfold latin1
  cases hd : s.toList.dropWhile fitsByte with
  | nil => exact absurd (List.dropWhile_eq_nil_iff.mp hd) h
  | cons c cs => exact ⟨_, _, rfl⟩

theorem sanitized_isSingleByte (s : String) : IsSingleByte (sanitized s) := by
  unfold sanitized
  split
  · assumption
  · simp [IsSingleByte]

theorem sanitized_of_isSingleByte {s : String} (h : IsSingleByte s) : sanitized s = s := if_pos h

end Text

namespace Payload

open Msgpack

namespace Item

/-- The item that is written. -/
def sanitized : Item → Item
  | text s => text (Text.sanitized s)
  | item => item

/-- The token that is written, unless a length is too long for it. -/
def written (item : Item) : Except EncodeError Token := item.sanitized.token

def IsWritable (item : Item) : Prop := ∃ token, item.written = .ok token

def bytes (item : Item) : List UInt8 :=
  match item.written with
  | .ok token => token.encode
  | .error _ => []

/-- What is reported when the item is written. -/
def notices : Item → List Event
  | text s =>
    match (text s).token with
    | .error (.unencodable c offset) => [.substituted s (.unencodable c offset)]
    | _ => []
  | _ => []

theorem bytes_of_written {item : Item} {token : Token} (h : item.written = .ok token) :
    item.bytes = token.encode := by
  simp only [bytes, h]

theorem sized_eq (len : Nat) (token : Token) :
    sized len token = .ok token ∨ sized len token = .error (.tooLong len) := by
  unfold sized
  split
  · exact .inl rfl
  · exact .inr rfl

theorem token_text (s : String) :
    (text s).token =
      match Text.latin1 s.toList with
      | .ok bytes => sized bytes.length (.str bytes)
      | .error (c, offset) => .error (.unencodable c offset) := rfl

theorem token_text_of_isSingleByte {s : String} (h : Text.IsSingleByte s) :
    (text s).token = sized (Text.bytes s).length (.str (Text.bytes s)) := by
  rw [token_text, Text.latin1_of_isSingleByte h]

theorem isSingleByte_or_unencodable (s : String) :
    Text.IsSingleByte s ∨ ∃ c offset, (text s).token = .error (.unencodable c offset) := by
  by_cases h : Text.IsSingleByte s
  · exact .inl h
  · obtain ⟨c, offset, h⟩ := Text.latin1_of_not_isSingleByte h
    exact .inr ⟨c, offset, by rw [token_text, h]⟩

/-- Only a text can have a character without a byte. -/
theorem token_cases (item : Item) :
    (∃ token, item.token = .ok token) ∨ (∃ len, item.token = .error (.tooLong len)) ∨
      ∃ s c offset, item = text s ∧ item.token = .error (.unencodable c offset) := by
  have of_sized (len : Nat) (token : Token) :
      (∃ t, sized len token = .ok t) ∨ (∃ n, sized len token = .error (.tooLong n)) ∨
        ∃ s c offset, item = text s ∧ sized len token = .error (.unencodable c offset) := by
    rcases sized_eq len token with h | h
    · exact .inl ⟨_, h⟩
    · exact .inr (.inl ⟨_, h⟩)
  cases item with
  | map len => exact of_sized _ _
  | array len => exact of_sized _ _
  | raw bytes => exact of_sized _ _
  | text s =>
    rcases isSingleByte_or_unencodable s with h | ⟨c, offset, h⟩
    · rw [token_text_of_isSingleByte h]
      exact of_sized _ _
    · exact .inr (.inr ⟨s, c, offset, rfl, h⟩)
  | int n => exact .inl ⟨_, rfl⟩
  | uint n => exact .inl ⟨_, rfl⟩
  | float x => exact .inl ⟨_, rfl⟩
  | binary bytes => exact of_sized _ _

theorem written_text (s : String) :
    (text s).written =
      sized (Text.bytes (Text.sanitized s)).length (.str (Text.bytes (Text.sanitized s))) :=
  token_text_of_isSingleByte (Text.sanitized_isSingleByte s)

/-- An item that has a token is written as it. -/
theorem written_of_token_ok {item : Item} {t : Token} (h : item.token = .ok t) :
    item.written = .ok t ∧ item.notices = [] := by
  cases item with
  | text s =>
    rcases isSingleByte_or_unencodable s with hs | ⟨c, offset, he⟩
    · simp only [notices, written, sanitized, Text.sanitized_of_isSingleByte hs, h, and_self]
    · rw [he] at h
      cases h
  | _ => exact ⟨h, rfl⟩

theorem written_of_tooLong {item : Item} {len : Nat} (h : item.token = .error (.tooLong len)) :
    item.written = .error (.tooLong len) := by
  cases item with
  | text s =>
    rcases isSingleByte_or_unencodable s with hs | ⟨c, offset, he⟩
    · simp only [written, sanitized, Text.sanitized_of_isSingleByte hs, h]
    · rw [he] at h
      cases h
  | _ => exact h

theorem not_isSingleByte_of_unencodable {s : String} {c : Char} {offset : Nat}
    (h : (text s).token = .error (.unencodable c offset)) : ¬Text.IsSingleByte s := by
  intro hs
  rw [token_text_of_isSingleByte hs] at h
  rcases sized_eq (Text.bytes s).length (.str (Text.bytes s)) with he | he <;>
    · rw [he] at h
      cases h

theorem written_of_unencodable {s : String} {c : Char} {offset : Nat}
    (h : (text s).token = .error (.unencodable c offset)) :
    (text s).written = .ok (.str []) ∧
      (text s).notices = [.substituted s (.unencodable c offset)] := by
  refine ⟨?_, by simp only [notices, h]⟩
  rw [written_text, Text.sanitized, if_neg (not_isSingleByte_of_unencodable h)]
  rfl

instance (item : Item) : Decidable item.IsWritable :=
  match h : item.written with
  | .ok token => .isTrue ⟨token, h⟩
  | .error _ => .isFalse fun ⟨_, ht⟩ => by rw [h] at ht; cases ht

/-- Whether an empty text is written in its place. -/
def isReplaced : Item → Bool
  | text s => !decide (Text.IsSingleByte s)
  | _ => false

theorem notices_of_isSingleByte {s : String} (h : Text.IsSingleByte s) : (text s).notices = [] := by
  rcases sized_eq (Text.bytes s).length (.str (Text.bytes s)) with he | he <;>
    simp only [notices, token_text_of_isSingleByte h, he]

end Item

end Payload

/-! ## What is counted -/

namespace Health

open Payload

/-- A number of replaced texts. -/
def substituted (n : UInt64) : Health := { fieldSubstitutions := n }

theorem substituted_add (m n : UInt64) :
    substituted m + substituted n = substituted (m + n) := rfl

theorem ofEvents_item_notices (item : Item) :
    ofEvents item.notices = substituted (.ofNat (if item.isReplaced then 1 else 0)) := by
  cases item with
  | text s =>
    rcases Item.isSingleByte_or_unencodable s with h | ⟨c, offset, h⟩
    · rw [Item.notices_of_isSingleByte h]
      simp only [Item.isReplaced, h, decide_true, Bool.not_true, Bool.false_eq_true, if_false]
      rfl
    · have hs := Item.not_isSingleByte_of_unencodable h
      rw [(Item.written_of_unencodable h).2]
      simp only [Item.isReplaced, hs, decide_false, Bool.not_false, if_true]
      rfl
  | _ => rfl

/-- Writing items counts the texts that are replaced, and nothing else. -/
theorem ofEvents_notices (items : List Item) :
    ofEvents (items.flatMap Item.notices) =
      substituted (.ofNat (items.countP Item.isReplaced)) := by
  induction items with
  | nil => rfl
  | cons item items ih =>
    rw [List.flatMap_cons, ofEvents_append, ofEvents_item_notices, ih, substituted_add,
      List.countP_cons, UInt64.ofNat_add, UInt64.add_comm]

end Health

end SpanRollup
