import SpanRollup.Proofs.Payload.Stream
import SpanRollup.Proofs.Payload.WholeBucket

/-!
# Texts of single bytes

A text is put down with one byte for each of its characters, whose number its header tells. If a
character has no byte, the text is refused for the first such one, which is told with the place that
it has in the UTF-8 form of the text.

- `Text.latin1From`: the bytes of a text, found in one walk over its characters.
- `Encoder.text_eq_byCharacter`: ASCII is taken as it stands, which comes to the same as the walk.
- `Encoder.text_put_or_refused`: what becomes of a text.
-/

namespace SpanRollup

/-! ## Places in UTF-8 -/

namespace Utf8

theorem length_flatMap_utf8EncodeChar (cs : List Char) :
    (cs.flatMap String.utf8EncodeChar).length = (cs.map Char.utf8Size).sum := by
  simp only [List.length_flatMap, String.length_utf8EncodeChar]

/-- The sizes of some characters add up to the place of what stands behind them. -/
theorem drop_encode {s : String} {before after : List Char} (h : s.toList = before ++ after) :
    (encode s).drop (before.map Char.utf8Size).sum = encode (String.ofList after) := by
  rw [encode_eq_flatMap, encode_eq_flatMap, h, String.toList_ofList, List.flatMap_append]
  exact List.drop_left' (length_flatMap_utf8EncodeChar before)

end Utf8

/-! ## Characters with and without a byte -/

namespace Text

theorem fitsByte_iff {c : Char} : fitsByte c = true ↔ c.toNat ≤ 0xff := by
  rw [fitsByte, decide_eq_true_iff]
  omega

theorem fitsByte_eq_false_iff {c : Char} : fitsByte c = false ↔ 0xff < c.toNat := by
  rw [fitsByte, decide_eq_false_iff_not]
  omega

theorem isSingleByte_iff {s : String} : IsSingleByte s ↔ ∀ c ∈ s.toList, c.toNat ≤ 0xff :=
  forall₂_congr fun _ _ => fitsByte_iff

theorem length_lt_of_short {s : String} (h : s.utf8ByteSize < 2 ^ 32) : s.length < 2 ^ 32 :=
  Nat.lt_of_le_of_lt (length_le_utf8ByteSize s) h

theorem map_toNat_bytes {s : String} (h : IsSingleByte s) :
    (bytes s).map UInt8.toNat = s.toList.map Char.toNat := by
  rw [bytes, List.map_map]
  refine List.map_congr_left fun c hc => ?_
  have hle := fitsByte_iff.mp (h c hc)
  show (UInt8.ofNat c.toNat).toNat = c.toNat
  rw [UInt8.toNat_ofNat']
  omega

/-! ### One character after another -/

/-- The bytes of characters that stand behind `offset` bytes of UTF-8, or the first character
without a byte and its place. -/
def latin1From (offset : Nat) : List Char → Except (Char × Nat) (List UInt8)
  | [] => .ok []
  | c :: cs =>
    if fitsByte c then (latin1From (offset + c.utf8Size) cs).map (UInt8.ofNat c.toNat :: ·)
    else .error (c, offset)

theorem latin1_cons_of_fits {c : Char} (h : fitsByte c = true) (cs : List Char) :
    latin1 (c :: cs) =
      match latin1 cs with
      | .ok bytes => .ok (UInt8.ofNat c.toNat :: bytes)
      | .error (d, offset) => .error (d, c.utf8Size + offset) := by
  unfold latin1
  rw [List.dropWhile_cons_of_pos h, List.takeWhile_cons_of_pos h]
  cases cs.dropWhile fitsByte with
  | nil => rfl
  | cons d ds => rfl

theorem latin1_append_wide {before : List Char} {c : Char} (after : List Char)
    (hbefore : ∀ d ∈ before, fitsByte d = true) (hc : fitsByte c = false) :
    latin1 (before ++ c :: after) = .error (c, (before.map Char.utf8Size).sum) := by
  have hneg : ¬fitsByte c = true := Bool.eq_false_iff.mp hc
  unfold latin1
  rw [List.dropWhile_append_of_pos hbefore, List.dropWhile_cons_of_neg hneg,
    List.takeWhile_append_of_pos hbefore, List.takeWhile_cons_of_neg hneg, List.append_nil]

/-- The walk may begin anywhere, so that the places are told from where it began. -/
theorem latin1From_eq (offset : Nat) (cs : List Char) :
    latin1From offset cs = (latin1 cs).mapError fun found => (found.1, offset + found.2) := by
  induction cs generalizing offset with
  | nil => rfl
  | cons c cs ih =>
    unfold latin1From
    split
    · rename_i h
      rw [latin1_cons_of_fits h, ih]
      cases latin1 cs with
      | ok bytes => rfl
      | error found => simp [Except.map, Except.mapError, Nat.add_assoc]
    · rename_i h
      rw [← List.nil_append (c :: cs), latin1_append_wide cs (by simp) (Bool.eq_false_iff.mpr h)]
      rfl

theorem latin1From_zero (cs : List Char) : latin1From 0 cs = latin1 cs := by
  rw [latin1From_eq]
  cases latin1 cs with
  | ok bytes => rfl
  | error found => simp [Except.mapError]

theorem exists_first_wide {s : String} (h : ¬IsSingleByte s) :
    ∃ before c after, s.toList = before ++ c :: after ∧ (∀ d ∈ before, fitsByte d = true) ∧
      fitsByte c = false := by
  cases hfind : s.toList.find? fun c => !fitsByte c with
  | none => exact absurd (fun c hc => by simpa using List.find?_eq_none.mp hfind c hc) h
  | some c =>
    obtain ⟨hc, before, after, hs, hbefore⟩ := List.find?_eq_some_iff_append.mp hfind
    exact ⟨before, c, after, hs, by simpa using hbefore, by simpa using hc⟩

end Text

namespace Payload

open Msgpack

namespace Encoder

/-! ## Two ways to put down a text -/

/-- Puts down a text character by character, also if all of it is ASCII. -/
def byCharacter (s : String) : Encoder Unit :=
  match Text.latin1From 0 s.toList with
  | .ok bytes => announced Token.strHeader bytes
  | .error (c, offset) => throw (.unencodable c offset)

theorem text_of_ascii {s : String} (h : ∀ c ∈ s.toList, c.toNat < 0x80) :
    text s = announced Token.strHeader (Utf8.encode s) := by
  apply if_pos
  simpa using h

theorem text_eq_byCharacter (s : String) : text s = byCharacter s := by
  rw [byCharacter, Text.latin1From_zero]
  by_cases h : ∀ c ∈ s.toList, c.toNat < 0x80
  · rw [text_of_ascii h, Utf8.encode_of_ascii h,
      Text.latin1_of_isSingleByte (Text.isSingleByte_of_ascii h)]
  · apply if_neg
    simpa using h

/-! ## What becomes of a text -/

theorem text_run_of_isSingleByte (b : Buffer) {s : String} (h : Text.IsSingleByte s)
    (hs : s.utf8ByteSize < 2 ^ 32) :
    (call (.text s)).run b = .ok () (b.put (Token.strHeader s.length ++ Text.bytes s)) := by
  have hlength : (Text.bytes s).length = s.length := by
    rw [Text.bytes, List.length_map, String.length_toList]
  rw [call_run, Item.token_text_of_isSingleByte h, hlength, Item.sized,
    if_pos (Text.length_lt_of_short hs), outcome, Token.encode, hlength]

theorem text_run_of_wide (b : Buffer) {s : String} {before after : List Char} {c : Char}
    (hs : s.toList = before ++ c :: after) (hbefore : ∀ d ∈ before, Text.fitsByte d = true)
    (hc : Text.fitsByte c = false) :
    (call (.text s)).run b = .error (.unencodable c (before.map Char.utf8Size).sum) b := by
  rw [call_run, Item.token_text, hs, Text.latin1_append_wide after hbefore hc]
  rfl

/-- A text is put down exactly if no character is above U+00FF: behind a header that tells how many
characters there are, each is the byte of its code point. Else nothing is put down, and the error
names the first character above U+00FF and the place where it stands in UTF-8. ASCII is copied from
UTF-8, which is no different from going through its characters. -/
theorem text_put_or_refused (b : Buffer) {s : String} (hs : s.utf8ByteSize < 2 ^ 32) :
    let result := (call (.text s)).run b
    ((∃ e, result = .ok () e) ↔ ∀ c ∈ s.toList, c.toNat ≤ 0xff) ∧
      (∀ e, result = .ok () e → ∃ header bytes, e = b.put (header ++ bytes) ∧
        Opens Reader.strLength? header s.length ∧
        bytes.map UInt8.toNat = s.toList.map Char.toNat) ∧
      (∀ error e, result = .error error e → e = b ∧ ∃ before c after offset,
        error = .unencodable c offset ∧ s.toList = before ++ c :: after ∧
        (∀ d ∈ before, d.toNat ≤ 0xff) ∧ 0xff < c.toNat ∧
        offset = (before.map Char.utf8Size).sum ∧
        (Utf8.encode s).drop offset = Utf8.encode (String.ofList (c :: after))) ∧
      text s = byCharacter s ∧
      ((∀ c ∈ s.toList, c.toNat < 0x80) →
        text s = announced Token.strHeader (Utf8.encode s)) := by
  intro result
  rw [← Text.isSingleByte_iff]
  by_cases h : Text.IsSingleByte s
  · have hresult : result = .ok () (b.put (Token.strHeader s.length ++ Text.bytes s)) :=
      text_run_of_isSingleByte b h hs
    rw [hresult]
    refine ⟨⟨fun _ => h, fun _ => ⟨_, rfl⟩⟩, ?_, ?_, text_eq_byCharacter s, text_of_ascii⟩
    · rintro e ⟨⟩
      exact ⟨_, _, rfl, opens_strHeader (Text.length_lt_of_short hs), Text.map_toNat_bytes h⟩
    · rintro error e ⟨⟩
  · obtain ⟨before, c, after, hsplit, hbefore, hc⟩ := Text.exists_first_wide h
    have hresult : result = .error (.unencodable c (before.map Char.utf8Size).sum) b :=
      text_run_of_wide b hsplit hbefore hc
    rw [hresult]
    refine ⟨⟨?_, fun hall => absurd hall h⟩, ?_, ?_, text_eq_byCharacter s, text_of_ascii⟩
    · rintro ⟨e, ⟨⟩⟩
    · rintro e ⟨⟩
    · rintro error e ⟨⟩
      refine ⟨rfl, before, c, after, _, rfl, hsplit, fun d hd => ?_, ?_, rfl, ?_⟩
      · exact Text.fitsByte_iff.mp (hbefore d hd)
      · exact Text.fitsByte_eq_false_iff.mp hc
      · exact Utf8.drop_encode hsplit

/-- The euro sign stands behind two characters, but three bytes. Without it two bytes are put down
behind the header. -/
theorem text_put_or_refused_euro :
    "né€!".utf8ByteSize < 2 ^ 32 ∧
      (call (.text "né€!")).run .empty = .error (.unencodable '€' 3) .empty ∧
      (∃ after, (Utf8.encode "né€!").drop 3 = Utf8.encode (String.ofList ('€' :: after))) ∧
      "né".utf8ByteSize < 2 ^ 32 ∧
      ∃ header bytes,
        (call (.text "né")).run .empty = .ok () (Buffer.empty.put (header ++ bytes)) ∧
        Opens Reader.strLength? header 2 ∧ bytes.map UInt8.toNat = [0x6e, 0xe9] := by
  have hshort : "né€!".utf8ByteSize < 2 ^ 32 := by decide +kernel
  have hshort' : "né".utf8ByteSize < 2 ^ 32 := by decide +kernel
  have hsplit : "né€!".toList = ['n', 'é'] ++ '€' :: ['!'] := by decide +kernel
  have hrun : (call (.text "né€!")).run .empty = .error (.unencodable '€' 3) .empty :=
    text_run_of_wide .empty hsplit (by simp [Text.fitsByte]) (by decide +kernel)
  obtain ⟨-, -, hrefused, -⟩ := text_put_or_refused .empty hshort
  obtain ⟨hiff, hput, -⟩ := text_put_or_refused .empty hshort'
  obtain ⟨-, before, c, after, offset, herror, -, -, -, -, hplace⟩ := hrefused _ _ hrun
  obtain ⟨rfl, rfl⟩ := EncodeError.unencodable.inj herror
  obtain ⟨e, he⟩ := hiff.mpr (Text.isSingleByte_iff.mp (by decide +kernel))
  obtain ⟨header, bytes, rfl, hheader, hbytes⟩ := hput e he
  exact ⟨hshort, hrun, ⟨after, hplace⟩, hshort', header, bytes, he, hheader, hbytes⟩

end Encoder

end Payload

end SpanRollup
