import Mathlib
import SpanRollup.Proofs.Sketch.Merging

/-!
# Bins and the keys that they were given

What bins are like is settled by the keys that they were given, in whatever order: the greatest
one is kept, and with it all that are less than the limit below it.

- `Bins.Spans`: the range of bins is that of a list of keys.
- `Bins.Sound`: bins that can be added to and merged, whatever they count.
- `Ranges.add`, `Ranges.merge`: the range of what is added or merged.
- `keyAtRank_eq`: the key at a rank is a matter of the counts within the range.
-/

namespace SpanRollup

namespace Bins

/-- The bins have the range of the keys, cut off below to what there is room for. -/
structure Spans (limit : Nat) (ks : List Int) (b : Bins) : Prop where
  laid : b.Laid limit
  total_eq : b.total = .ofNat ks.length
  greatest : ks.max? = some b.maxKey.toInt
  least : ∃ lo, ks.min? = some lo ∧ b.minKey.toInt = max lo (b.maxKey.toInt - limit + 1)

/-- Bins that were given some keys, or none. -/
inductive Ranges (limit : Nat) : List Int → Bins → Prop where
  | empty : Ranges limit [] (.empty limit)
  | keys {ks : List Int} {b : Bins} : Spans limit ks b → Ranges limit ks b

/-- Keys below the range count for the lowest key in it. -/
def Keeps (b : Bins) (ks : List Int) : Prop := b.Holds (ks.map (max b.minKey.toInt))

variable {limit : Nat} {b c other : Bins} {ks ls : List Int}

theorem Ranges.total_eq (h : Ranges limit ks b) : b.total = .ofNat ks.length := by
  cases h with
  | empty => rfl
  | keys h => exact h.total_eq

theorem Spans.ne_nil (h : Spans limit ks b) : ks ≠ [] := by
  rintro rfl
  cases h.greatest

theorem keeps_empty (limit : Nat) : (empty limit).Keeps [] := by
  refine ⟨rfl, nofun, fun key => ?_⟩
  unfold countAt
  split <;> rfl

/-- A range that reaches as far down as there is room takes in all that was kept before. -/
theorem Spans.map_max_map_max (h : Spans limit ks b) {lo : Int}
    (hlo : b.maxKey.toInt - limit + 1 ≤ lo) :
    (ks.map (max b.minKey.toInt)).map (max lo) = ks.map (max lo) := by
  obtain ⟨least, hleast, hmin⟩ := h.least
  by_cases hle : b.minKey.toInt ≤ lo
  · exact Bins.map_max_map_max hle ks
  · have hkept : ks.map (max b.minKey.toInt) = ks :=
      map_max_of_le fun k hk =>
        le_trans (by omega) ((List.min?_eq_some_iff.mp hleast).2 k hk)
    rw [hkept]

/-! ## Sound bins -/

/-- Bins that are laid out, or have no keys yet. -/
def Sound (limit : Nat) (b : Bins) : Prop := b = empty limit ∨ b.Laid limit

theorem Ranges.sound (h : Ranges limit ks b) : b.Sound limit := by
  cases h with
  | empty => exact .inl rfl
  | keys h => exact .inr h.laid

theorem Sound.limit_eq (h : b.Sound limit) : b.limit = limit := by
  rcases h with rfl | h
  · rfl
  · exact h.limit_eq

theorem Sound.size_le (h : b.Sound limit) : b.counts.size ≤ limit := by
  rcases h with rfl | h
  · exact Nat.zero_le _
  · exact h.size_le

/-- A key that is near enough can be added to sound bins. -/
theorem Sound.add (h : b.Sound limit) (hlimit : 0 < limit) (key : Int32)
    (hkey : key.toInt.natAbs ≤ 2 ^ 28) : ∃ c, b.add key = some c ∧ Adds limit b c key.toInt := by
  rcases h with rfl | h
  · exact add_empty_adds hlimit hkey
  · exact add_adds h hkey

/-- Sound bins can be merged, whatever they count. -/
theorem Sound.merge (h : b.Sound limit) (ho : other.Sound limit) :
    ∃ c, b.merge other = some c ∧ c.Sound limit := by
  by_cases hother : other.total = 0
  · exact ⟨b, if_pos hother, h⟩
  by_cases hb : b.total = 0
  · exact ⟨other, by rw [Bins.merge, if_neg hother, if_pos hb], ho⟩
  rcases h with rfl | h
  · exact absurd rfl hb
  rcases ho with rfl | ho
  · exact absurd rfl hother
  obtain ⟨c, hmerge, hmerges⟩ := merge_merges h ho hb hother
  exact ⟨c, hmerge, .inr hmerges.laid⟩

/-! ## Adding -/

theorem Adds.keeps {key : Int} (h : Adds limit b c key) (hb : Ranges limit ks b)
    (hkeeps : b.Keeps ks) : c.Keeps (ks ++ [key]) := by
  have hholds := h.holds _ hkeeps
  have hmin := h.minKey_eq
  have hmax := h.maxKey_eq
  cases hb with
  | empty => exact hholds
  | keys hb =>
    unfold Keeps
    rw [List.map_append] at hholds ⊢
    rwa [hb.map_max_map_max (by omega)] at hholds

theorem Adds.spans {key : Int32} (h : Adds limit b c key.toInt) (hb : Ranges limit ks b) :
    Spans limit (ks ++ [key.toInt]) c := by
  have hmin := h.minKey_eq
  have hmax := h.maxKey_eq
  have htotal : c.total = .ofNat (ks ++ [key.toInt]).length := by
    rw [h.total_eq, hb.total_eq, List.length_append, List.length_singleton, UInt64.ofNat_add]
    rfl
  cases hb with
  | empty =>
    have hlow : (empty limit).minKey.toInt = 2 ^ 31 - 1 := by rfl
    have hhigh : (empty limit).maxKey.toInt = -2 ^ 31 := by rfl
    have := key.le_toInt
    have := key.toInt_lt
    rw [max_eq_right (by omega)] at hmax
    rw [min_eq_right (by omega)] at hmin
    exact ⟨h.laid, htotal, by rw [hmax]; rfl, key.toInt, rfl, hmin⟩
  | keys hb =>
    obtain ⟨least, hleast, hmin'⟩ := hb.least
    refine ⟨h.laid, htotal, ?_, min least key.toInt, ?_, by omega⟩
    · rw [hmax]
      exact max?_append hb.greatest rfl
    · exact min?_append hleast rfl

/-- A key that is near enough can be added. -/
theorem Ranges.add (h : Ranges limit ks b) (hlimit : 0 < limit) (key : Int32)
    (hkey : key.toInt.natAbs ≤ 2 ^ 28) :
    ∃ c, b.add key = some c ∧ Spans limit (ks ++ [key.toInt]) c ∧
      (b.Keeps ks → c.Keeps (ks ++ [key.toInt])) := by
  obtain ⟨c, hadd, hadds⟩ := h.sound.add hlimit key hkey
  exact ⟨c, hadd, hadds.spans h, hadds.keeps h⟩

/-! ## Merging -/

theorem ofNat_ne_zero {n : Nat} (h : n ≠ 0) (h' : n < 2 ^ 64) : UInt64.ofNat n ≠ 0 := by
  rw [Ne, ← UInt64.toNat_inj, UInt64.toNat_ofNat_of_lt' h']
  exact h

theorem Spans.total_ne_zero (h : Spans limit ks b) (hlen : ks.length < 2 ^ 64) : b.total ≠ 0 := by
  rw [h.total_eq]
  exact ofNat_ne_zero (fun hlength => h.ne_nil (List.eq_nil_of_length_eq_zero hlength)) hlen

theorem Merges.spans (h : Merges limit b other c) (hb : Spans limit ks b)
    (ho : Spans limit ls other) : Spans limit (ks ++ ls) c := by
  have hmin := h.minKey_eq
  have hmax := h.maxKey_eq
  obtain ⟨least, hleast, hmin'⟩ := hb.least
  obtain ⟨least', hleast', hmin''⟩ := ho.least
  refine ⟨h.laid, ?_, ?_, min least least', min?_append hleast hleast', by omega⟩
  · rw [h.total_eq, hb.total_eq, ho.total_eq, List.length_append, UInt64.ofNat_add]
  · rw [hmax]
    exact max?_append hb.greatest ho.greatest

/-- A merge of `ls` into `ks` folds none of `ls`: each key of `ks` has one of `ls` that is not
less, or all of `ls` are within the limit below it. -/
def Clear (limit : Nat) (ks ls : List Int) : Prop :=
  ∀ k ∈ ks, (∃ l ∈ ls, k ≤ l) ∨ ∀ l ∈ ls, k - l < limit

theorem Merges.minKey_le (h : Merges limit b other c) (hb : Spans limit ks b)
    (ho : Spans limit ls other) (hclear : Clear limit ks ls) :
    c.minKey.toInt ≤ other.minKey.toInt := by
  have hmin := h.minKey_eq
  have hmax := h.maxKey_eq
  obtain ⟨least, hleast, hmin'⟩ := ho.least
  rcases hclear _ (List.max?_eq_some_iff.mp hb.greatest).1 with ⟨l, hl, hle⟩ | hnear
  · have := (List.max?_eq_some_iff.mp ho.greatest).2 l hl
    omega
  · have := hnear least (List.min?_eq_some_iff.mp hleast).1
    omega

/-- Keys above the lowest one of the range are counted as often as they were given. -/
def KeepsAbove (b : Bins) (ks : List Int) : Prop :=
  ∀ key, b.minKey.toInt < key → b.countAt key = .ofNat ((ks.map (max b.minKey.toInt)).count key)

theorem Keeps.above (h : b.Keeps ks) : b.KeepsAbove ks := fun key _ => h.countAt_eq key

/-- What is kept of both sides before a merge is kept of all keys after it. -/
theorem Merges.map_max (h : Merges limit b other c) (hb : Spans limit ks b)
    (ho : Spans limit ls other) :
    (ks.map (max b.minKey.toInt) ++ ls.map (max other.minKey.toInt)).map (max c.minKey.toInt) =
      (ks ++ ls).map (max c.minKey.toInt) := by
  have hmin := h.minKey_eq
  have hmax := h.maxKey_eq
  rw [List.map_append, List.map_append, hb.map_max_map_max (by omega),
    ho.map_max_map_max (by omega)]

/-- Bins with keys that are not too many can be merged. -/
theorem Ranges.merge (h : Ranges limit ks b) (ho : Ranges limit ls other)
    (hks : ks.length < 2 ^ 64) (hls : ls.length < 2 ^ 64) :
    ∃ c, b.merge other = some c ∧ Ranges limit (ks ++ ls) c ∧
      (b.Keeps ks → other.Keeps ls →
        c.KeepsAbove (ks ++ ls) ∧ (Clear limit ks ls → c.Keeps (ks ++ ls))) := by
  cases ho with
  | empty =>
    rw [List.append_nil]
    exact ⟨b, if_pos rfl, h, fun hb _ => ⟨hb.above, fun _ => hb⟩⟩
  | keys ho =>
    have hother := ho.total_ne_zero hls
    cases h with
    | empty =>
      refine ⟨other, ?_, .keys ho, fun _ hl => ⟨hl.above, fun _ => hl⟩⟩
      rw [Bins.merge, if_neg hother]
      exact if_pos rfl
    | keys h =>
      obtain ⟨c, hmerge, hmerges⟩ := merge_merges h.laid ho.laid (h.total_ne_zero hks) hother
      refine ⟨c, hmerge, .keys (hmerges.spans h ho), fun hb hl =>
        ⟨fun key hkey => ?_, fun hclear => ?_⟩⟩
      · rw [hmerges.countAt_eq _ _ hb hl key hkey, hmerges.map_max h ho]
      · have := hmerges.holds (hmerges.minKey_le h ho hclear) _ _ hb hl
        rwa [hmerges.map_max h ho] at this

/-! ## The same keys -/

theorem Spans.ends_eq (h : Spans limit ks b) (hc : Spans limit ks c) :
    b.minKey = c.minKey ∧ b.maxKey = c.maxKey := by
  obtain ⟨least, hleast, hmin⟩ := h.least
  obtain ⟨least', hleast', hmin'⟩ := hc.least
  have := Option.some.inj (h.greatest.symm.trans hc.greatest)
  have := Option.some.inj (hleast.symm.trans hleast')
  rw [← Int32.toInt_inj, ← Int32.toInt_inj]
  omega

/-! ## Ranks -/

theorem indexAtRank_replicate {rank sum : UInt64} (h : ¬rank < sum) (n : Nat)
    (counts : List UInt64) (index : Nat) :
    indexAtRank rank (List.replicate n 0 ++ counts) sum index =
      indexAtRank rank counts sum (index + n) := by
  induction n generalizing index with
  | zero => rfl
  | succ n ih =>
    rw [List.replicate_succ, List.cons_append, indexAtRank, UInt64.add_zero, if_neg h, ih]
    congr 1
    omega

theorem indexAtRank_append_replicate {rank : UInt64} (counts : List UInt64) (n : Nat)
    {sum : UInt64} (h : ¬rank < sum) (index : Nat) :
    indexAtRank rank (counts ++ List.replicate n 0) sum index =
      indexAtRank rank counts sum index := by
  induction counts generalizing sum index with
  | nil =>
    have := indexAtRank_replicate h n [] index
    rwa [List.append_nil] at this
  | cons count counts ih =>
    rw [List.cons_append, indexAtRank, indexAtRank]
    split
    · rfl
    · rename_i hle
      exact ih hle _

theorem indexAtRank_add (rank : UInt64) (counts : List UInt64) (sum : UInt64) (index m : Nat) :
    indexAtRank rank counts sum (index + m) =
      (indexAtRank rank counts sum index).map (· + m) := by
  induction counts generalizing sum index with
  | nil => rfl
  | cons count counts ih =>
    rw [indexAtRank, indexAtRank]
    split
    · rfl
    · rw [← ih]
      congr 1
      omega

theorem indexAtRank_lt {rank sum : UInt64} {counts : List UInt64} {index i : Nat}
    (h : indexAtRank rank counts sum index = some i) : i < index + counts.length := by
  induction counts generalizing sum index with
  | nil => cases h
  | cons count counts ih =>
    rw [indexAtRank] at h
    rw [List.length_cons]
    split at h
    · cases h
      omega
    · have := ih h
      omega

/-- The counts of the keys in the range. -/
def spread (b : Bins) : List UInt64 :=
  (List.range (b.maxKey.toInt + 1 - b.minKey.toInt).toNat).map
    fun i : Nat => b.countAt (b.minKey.toInt + i)

theorem toList_counts (b : Bins) :
    b.counts.toList =
      (List.range b.counts.size).map fun i : Nat => b.countAt (b.offset.toInt + i) := by
  refine List.ext_getElem (by simp) fun i hi _ => ?_
  rw [List.getElem_map, List.getElem_range, countAt_offset_add, Array.getD_eq_getD_getElem?,
    Array.getElem?_eq_getElem (by simpa using hi)]
  rfl

/-- All bins that are not in the range are empty. -/
theorem toList_counts_eq_spread (h : b.Laid limit)
    (hout : ∀ key, key < b.minKey.toInt ∨ b.maxKey.toInt < key → b.countAt key = 0) :
    ∃ n, b.counts.toList = List.replicate (b.minKey.toInt - b.offset.toInt).toNat 0 ++
      (b.spread ++ List.replicate n 0) := by
  have hoffset := h.offset_le
  have hminmax := h.minKey_le
  have hend := h.lt_end
  obtain ⟨low, hlow⟩ : ∃ low : Nat, b.minKey.toInt = b.offset.toInt + low :=
    ⟨(b.minKey.toInt - b.offset.toInt).toNat, by omega⟩
  obtain ⟨high, hhigh⟩ : ∃ high, b.counts.size =
      low + ((b.maxKey.toInt + 1 - b.minKey.toInt).toNat + high) :=
    ⟨b.counts.size - (b.maxKey.toInt + 1 - b.offset.toInt).toNat, by omega⟩
  refine ⟨high, ?_⟩
  rw [toList_counts, hhigh, List.range_add, List.range_add, List.map_append, List.map_append,
    List.map_append, List.map_map, List.map_map, List.map_map, spread, hlow]
  refine congrArg₂ _ ?_ (congrArg₂ _ ?_ ?_)
  · refine List.eq_replicate_iff.mpr ⟨by simp, fun count hcount => ?_⟩
    obtain ⟨i, hi, rfl⟩ := List.mem_map.mp hcount
    rw [List.mem_range] at hi
    exact hout _ (.inl (by omega))
  · refine List.map_congr_left fun i _ => ?_
    dsimp only [Function.comp_apply]
    rw [Nat.cast_add, add_assoc]
  · refine List.eq_replicate_iff.mpr ⟨by simp, fun count hcount => ?_⟩
    obtain ⟨i, hi, rfl⟩ := List.mem_map.mp hcount
    dsimp only [Function.comp_apply]
    exact hout _ (.inr (by push_cast; omega))

/-- The key at a rank is a matter of the counts within the range. -/
theorem keyAtRank_eq (h : b.Laid limit)
    (hout : ∀ key, key < b.minKey.toInt ∨ b.maxKey.toInt < key → b.countAt key = 0)
    (rank : UInt64) :
    b.keyAtRank rank =
      match indexAtRank rank b.spread 0 0 with
      | some index => Int32.ofNat index + b.minKey
      | none => b.maxKey := by
  obtain ⟨n, hn⟩ := toList_counts_eq_spread h hout
  have hnot : ¬rank < 0 := by
    rw [UInt64.lt_iff_toNat_lt]
    exact Nat.not_lt_zero _
  have hoffset := h.offset_le
  have hminmax := h.minKey_le
  have hend := h.lt_end
  have hroom := h.size_le_room
  have hnear := h.minKey_near
  unfold keyAtRank
  rw [hn, indexAtRank_replicate hnot, indexAtRank_add, indexAtRank_append_replicate _ _ hnot]
  cases indexAtRank rank b.spread 0 0 with
  | none => rfl
  | some index =>
    change Int32.ofNat (index + _) + b.offset = _
    have hmin : Int32.ofNat (b.minKey.toInt - b.offset.toInt).toNat + b.offset = b.minKey := by
      have hlow := Int32.toInt_ofNat_of_lt (n := (b.minKey.toInt - b.offset.toInt).toNat) (by omega)
      rw [← Int32.toInt_inj, toInt_add (by omega) (by omega)]
      omega
    rw [Int32.ofNat_add, Int32.add_assoc, hmin]

/-- The key at a rank has a bin. -/
theorem Laid.index?_keyAtRank (h : b.Laid limit) (rank : UInt64) :
    (b.index? (b.keyAtRank rank)).isSome = true := by
  have hoffset := h.offset_le
  have hminmax := h.minKey_le
  have hend := h.lt_end
  have hroom := h.size_le_room
  have hmin := h.minKey_near
  have hmax := h.maxKey_near
  have hlow := b.offset.le_toInt
  unfold keyAtRank
  cases hindex : indexAtRank rank b.counts.toList 0 0 with
  | none =>
    dsimp only
    rw [index?_eq (by omega) (by omega) hend]
    rfl
  | some index =>
    have hlt := indexAtRank_lt hindex
    rw [Array.length_toList] at hlt
    have hofNat : (Int32.ofNat index).toInt = index := Int32.toInt_ofNat_of_lt (by omega)
    have hkey : (Int32.ofNat index + b.offset).toInt = index + b.offset.toInt := by
      rw [toInt_add (by omega) (by omega), hofNat]
    dsimp only
    rw [index?_eq (by omega) (by omega) (by omega)]
    rfl

/-- Bins that were given the same keys have the same key at each rank. -/
theorem keyAtRank_congr (hb : Ranges limit ks b) (hc : Ranges limit ks c) (hkb : b.Keeps ks)
    (hkc : c.Keeps ks) (rank : UInt64) : b.keyAtRank rank = c.keyAtRank rank := by
  cases hb with
  | empty =>
    cases hc with
    | empty => rfl
    | keys hc => exact absurd rfl hc.ne_nil
  | keys hb =>
    cases hc with
    | empty => exact absurd rfl hb.ne_nil
    | keys hc =>
      obtain ⟨hmin, hmax⟩ := hb.ends_eq hc
      have hcount (key : Int) : b.countAt key = c.countAt key := by
        rw [hkb.countAt_eq, hkc.countAt_eq, hmin]
      have hspread : b.spread = c.spread := by
        unfold spread
        rw [hmin, hmax]
        exact List.map_congr_left fun i _ => hcount _
      rw [keyAtRank_eq hb.laid fun _ => hkb.countAt_eq_zero,
        keyAtRank_eq hc.laid fun _ => hkc.countAt_eq_zero, hspread, hmin, hmax]

end Bins

end SpanRollup
