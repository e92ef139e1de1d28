import Mathlib
import SpanRollup.Sketch.Basic

/-!
# The room that bins take

No operation gives bins more counts than their limit, nor another limit, and each counts the keys
that it says it counts: `add` one more, `merge` those of the other bins.
-/

namespace SpanRollup

namespace Bins

/-- There are at most as many bins as the limit, which is `limit`, and `total` keys are counted. -/
structure Within (limit : Nat) (total : UInt64) (b : Bins) : Prop where
  limit_eq : b.limit = limit
  size_le : b.counts.size ≤ limit
  total_eq : b.total = total

variable {limit : Nat} {total more : UInt64} {b c other : Bins}

theorem Within.of_same (h : b.Within limit total) (hl : c.limit = b.limit)
    (hs : c.counts.size = b.counts.size) (ht : c.total = b.total) : c.Within limit total :=
  ⟨hl.trans h.limit_eq, hs ▸ h.size_le, ht.trans h.total_eq⟩

theorem within_empty (limit : Nat) : (empty limit).Within limit 0 := ⟨rfl, Nat.zero_le _, rfl⟩

@[simp] theorem size_increase (counts : Array UInt64) (index : Nat) (n : UInt64) :
    (increase counts index n).size = counts.size := Array.size_modify

theorem sizeFor_le (lo hi : Int32) : b.sizeFor lo hi ≤ b.limit := by
  unfold sizeFor
  dsimp only
  split
  · exact Nat.le_refl _
  · exact Nat.min_le_right _ _

theorem growTo_within {size : Nat} (h : b.Within limit total) (hs : size ≤ b.limit)
    (he : b.growTo size = some c) : c.Within limit total := by
  unfold growTo at he
  split at he
  · cases he
  · cases he
    refine ⟨h.limit_eq, ?_, h.total_eq⟩
    have := h.limit_eq; have := h.size_le
    simp only [Array.size_append, Array.size_replicate]
    omega

theorem moveTo_within {offset : Int32} (h : b.Within limit total) (he : b.moveTo offset = some c) :
    c.Within limit total := by
  unfold moveTo at he
  dsimp only at he
  split at he
  · cases he
  · rename_i hd
    cases he
    refine h.of_same rfl ?_ rfl
    generalize (b.offset - offset).toInt.natAbs = distance at hd
    dsimp only
    split <;>
    · simp only [Array.size_append, Array.size_replicate, Array.size_extract]
      omega

theorem foldBelow_within {key : Int32} (h : b.Within limit total) (he : b.foldBelow key = some c) :
    c.Within limit total := by
  unfold foldBelow at he
  simp only [Option.bind_eq_bind, Option.bind_eq_some_iff] at he
  obtain ⟨start, hstart, stop, hstop, he⟩ := he
  have hlt : stop < b.counts.size := by
    unfold index? at hstop
    dsimp only at hstop
    split at hstop
    · cases hstop; omega
    · cases hstop
  split at he
  · cases he
    refine h.of_same rfl ?_ rfl
    simp
    omega
  · cases he

theorem arrange_within {lo hi : Int32} (h : b.Within limit total) (he : b.arrange lo hi = some c) :
    c.Within limit total := by
  unfold arrange at he
  dsimp only at he
  split at he
  · split at he
    · split at he
      · cases he
      · cases he
        exact h.of_same rfl (by simp) rfl
    · split at he
      · simp only [Option.bind_eq_bind, Option.bind_eq_some_iff] at he
        obtain ⟨folded, hf, moved, hm, he⟩ := he
        cases he
        exact (moveTo_within (foldBelow_within h hf) hm).of_same rfl rfl rfl
      · simp only [Option.bind_eq_bind, Option.bind_some, Option.bind_eq_some_iff] at he
        obtain ⟨moved, hm, he⟩ := he
        cases he
        exact (moveTo_within h hm).of_same rfl rfl rfl
  · simp only [Option.bind_eq_bind, Option.bind_eq_some_iff] at he
    obtain ⟨moved, hm, he⟩ := he
    cases he
    exact (moveTo_within h hm).of_same rfl rfl rfl

theorem cover_within {key key' : Int32} (h : b.Within limit total)
    (he : b.cover key key' = some c) : c.Within limit total := by
  unfold cover at he
  dsimp only at he
  split at he
  · simp only [Option.bind_eq_bind, Option.bind_eq_some_iff] at he
    obtain ⟨grown, hg, he⟩ := he
    have hgrown := growTo_within h (sizeFor_le _ _) hg
    refine arrange_within ?_ he
    exact ⟨hgrown.limit_eq, hgrown.size_le, hgrown.total_eq⟩
  · split at he
    · cases he
      exact h.of_same rfl rfl rfl
    · simp only [Option.bind_eq_bind, Option.bind_eq_some_iff] at he
      obtain ⟨grown, hg, he⟩ := he
      exact arrange_within (growTo_within h (sizeFor_le _ _) hg) he

/-! ### Counting -/

theorem bump_within {index : Nat} (h : b.Within limit total) (he : b.bump index = some c) :
    c.Within limit (total + 1) := by
  unfold bump at he
  split at he
  · cases he
    exact ⟨h.limit_eq, by simpa using h.size_le, by rw [h.total_eq]⟩
  · cases he

theorem bumpKey_within {key : Int32} (h : b.Within limit total) (he : b.bumpKey key = some c) :
    c.Within limit (total + 1) := by
  unfold bumpKey at he
  simp only [Option.bind_eq_bind, Option.bind_eq_some_iff] at he
  obtain ⟨index, _, he⟩ := he
  exact bump_within h he

theorem add_within {key : Int32} (h : b.Within limit total) (he : b.add key = some c) :
    c.Within limit (total + 1) := by
  unfold add at he
  split at he
  · split at he
    · exact bump_within h he
    · simp only [Option.bind_eq_bind, Option.bind_eq_some_iff] at he
      obtain ⟨covering, hc, he⟩ := he
      have := cover_within h hc
      split at he
      · exact bump_within this he
      · exact bumpKey_within this he
  · split at he
    · simp only [Option.bind_eq_bind, Option.bind_eq_some_iff] at he
      obtain ⟨covering, hc, he⟩ := he
      exact bumpKey_within (cover_within h hc) he
    · exact bumpKey_within h he

theorem addCounts_within {n : Nat} {key : Int32} (h : b.Within limit total)
    (he : addCounts other n key b = some c) : c.Within limit total := by
  induction n generalizing key b with
  | zero => cases he; exact h
  | succ n ih =>
    simp only [addCounts, Option.bind_eq_bind, Option.bind_eq_some_iff] at he
    obtain ⟨index, _, more, _, he⟩ := he
    refine ih ?_ he
    exact h.of_same rfl (size_increase _ _ _) rfl

theorem foldRange_within {start stop : Int32} (h : b.Within limit total)
    (he : b.foldRange start stop = some c) : c.Within limit total := by
  unfold foldRange at he
  split at he
  · cases he
    refine h.of_same rfl ?_ rfl
    exact size_increase _ _ _
  · cases he

/-- Merging bins of which none are empty: the range is widened, the lowest counts are folded, the
others are added one by one. -/
theorem merge_eq_some (ho : other.total ≠ 0) (hb : b.total ≠ 0) (he : b.merge other = some c) :
    ∃ wide folded counted first,
      (b.cover other.minKey other.maxKey = some wide ∨ wide = b) ∧
      ((∃ start stop, wide.foldRange start stop = some folded) ∨ folded = wide) ∧
      addCounts other ((other.maxKey + 1).toInt - (first + other.offset).toInt).toNat
        (first + other.offset) folded = some counted ∧
      c = { counted with total := counted.total + other.total } := by
  unfold merge at he
  rw [if_neg ho, if_neg hb] at he
  dsimp only at he
  split at he
  · simp only [Option.bind_eq_bind, Option.bind_eq_some_iff] at he
    obtain ⟨wide, hw, he⟩ := he
    split at he
    · simp only [Option.bind_some, Option.bind_eq_some_iff] at he
      obtain ⟨folded, hf, counted, ha, he⟩ := he
      exact ⟨wide, folded, counted, _, .inl hw, .inl ⟨_, _, hf⟩, ha, (Option.some.inj he).symm⟩
    · simp only [Option.bind_some, Option.bind_eq_some_iff] at he
      obtain ⟨counted, ha, he⟩ := he
      exact ⟨wide, wide, counted, _, .inl hw, .inr rfl, ha, (Option.some.inj he).symm⟩
  · simp only [Option.bind_eq_bind, Option.bind_some] at he
    split at he
    · simp only [Option.bind_eq_some_iff] at he
      obtain ⟨folded, hf, counted, ha, he⟩ := he
      exact ⟨b, folded, counted, _, .inr rfl, .inl ⟨_, _, hf⟩, ha, (Option.some.inj he).symm⟩
    · simp only [Option.bind_eq_some_iff] at he
      obtain ⟨counted, ha, he⟩ := he
      exact ⟨b, b, counted, _, .inr rfl, .inr rfl, ha, (Option.some.inj he).symm⟩

theorem merge_within (h : b.Within limit total) (ho : other.Within limit more)
    (he : b.merge other = some c) : c.Within limit (total + more) := by
  by_cases h1 : other.total = 0
  · rw [merge, if_pos h1] at he
    cases he
    rwa [show more = 0 from ho.total_eq.symm.trans h1, UInt64.add_zero]
  by_cases h2 : b.total = 0
  · rw [merge, if_neg h1, if_pos h2] at he
    cases he
    rwa [show total = 0 from h.total_eq.symm.trans h2, UInt64.zero_add]
  obtain ⟨wide, folded, counted, first, hw, hf, ha, rfl⟩ := merge_eq_some h1 h2 he
  have hwide : wide.Within limit total := by
    rcases hw with hw | rfl
    · exact cover_within h hw
    · exact h
  have hfolded : folded.Within limit total := by
    rcases hf with ⟨start, stop, hf⟩ | rfl
    · exact foldRange_within hwide hf
    · exact hwide
  have hcounted := addCounts_within hfolded ha
  exact ⟨hcounted.limit_eq, hcounted.size_le, by rw [hcounted.total_eq, ho.total_eq]⟩

end Bins

end SpanRollup
