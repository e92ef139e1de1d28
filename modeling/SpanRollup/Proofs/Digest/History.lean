import Mathlib
import SpanRollup.Proofs.Digest.Taken

/-!
# How digests come about

A digest comes about by durations that are recorded and by digests that are merged, as a tree says.
Its outer quantiles are the extremes of the durations that its sketch has seen, and those are all
durations if each merge joins two digests with durations of more than one nanosecond.

- `Digest.History`: the tree.
- `Digest.History.seen`: the durations that count for the extremes.
- `History.outer_quantiles`: the outer quantiles.
-/

namespace SpanRollup

namespace Digest

/-! ## Histories -/

inductive History where
  | empty
  | record (h : History) (duration : Int64)
  | merge (h other : History)

namespace History

/-- The digest that comes about, unless an operation fails. -/
def digest? (r : Resolution) : History → Option Digest
  | .empty => some (Digest.empty r)
  | .record h duration => do (← h.digest? r).record? duration
  | .merge h other => do ((← h.digest? r).merge (← other.digest? r)).toOption

/-- All durations, as they count. -/
def durations : History → List Int
  | .empty => []
  | .record h duration => h.durations ++ [nanoseconds duration]
  | .merge h other => h.durations ++ other.durations

/-- Whether there is a duration that is counted in a bin. -/
def isLong (h : History) : Bool := h.durations.any (1 < ·)

/-- The durations that count for the extremes. A digest without long durations forgets its own
when others are merged into it, and brings none to a digest with long ones. -/
def seen : History → List Int
  | .empty => []
  | .record h duration => h.seen ++ [nanoseconds duration]
  | .merge h other =>
    if other.durations = [] then h.seen
    else if !h.isLong then other.seen
    else if !other.isLong then h.seen
    else h.seen ++ other.seen

/-- Each merge joins digests that both have long durations, or of which one is empty. -/
def IsEven : History → Prop
  | .empty => True
  | .record h _ => h.IsEven
  | .merge h other =>
    h.IsEven ∧ other.IsEven ∧
      (h.durations = [] ∨ other.durations = [] ∨ h.isLong = true ∧ other.isLong = true)

variable {r : Resolution} {h : History}

theorem seen_eq_durations (heven : h.IsEven) : h.seen = h.durations := by
  induction h with
  | empty => rfl
  | record h duration ih => rw [seen, ih heven, durations]
  | merge h other ih iho =>
    obtain ⟨hh, ho, hmerge⟩ := heven
    rw [seen, durations, ih hh, iho ho]
    rcases hmerge with hnil | hnil | ⟨hlong, hlong'⟩
    · have hlong : h.isLong = false := by rw [isLong, hnil]; rfl
      rw [hnil, hlong, List.nil_append]
      split
      · rename_i hother
        exact hother.symm
      · rfl
    · rw [if_pos hnil, hnil, List.append_nil]
    · rw [if_neg, hlong, hlong']
      · rfl
      · intro hnil
        rw [isLong, hnil] at hlong'
        cases hlong'

theorem seen_subset : ∀ n ∈ h.seen, n ∈ h.durations := by
  induction h with
  | empty => nofun
  | record h duration ih =>
    intro n hn
    rcases List.mem_append.mp hn with hn | hn
    · exact List.mem_append_left _ (ih n hn)
    · exact List.mem_append_right _ hn
  | merge h other ih iho =>
    intro n hn
    rw [seen] at hn
    split at hn
    · exact List.mem_append_left _ (ih n hn)
    split at hn
    · exact List.mem_append_right _ (iho n hn)
    split at hn
    · exact List.mem_append_left _ (ih n hn)
    · rcases List.mem_append.mp hn with hn | hn
      · exact List.mem_append_left _ (ih n hn)
      · exact List.mem_append_right _ (iho n hn)

/-- There are extremes as soon as there is a duration. -/
theorem seen_eq_nil_iff : h.seen = [] ↔ h.durations = [] := by
  induction h with
  | empty => exact Iff.rfl
  | record h duration _ => simp [seen, durations]
  | merge h other ih iho =>
    rw [seen, durations, List.append_eq_nil_iff]
    split
    · rename_i hnil
      rw [ih]
      exact (and_iff_left hnil).symm
    · rename_i hother
      split
      · rw [iho]
        exact ⟨fun h => absurd h hother, And.right⟩
      · rename_i hlong
        have hne : h.durations ≠ [] := by
          intro hnil
          rw [isLong, hnil] at hlong
          exact hlong rfl
        split
        · rw [ih]
          exact ⟨fun h => absurd h hne, And.left⟩
        · rw [List.append_eq_nil_iff, ih, iho]

end History

/-! ## Extremes -/

section

variable {ns ms : List Int}

/-- The least of some durations, as a sketch keeps it. -/
def lowest (ns : List Int) : Binary64 := (ns.min?.map .ofInt).getD .infinity

/-- The greatest of some durations, as a sketch keeps it. -/
def highest (ns : List Int) : Binary64 := (ns.max?.map .ofInt).getD .negInfinity

variable (hns : ∀ n ∈ ns, IsDuration n) (hms : ∀ n ∈ ms, IsDuration n) (hne : ms ≠ [])

include hns hms hne

theorem lower_lowest : Sketch.lower (lowest ms) (lowest ns) = lowest (ns ++ ms) := by
  obtain ⟨m, hm⟩ := Option.ne_none_iff_exists'.mp (mt List.min?_eq_none_iff.mp hne)
  have hm' := hms m (List.min?_eq_some_iff.mp hm).1
  cases hn : ns.min? with
  | none =>
    rw [List.min?_eq_none_iff.mp hn, List.nil_append, lowest, hm]
    exact Binary64.lower_infinity hm'.1 hm'.2
  | some n =>
    have hn' := hns n (List.min?_eq_some_iff.mp hn).1
    rw [lowest, lowest, lowest, Bins.min?_append hn hm, hm, hn, min_comm]
    exact Binary64.lower_ofInt hm'.1 hm'.2 hn'.1 hn'.2

theorem upper_highest : Sketch.upper (highest ms) (highest ns) = highest (ns ++ ms) := by
  obtain ⟨m, hm⟩ := Option.ne_none_iff_exists'.mp (mt List.max?_eq_none_iff.mp hne)
  have hm' := hms m (List.max?_eq_some_iff.mp hm).1
  cases hn : ns.max? with
  | none =>
    rw [List.max?_eq_none_iff.mp hn, List.nil_append, highest, hm]
    exact Binary64.upper_negInfinity hm'.1 hm'.2
  | some n =>
    have hn' := hns n (List.max?_eq_some_iff.mp hn).1
    rw [highest, highest, highest, Bins.max?_append hn hm, hm, hn, max_comm]
    exact Binary64.upper_ofInt hm'.1 hm'.2 hn'.1 hn'.2

end

/-! ## Outer quantiles -/

namespace History

variable {r : Resolution} {h other : History}

theorem isLong_eq_false_iff : h.isLong = false ↔ r.keys h.durations = [] := by
  rw [← List.length_eq_zero_iff, Resolution.length_keys, List.countP_eq_zero, isLong,
    List.any_eq_false]

/-- A merge leaves the extremes of the durations that have been seen. -/
theorem mergedExtremes_eq {s t : Sketch} (hd : ∀ n ∈ h.durations, IsDuration n)
    (ho : ∀ n ∈ other.durations, IsDuration n)
    (hs : s.min = lowest h.seen ∧ s.max = highest h.seen)
    (ht : t.min = lowest other.seen ∧ t.max = highest other.seen) :
    mergedExtremes r h.durations other.durations s t =
      (lowest (h.merge other).seen, highest (h.merge other).seen) := by
  have hseen : ∀ n ∈ h.seen, IsDuration n := fun n hn => hd n (seen_subset n hn)
  have hseen' : ∀ n ∈ other.seen, IsDuration n := fun n hn => ho n (seen_subset n hn)
  unfold mergedExtremes
  rw [seen, hs.1, hs.2, ht.1, ht.2]
  by_cases hnil : other.durations = []
  · rw [if_pos hnil, if_pos hnil]
  rw [if_neg hnil, if_neg hnil]
  cases hlong : h.isLong with
  | false => rw [if_pos (isLong_eq_false_iff.mp hlong)]; rfl
  | true =>
    rw [if_neg (mt isLong_eq_false_iff.mpr (by rw [hlong]; decide))]
    cases hlong' : other.isLong with
    | false => rw [if_pos (isLong_eq_false_iff.mp hlong')]; rfl
    | true =>
      have hne : other.seen ≠ [] := mt seen_eq_nil_iff.mp hnil
      rw [if_neg (mt isLong_eq_false_iff.mpr (by rw [hlong']; decide)),
        lower_lowest hseen hseen' hne, upper_highest hseen hseen' hne]
      rfl

/-- Every history of not too many durations leads to a digest. -/
theorem digest?_takes (hr : r.IsLegal) (h : History) (hlen : h.durations.length < 2 ^ 64) :
    ∃ d, h.digest? r = some d ∧ Takes r h.durations d ∧
      d.sketch.min = lowest h.seen ∧ d.sketch.max = highest h.seen := by
  induction h with
  | empty => exact ⟨Digest.empty r, rfl, takes_empty r, rfl, rfl⟩
  | record h duration ih =>
    rw [durations, List.length_append] at hlen
    obtain ⟨d, hdigest, htakes, hmin, hmax⟩ := ih (by omega)
    obtain ⟨e, hrecord, htakes', -, hmin', hmax'⟩ := record_takes hr htakes duration
    have hseen : ∀ n ∈ h.seen, IsDuration n := fun n hn => htakes.durations n (seen_subset n hn)
    have hnew : ∀ n ∈ [nanoseconds duration], IsDuration n := fun n hn => by
      rw [List.mem_singleton.mp hn]
      exact isDuration_nanoseconds duration
    refine ⟨e, ?_, htakes', ?_, ?_⟩
    · rw [digest?, hdigest]
      exact hrecord
    · rw [hmin', hmin, seen, ← lower_lowest hseen hnew (List.cons_ne_nil _ _)]
      rfl
    · rw [hmax', hmax, seen, ← upper_highest hseen hnew (List.cons_ne_nil _ _)]
      rfl
  | merge h other ih iho =>
    rw [durations, List.length_append] at hlen
    obtain ⟨d, hdigest, htakes, hd⟩ := ih (by omega)
    obtain ⟨e, hdigest', htakes', he⟩ := iho (by omega)
    obtain ⟨m, hmerge, hm, -, hextremes⟩ :=
      merge_takes hr htakes htakes' (by omega) (by omega)
    rw [mergedExtremes_eq htakes.durations htakes'.durations hd he, Prod.mk.injEq] at hextremes
    refine ⟨m, ?_, hm, hextremes⟩
    rw [digest?, hdigest, hdigest']
    change (d.merge e).toOption = some m
    rw [hmerge]
    rfl

/-- The outer quantiles are the extremes of the durations that have been seen, whatever the tree.
There are none only if there is no duration. -/
theorem outer_quantiles (accuracy : Binary64) (maxBins : Nat) (h : History)
    (hlen : h.durations.length < 2 ^ 64) :
    ∃ d, h.digest? (.ofSettings accuracy maxBins) = some d ∧
      d.quantile .zero = h.seen.min?.map .ofInt ∧ d.quantile .one = h.seen.max?.map .ofInt ∧
      (h.IsEven → h.seen = h.durations) := by
  obtain ⟨d, hdigest, htakes, hmin, hmax⟩ :=
    digest?_takes (Resolution.ofSettings_isLegal accuracy maxBins) h hlen
  have hempty : d.sketch.count = 0 ↔ h.seen = [] := by
    rw [seen_eq_nil_iff, htakes.sketch_count, ← htakes.count_eq, htakes.count_eq_zero_iff hlen]
  refine ⟨d, hdigest, ?_, ?_, seen_eq_durations⟩
  · rw [quantile, Sketch.quantile_zero, hmin, lowest]
    cases hleast : h.seen.min? with
    | none => exact if_pos (hempty.mpr (List.min?_eq_none_iff.mp hleast))
    | some n =>
      refine if_neg fun hcount => ?_
      rw [hempty.mp hcount] at hleast
      cases hleast
  · rw [quantile, Sketch.quantile_one, hmax, highest]
    cases hgreatest : h.seen.max? with
    | none => exact if_pos (hempty.mpr (List.max?_eq_none_iff.mp hgreatest))
    | some n =>
      refine if_neg fun hcount => ?_
      rw [hempty.mp hcount] at hgreatest
      cases hgreatest

/-- Zeros and long durations on one side, and a long one on the other. -/
theorem outer_quantiles_even :
    let h := History.merge (.record (.record .empty 0) 7) (.record .empty 2)
    h.durations.length < 2 ^ 64 ∧ h.IsEven ∧
      ∃ d, h.digest? (.ofSettings Resolution.defaultAccuracy 2048) = some d ∧
        d.quantile .zero = (h.durations.min?).map .ofInt ∧
        d.quantile .one = (h.durations.max?).map .ofInt := by
  intro h
  have heven : h.IsEven := ⟨trivial, trivial, .inr (.inr ⟨by decide, by decide⟩)⟩
  have hlen : h.durations.length < 2 ^ 64 := by decide
  obtain ⟨d, hdigest, hmin, hmax, hseen⟩ :=
    outer_quantiles Resolution.defaultAccuracy 2048 h hlen
  rw [hseen heven] at hmin hmax
  exact ⟨hlen, heven, d, hdigest, hmin, hmax⟩

set_option maxRecDepth 10000 in
/-- A digest of a zero, into which one with a long duration is merged, forgets the zero. -/
theorem outer_quantile_forgets :
    let h := History.merge (.record .empty 0) (.record .empty 5)
    (do (← h.digest? (.ofSettings Resolution.defaultAccuracy 2048)).quantile .zero) ≠
      (h.durations.min?).map .ofInt := by
  decide +kernel

end History

end Digest

end SpanRollup
