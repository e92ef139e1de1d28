import SpanRollup.Proofs.Digest.Intact

/-!
# Merges that are whole

A cell takes in another one in place, its digests first, and what went before a failure is not taken
back. No cell is left half merged all the same: both digests of a cell keep the resolution that it
started with, so if the first of them can be merged, then so can the second.

- `Cell.Past`: how a cell comes about, by merges that may fail.
- `Cell.Uniform`: what holds of all such cells.
- `absorb_whole`: a merge takes in everything or nothing.
-/

namespace SpanRollup

namespace Cell

/-- Merging in place does what merging does, if it succeeds. -/
theorem merge_eq_absorb (c other : Cell) :
    c.merge other = (c.absorb other).2.map fun _ => (c.absorb other).1 := by
  unfold merge absorb
  cases c.ok.merge other.ok with
  | error e => rfl
  | ok ok =>
    dsimp only
    cases c.failed.merge other.failed with
    | error e => rfl
    | ok failed => rfl

/-! ## Cells of one resolution -/

/-- Both digests are intact and have resolution `r`. -/
structure Uniform (r : Resolution) (c : Cell) : Prop where
  ok : c.ok.Intact
  failed : c.failed.Intact
  ok_resolution : c.ok.resolution = r
  failed_resolution : c.failed.resolution = r

variable {r s : Resolution} {c d : Cell}

theorem uniform_empty (hr : r.IsLegal) : (empty r).Uniform r :=
  ⟨Digest.intact_empty hr, Digest.intact_empty hr, rfl, rfl⟩

theorem Uniform.record (h : c.Uniform r) (o : Observation) : (c.record o).Uniform r := by
  obtain ⟨ok, hok, hresolution, hintact⟩ := h.ok.record o.clamped
  obtain ⟨failed, hfailed, hresolution', hintact'⟩ := h.failed.record o.clamped
  unfold Cell.record Digest.record
  rw [hok, hfailed]
  cases o.isError with
  | true => exact ⟨h.ok, hintact', h.ok_resolution, hresolution'.trans h.failed_resolution⟩
  | false => exact ⟨hintact, h.failed, hresolution.trans h.ok_resolution, h.failed_resolution⟩

/-- Cells of the same resolution are merged to the end. -/
theorem Uniform.absorb_of_same (h : c.Uniform r) (hd : d.Uniform s) (hsame : r.same s = true) :
    ∃ m, c.absorb d = (m, .ok ()) ∧ m.Uniform r := by
  obtain ⟨ok, hok, hresolution, hintact⟩ := h.ok.merge_of_same hd.ok
    (by rwa [h.ok_resolution, hd.ok_resolution])
  obtain ⟨failed, hfailed, hresolution', hintact'⟩ := h.failed.merge_of_same hd.failed
    (by rwa [h.failed_resolution, hd.failed_resolution])
  unfold absorb
  rw [hok]
  dsimp only
  rw [hfailed]
  exact ⟨_, rfl, hintact, hintact', hresolution.trans h.ok_resolution,
    hresolution'.trans h.failed_resolution⟩

/-- The merge of cells of different resolutions ends before anything has changed. -/
theorem Uniform.absorb_of_not_same (h : c.Uniform r) (hd : d.Uniform s)
    (hsame : r.same s = false) : c.absorb d = (c, .error .incompatible) := by
  have hok : c.ok.merge d.ok = .error .incompatible :=
    Digest.merge_of_not_same (by rwa [h.ok_resolution, hd.ok_resolution])
  rw [absorb, hok]

/-! ## Cells with a past -/

/-- How a cell comes about. The cells that it takes in may have other resolutions, and then it
takes nothing in. -/
inductive Past where
  | empty (accuracy : Binary64) (maxBins : Nat)
  | record (p : Past) (o : Observation)
  | absorb (p other : Past)

namespace Past

def cell : Past → Cell
  | .empty accuracy maxBins => .empty (.ofSettings accuracy maxBins)
  | .record p o => p.cell.record o
  | .absorb p other => (p.cell.absorb other.cell).1

/-- The resolution that the cell started with. -/
def resolution : Past → Resolution
  | .empty accuracy maxBins => .ofSettings accuracy maxBins
  | .record p _ => p.resolution
  | .absorb p _ => p.resolution

theorem cell_uniform (p : Past) : p.cell.Uniform p.resolution := by
  induction p with
  | empty accuracy maxBins => exact uniform_empty (Resolution.ofSettings_isLegal accuracy maxBins)
  | record p o ih => exact ih.record o
  | absorb p other ih iho =>
    cases hsame : p.resolution.same other.resolution with
    | true =>
      obtain ⟨m, habsorb, hm⟩ := ih.absorb_of_same iho hsame
      rw [cell, habsorb]
      exact hm
    | false =>
      rw [cell, ih.absorb_of_not_same iho hsame]
      exact ih

/-- A merge in place succeeds if and only if the cells started with the same resolution. Then it is
a whole merge, and otherwise the cell is left as it was, in every field. -/
theorem absorb_whole (p other : Past) :
    let c := p.cell
    let d := other.cell
    ((c.absorb d).2 = .ok () ↔ p.resolution.same other.resolution = true) ∧
      (p.resolution.same other.resolution = true →
        ∃ m, c.merge d = .ok m ∧ c.absorb d = (m, .ok ())) ∧
      (p.resolution.same other.resolution = false → c.absorb d = (c, .error .incompatible)) := by
  intro c d
  have hc : c.Uniform p.resolution := p.cell_uniform
  have hd : d.Uniform other.resolution := other.cell_uniform
  cases hsame : p.resolution.same other.resolution with
  | true =>
    obtain ⟨m, habsorb, -⟩ := hc.absorb_of_same hd hsame
    have hmerge : c.merge d = .ok m := by
      rw [merge_eq_absorb, habsorb]
      rfl
    rw [habsorb]
    exact ⟨iff_of_true rfl rfl, fun _ => ⟨m, hmerge, rfl⟩, nofun⟩
  | false =>
    have habsorb := hc.absorb_of_not_same hd hsame
    rw [habsorb]
    exact ⟨iff_of_false nofun nofun, nofun, fun _ => rfl⟩

set_option maxRecDepth 10000 in
/-- A cell whose digests differ in resolution, as none with a past does, would be left with the
durations of the spans without an error. -/
example :
    let fine := Resolution.ofSettings Resolution.defaultAccuracy 2048
    let coarse := Resolution.ofSettings (.ofRatio false 1 50) 2048
    let c := { Cell.empty fine with failed := .empty coarse }
    let left := c.absorb ((Cell.empty fine).record { duration := 5 })
    left.1.ok.count = 1 ∧ left.1.hits = 0 ∧ left.2 = .error .incompatible := by
  decide +kernel

end Past

end Cell

end SpanRollup
