import SpanRollup.Proofs.Digest.Accepted
import SpanRollup.Proofs.Digest.Extent
import SpanRollup.Settings.Basic

/-!
# Where the legality of a resolution is decided

Three places decide which resolutions are legal: the making of a resolution moves its settings into
the range, the reading of a digest refuses an envelope outside of it, and the validation of settings
refuses an accuracy outside of it. All of them mean the same range.

- `Resolution.IsAccuracy`, `Resolution.InRange`: the range, in exact values.
- `Resolution.ofSettings_eq_iff`: making a resolution leaves what is in the range as it is.
- `Digest.decode_illegal_iff`: what is outside of it is refused, and nothing else.
- `Digest.range_decides`: the three together.
-/

namespace SpanRollup

/-! ## Exact values -/

namespace Binary64

theorem magnitudeUnits_lt_one_iff {m : Nat} :
    magnitudeUnits m < unitsPerOne ↔ m < powerMagnitude 1074 := by
  rw [unitsPerOne_eq, ← magnitudeUnits_powerMagnitude (by decide)]
  exact magnitudeUnits_strictMono.lt_iff_lt

end Binary64

namespace Resolution

open Binary64

theorem isNegative_minAccuracy : minAccuracy.isNegative = false := isNegative_nearest _ _ _

/-- The least legal accuracy is the first number that is not below one in ten thousand. -/
theorem minAccuracy_least : 10000 * magnitudeUnits (minAccuracy.magnitude - 1) < unitsPerOne ∧
    unitsPerOne ≤ 10000 * magnitudeUnits minAccuracy.magnitude := by decide +kernel

theorem unitsPerOne_le_iff {m : Nat} :
    unitsPerOne ≤ 10000 * magnitudeUnits m ↔ minAccuracy.magnitude ≤ m := by
  obtain ⟨hbelow, hleast⟩ := minAccuracy_least
  constructor
  · intro h
    by_contra hm
    have hmono : magnitudeUnits m ≤ magnitudeUnits (minAccuracy.magnitude - 1) :=
      magnitudeUnits_strictMono.monotone (by omega)
    omega
  · intro h
    have hmono : magnitudeUnits minAccuracy.magnitude ≤ magnitudeUnits m :=
      magnitudeUnits_strictMono.monotone h
    omega

/-- The accuracies are the numbers from one in ten thousand on that are below one. -/
def IsAccuracy (a : Binary64) : Prop :=
  a.isFinite = true ∧ (unitsPerOne : Int) ≤ 10000 * a.units ∧ a.units < unitsPerOne

/-- Comparing numbers comes to the same as comparing their exact values. -/
theorem isAccuracy_iff {a : Binary64} :
    IsAccuracy a ↔ minAccuracy.le a = true ∧ a.lt .one = true := by
  constructor
  · rintro ⟨hfinite, hlow, hhigh⟩
    have hneg : a.isNegative = false := by
      by_contra hneg
      have hpos := unitsPerOne_pos
      rw [units, if_pos (Bool.of_not_eq_false hneg)] at hlow
      omega
    rw [units_of_nonneg hneg] at hlow hhigh
    have hle : minAccuracy.magnitude ≤ a.magnitude := unitsPerOne_le_iff.mp (by omega)
    have hlt : a.magnitude < powerMagnitude 1074 := magnitudeUnits_lt_one_iff.mp (by omega)
    have hNaN : a.isNaN = false := isNaN_of_le (Nat.le_of_lt (of_decide_eq_true hfinite))
    rw [le_iff, lt_iff, rank_of_nonneg isNegative_minAccuracy, rank_of_nonneg hneg, rank_one]
    exact ⟨⟨⟨(isNaN_of_lt minAccuracy_lt_one).1, hNaN⟩, by omega⟩, ⟨hNaN, isNaN_one⟩, by omega⟩
  · rintro ⟨hle, hone⟩
    obtain ⟨hneg, hlt⟩ := range_of_lt_one (lt_of_lt_of_le minAccuracy_pos hle) hone
    have hrank := (le_iff.mp hle).2
    rw [rank_of_nonneg isNegative_minAccuracy, rank_of_nonneg hneg] at hrank
    have hlow := unitsPerOne_le_iff.mpr (Int.ofNat_le.mp hrank)
    have hhigh := magnitudeUnits_lt_one_iff.mpr hlt
    rw [IsAccuracy, units_of_nonneg hneg]
    refine ⟨decide_eq_true ?_, by omega, by omega⟩
    exact hlt.trans (by decide)

/-! ## Making a resolution -/

/-- The settings that a resolution can have. -/
structure InRange (accuracy : Binary64) (maxBins : Nat) : Prop where
  accuracy : IsAccuracy accuracy
  one_le : 1 ≤ maxBins
  le_max : maxBins ≤ 2 ^ 32 - 1

variable {a : Binary64} {n : Nat}

theorem isAccuracy_ofSettings (a : Binary64) (n : Nat) : IsAccuracy (ofSettings a n).accuracy := by
  obtain ⟨-, hone, hmin⟩ := accuracy_ofSettings a n
  apply isAccuracy_iff.mpr
  refine ⟨le_of_not_lt ?_ ?_ hmin, hone⟩
  · exact (isNaN_of_lt minAccuracy_lt_one).1
  · exact (isNaN_of_lt hone).1

theorem inRange_ofSettings (a : Binary64) (n : Nat) :
    InRange (ofSettings a n).accuracy (ofSettings a n).maxBins.toNat := by
  have hbins := toNat_maxBins_ofSettings a n
  exact ⟨isAccuracy_ofSettings a n, by omega, by omega⟩

theorem accuracy_ofSettings_eq_iff : (ofSettings a n).accuracy = a ↔ IsAccuracy a := by
  constructor
  · intro h
    rw [← h]
    exact isAccuracy_ofSettings a n
  · intro h
    obtain ⟨hle, hone⟩ := isAccuracy_iff.mp h
    have hpos := lt_of_lt_of_le minAccuracy_pos hle
    have hmin := not_lt_of_le hle
    simp [ofSettings, hpos, hone, hmin]

/-- Making a resolution changes exactly the settings that are out of range. -/
theorem ofSettings_eq_iff :
    (ofSettings a n).accuracy = a ∧ (ofSettings a n).maxBins.toNat = n ↔ InRange a n := by
  rw [accuracy_ofSettings_eq_iff, toNat_maxBins_ofSettings]
  constructor
  · rintro ⟨haccuracy, hbins⟩
    exact ⟨haccuracy, by omega, by omega⟩
  · rintro ⟨haccuracy, hlow, hhigh⟩
    exact ⟨haccuracy, by omega⟩

theorem IsLegal.inRange {r : Resolution} (h : r.IsLegal) : InRange r.accuracy r.maxBins.toNat := by
  have := inRange_ofSettings r.accuracy r.maxBins.toNat
  rwa [h.ofSettings_eq] at this

/-- An accuracy that a resolution has is the same number only as itself. -/
theorem same_ofSettings_iff :
    (ofSettings a n).accuracy.same a = true ↔ (ofSettings a n).accuracy = a := by
  obtain ⟨hpos, hone, -⟩ := accuracy_ofSettings a n
  constructor
  · exact eq_of_same hpos
  · intro h
    have hself := Binary64.same_self (isNaN_of_lt hone).1
    rw [h] at hself ⊢
    exact hself

end Resolution

/-! ## Reading a digest -/

namespace Digest

open Msgpack Resolution

/-- The input begins with the right header, and this envelope is read from it. -/
def Encloses (input : List UInt8) (e : Envelope) : Prop :=
  ∃ left rest, readFieldCount input = .ok (fieldCount, left) ∧
    readVersion left = .ok formatVersion ∧ envelopeReader.run input = .ok (e, rest)

variable {input : List UInt8} {a : Binary64} {n : UInt32}

/-- The check that is made of an envelope. -/
theorem illegal_check_iff {e : Envelope} :
    (!(ofSettings e.accuracy e.maxBins.toNat).accuracy.same e.accuracy ||
      decide ((ofSettings e.accuracy e.maxBins.toNat).maxBins ≠ e.maxBins)) = true ↔
      ¬InRange e.accuracy e.maxBins.toNat := by
  rw [← ofSettings_eq_iff, UInt32.toNat_inj, ← same_ofSettings_iff, not_and_or, Bool.or_eq_true,
    Bool.not_eq_true', Bool.not_eq_true, decide_eq_true_iff]

theorem ofEnvelope_illegal_iff {e : Envelope} :
    ofEnvelope e = .error (.illegalResolution a n) ↔
      e.accuracy = a ∧ e.maxBins = n ∧ ¬InRange a n.toNat := by
  unfold ofEnvelope
  dsimp only
  by_cases h : InRange e.accuracy e.maxBins.toNat
  · rw [if_neg (mt illegal_check_iff.mp (not_not.mpr h))]
    refine iff_of_false ?_ ?_
    · split <;> nofun
    · rintro ⟨rfl, rfl, hout⟩
      exact hout h
  · rw [if_pos (illegal_check_iff.mpr h)]
    constructor
    · intro he
      cases he
      exact ⟨rfl, rfl, h⟩
    · rintro ⟨rfl, rfl, -⟩
      rfl

/-! ### Headers -/

theorem headerCause_ne_illegal (e : ReadError) : headerCause e ≠ .illegalResolution a n := by
  cases e <;> nofun

theorem readFieldCount_ne_illegal : readFieldCount input ≠ .error (.illegalResolution a n) := by
  cases input with
  | nil => nofun
  | cons byte input =>
    rw [readFieldCount_cons_eq]
    split
    · rename_i len _
      cases len.run input with
      | ok found => nofun
      | error e => exact fun h => headerCause_ne_illegal e (Except.error.inj h)
    · nofun

theorem readVersion_ne_illegal : readVersion input ≠ .error (.illegalResolution a n) := by
  cases input with
  | nil => nofun
  | cons byte input =>
    unfold readVersion
    simp only [marker_run_cons, Except.mapError, bind, Except.bind]
    split
    · nofun
    · nofun
    · rename_i read _ _ _
      cases read.run input with
      | ok found =>
        dsimp only
        split
        · split <;> nofun
        · nofun
      | error e => exact fun h => headerCause_ne_illegal e (Except.error.inj h)
    · nofun

/-- A resolution is found illegal exactly if an envelope is read that is out of range. -/
theorem decode_illegal_iff :
    decode input = .error (.malformed (.illegalResolution a n)) ↔
      ∃ e, Encloses input e ∧ e.accuracy = a ∧ e.maxBins = n ∧ ¬InRange a n.toNat := by
  constructor
  · intro h
    unfold decode at h
    rcases bind_eq_error h with hcount | ⟨⟨fields, left⟩, hcount, h⟩
    · obtain ⟨cause, hcount, ⟨⟩⟩ := mapError_eq_error hcount
      exact absurd hcount readFieldCount_ne_illegal
    dsimp only at h
    split at h
    · cases h
    rename_i hfields
    rcases bind_eq_error h with hversion | ⟨version, hversion, h⟩
    · obtain ⟨cause, hversion, ⟨⟩⟩ := mapError_eq_error hversion
      exact absurd hversion readVersion_ne_illegal
    split at h
    · cases h
    rename_i hformat
    rcases bind_eq_error h with hread | ⟨⟨e, rest⟩, hread, h⟩
    · obtain ⟨cause, -, ⟨⟩⟩ := mapError_eq_error hread
    obtain ⟨cause, hillegal, ⟨⟩⟩ := mapError_eq_error h
    obtain rfl : fields = fieldCount := not_not.mp hfields
    obtain rfl : version = formatVersion := not_not.mp hformat
    refine ⟨e, ⟨left, rest, ?_, ?_, ?_⟩, ofEnvelope_illegal_iff.mp hillegal⟩
    · exact mapError_eq_ok hcount
    · exact mapError_eq_ok hversion
    · exact mapError_eq_ok hread
  · rintro ⟨e, ⟨left, rest, hcount, hversion, hread⟩, hillegal⟩
    rw [decode_of_header hcount hversion, hread]
    dsimp only
    rw [ofEnvelope_illegal_iff.mpr hillegal]
    rfl

/-! ### Digests that are written -/

/-- What comes about by the operations, of digests from here and of all that have been read. -/
inductive Obtained : Digest → Prop where
  | empty (accuracy : Binary64) (maxBins : Nat) : Obtained (.empty (.ofSettings accuracy maxBins))
  | read {input : List UInt8} {d : Digest} : decode input = .ok d → Obtained d
  | record {d : Digest} (duration : Int64) : Obtained d → Obtained (d.record duration)
  | merge {d other : Digest} : Obtained d → Obtained other →
    Obtained ((d.merge other).toOption.getD d)

theorem resolution_record (d : Digest) (duration : Int64) :
    (d.record duration).resolution = d.resolution := by
  unfold record
  cases hrecord : d.record? duration with
  | none => rfl
  | some e =>
    simp only [record?, Option.bind_eq_bind, Option.bind_eq_some_iff] at hrecord
    obtain ⟨sketch, -, ⟨⟩⟩ := hrecord
    rfl

theorem resolution_merge (d other : Digest) :
    ((d.merge other).toOption.getD d).resolution = d.resolution := by
  unfold merge
  split
  · rfl
  split
  · rfl
  split <;> rfl

theorem Obtained.isLegal {d : Digest} (h : d.Obtained) : d.resolution.IsLegal := by
  induction h with
  | empty accuracy maxBins => exact ofSettings_isLegal accuracy maxBins
  | read hread => exact (decode_eq_ok hread).1
  | record duration _ ih =>
    rw [resolution_record]
    exact ih
  | merge _ _ ih _ =>
    rw [resolution_merge]
    exact ih

/-- Reads what stands behind the version. -/
def contentReader : Reader Envelope := do
  return { accuracy := ← Reader.float, maxBins := ← Reader.uint32, count := ← Reader.uint64,
           sum := ← Reader.int64, sketch := ← Sketch.reader (maxDepth - 1) }

theorem envelopeReader_run_cons (rest : List UInt8) :
    envelopeReader.run (0x96 :: 0x01 :: rest) = contentReader.run rest := rfl

/-- Whatever follows it, a digest is read with the resolution that it was written with. -/
theorem Encloses.resolution_eq {d : Digest} {e : Envelope} {rest : List UInt8}
    (h : Encloses (d.encode ++ rest) e) :
    e.accuracy = d.resolution.accuracy ∧ e.maxBins = d.resolution.maxBins := by
  obtain ⟨-, left, -, -, hread⟩ := h
  rw [encode_eq, List.cons_append, List.cons_append, envelopeReader_run_cons, contentReader,
    List.append_assoc, (Reads.float _).run_bind, List.append_assoc, (Reads.uint32 _).run_bind,
    StateT.run_bind] at hread
  obtain ⟨count, -, hread⟩ := bind_eq_ok hread
  rw [StateT.run_bind] at hread
  obtain ⟨sum, -, hread⟩ := bind_eq_ok hread
  rw [StateT.run_bind] at hread
  obtain ⟨sketch, -, ⟨⟩⟩ := bind_eq_ok hread
  exact ⟨rfl, rfl⟩

theorem decode_encode_ne_illegal {d : Digest} (h : d.resolution.IsLegal) (rest : List UInt8)
    (a : Binary64) (n : UInt32) :
    decode (d.encode ++ rest) ≠ .error (.malformed (.illegalResolution a n)) := by
  intro hread
  obtain ⟨e, he, rfl, rfl, hout⟩ := decode_illegal_iff.mp hread
  rw [he.resolution_eq.1, he.resolution_eq.2] at hout
  exact hout h.inRange

end Digest

/-! ## Validating settings -/

namespace Settings

variable {s : Settings}

open Resolution

/-- The check that is made of an accuracy. -/
theorem accuracy_check_iff :
    (!(minAccuracy.le s.accuracy && s.accuracy.lt .one)) = true ↔ ¬IsAccuracy s.accuracy := by
  rw [isAccuracy_iff, Bool.not_eq_true', ← Bool.not_eq_true, Bool.and_eq_true]

/-- An accuracy is refused exactly if it is out of range, unless something else is wrong before. -/
theorem validate_accuracy_iff {a : Binary64} :
    s.validate = .error (.accuracy a) ↔
      s.bucketDuration.isZero = false ∧ s.maxKeys ≠ 0 ∧ s.accuracy = a ∧ ¬IsAccuracy a := by
  unfold validate
  by_cases hduration : s.bucketDuration.isZero
  · rw [if_pos hduration]
    refine iff_of_false nofun ?_
    rintro ⟨h, -⟩
    rw [hduration] at h
    cases h
  rw [if_neg hduration, and_iff_right (Bool.of_not_eq_true hduration)]
  by_cases hkeys : s.maxKeys = 0
  · rw [if_pos hkeys]
    exact iff_of_false nofun fun h => h.1 hkeys
  rw [if_neg hkeys, and_iff_right hkeys]
  by_cases haccuracy : IsAccuracy s.accuracy
  · rw [if_neg (mt accuracy_check_iff.mp (not_not.mpr haccuracy))]
    refine iff_of_false ?_ ?_
    · split
      · nofun
      · split <;> nofun
    · rintro ⟨rfl, h⟩
      exact h haccuracy
  · rw [if_pos (accuracy_check_iff.mpr haccuracy)]
    constructor
    · rintro ⟨⟩
      exact ⟨rfl, haccuracy⟩
    · rintro ⟨rfl, -⟩
      rfl

theorem validate_eq_ok (h : s.validate = .ok ()) : IsAccuracy s.accuracy ∧ minBins ≤ s.maxBins := by
  unfold validate at h
  split at h
  · cases h
  split at h
  · cases h
  split at h
  · cases h
  rename_i haccuracy
  split at h
  · cases h
  rename_i hbins
  exact ⟨not_not.mp (mt accuracy_check_iff.mpr haccuracy), Nat.le_of_not_lt hbins⟩

theorem resolution_of_validate (h : s.validate = .ok ()) (hbins : s.maxBins < 2 ^ 32) :
    s.resolution.accuracy = s.accuracy ∧ s.resolution.maxBins.toNat = s.maxBins := by
  obtain ⟨haccuracy, hmin⟩ := validate_eq_ok h
  have : 1 ≤ minBins := by decide
  exact ofSettings_eq_iff.mpr ⟨haccuracy, by omega, by omega⟩

end Settings

/-! ## All three -/

namespace Digest

open Resolution

/-- The three places mean the same range. A resolution is always in the range, and made of settings
in the range, exactly, it is what they say. A digest is refused for its resolution exactly if it is
out of range, so never one that was written. Settings are refused for their accuracy exactly if it
is out of range, and the resolution of settings that are accepted is what they say. -/
theorem range_decides :
    (∀ (a : Binary64) (n : Nat),
      let r := ofSettings a n
      InRange r.accuracy r.maxBins.toNat ∧ ofSettings r.accuracy r.maxBins.toNat = r ∧
        (r.accuracy = a ∧ r.maxBins.toNat = n ↔ InRange a n)) ∧
      (∀ input a n, decode input = .error (.malformed (.illegalResolution a n)) ↔
        ∃ e, Encloses input e ∧ e.accuracy = a ∧ e.maxBins = n ∧ ¬InRange a n.toNat) ∧
      (∀ (d : Digest) rest a n, d.Obtained →
        decode (d.encode ++ rest) ≠ .error (.malformed (.illegalResolution a n))) ∧
      (∀ (s : Settings) a, s.validate = .error (.accuracy a) ↔
        s.bucketDuration.isZero = false ∧ s.maxKeys ≠ 0 ∧ s.accuracy = a ∧ ¬IsAccuracy a) ∧
      ∀ s : Settings, s.validate = .ok () → s.maxBins < 2 ^ 32 →
        s.resolution.accuracy = s.accuracy ∧ s.resolution.maxBins.toNat = s.maxBins := by
  refine ⟨fun a n => ⟨?_, ?_, ?_⟩, ?_, ?_, ?_, ?_⟩
  · exact inRange_ofSettings a n
  · exact (ofSettings_isLegal a n).ofSettings_eq
  · exact ofSettings_eq_iff
  · exact fun input a n => decode_illegal_iff
  · exact fun d rest a n h => decode_encode_ne_illegal h.isLegal rest a n
  · exact fun s a => Settings.validate_accuracy_iff
  · exact fun s => Settings.resolution_of_validate

/-- The default settings are kept, and so is the digest that is made of them. A NaN is no accuracy:
it is replaced where a resolution is made, and refused by the other two. -/
theorem range_decides_default :
    let s : Settings := {}
    let d := empty s.resolution
    let NaN := Binary64.undefined
    let unordered := { d with resolution := { accuracy := NaN, maxBins := 2048 } }
    (s.validate = .ok () ∧ s.maxBins < 2 ^ 32 ∧ s.resolution.accuracy = s.accuracy ∧
      s.resolution.maxBins.toNat = 2048) ∧
      (d.Obtained ∧ decode (d.encode ++ [0]) ≠
        .error (.malformed (.illegalResolution Resolution.defaultAccuracy 2048))) ∧
      (decode unordered.encode = .error (.malformed (.illegalResolution NaN 2048)) ∧
        ¬InRange NaN 2048 ∧ (ofSettings NaN 2048).accuracy ≠ NaN) ∧
      ({ s with accuracy := NaN } : Settings).validate = .error (.accuracy NaN) := by
  intro s d NaN unordered
  obtain ⟨hmade, hread, hwritten, hflaw, hkept⟩ := range_decides
  have hvalid : s.validate = .ok () := by decide +kernel
  have hbins : s.maxBins < 2 ^ 32 := by decide
  have hd : d.Obtained := .empty _ _
  have hrefused : decode unordered.encode = .error (.malformed (.illegalResolution NaN 2048)) := by
    decide +kernel
  obtain ⟨e, -, -, -, hout⟩ := (hread _ _ _).mp hrefused
  have hNaN : ¬IsAccuracy NaN := fun h => hout ⟨h, by decide, by decide⟩
  refine ⟨⟨hvalid, hbins, hkept s hvalid hbins⟩, ⟨hd, hwritten d _ _ _ hd⟩,
    ⟨hrefused, hout, ?_⟩, ?_⟩
  · intro h
    exact hNaN (h ▸ (hmade NaN 2048).1.accuracy)
  · exact (hflaw _ _).mpr ⟨rfl, by decide, rfl, hNaN⟩

end Digest

end SpanRollup
