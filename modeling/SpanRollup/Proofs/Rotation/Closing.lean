import SpanRollup.Proofs.Health
import SpanRollup.Proofs.Payload.Hits
import SpanRollup.Proofs.Series.Tally

/-!
# What becomes of closed windows

A `Closing` is a window that was closed with something in it. It is in flight until its fate is
known, and fates are settled in the order in which the windows were closed. Main statements:
`counts_settle` and `calls_settle`, what a settled fate adds to the counters and to the calls of the
sink; `sum_ended`, a window that is not in flight has exactly one of four fates.
-/

namespace SpanRollup

open Payload

inductive Fate where
  /-- The sink took its payload. -/
  | delivered
  | refused (e : SinkError)
  /-- The writer gave it up, since it could not be encoded. -/
  | discarded
  /-- The writer had no room for it. -/
  | dropped
  deriving DecidableEq

namespace Fate

def isRefused : Fate → Bool
  | refused _ => true
  | _ => false

/-- What the fate of a window with some hits adds to the counters. -/
def counts (hits : UInt64) : Fate → Health
  | delivered => { bucketsFlushed := 1 }
  | refused _ => { sinkFailures := 1 }
  | discarded => { bucketsDiscarded := 1 }
  | dropped => { bucketsDropped := 1, hitsDropped := hits }

/-- The call of the sink that led to the fate of a bucket. -/
def call? (tags : Tags) (b : Bucket) : Fate → Option Call
  | delivered => some { delivery := (Draft.ofBucket b).delivery tags, refusal := none }
  | refused e => some { delivery := (Draft.ofBucket b).delivery tags, refusal := some e }
  | discarded | dropped => none

end Fate

structure Closing where
  /-- What was observed, with the series into whose cells it got. -/
  history : History
  bucket : Bucket
  /-- Nothing yet, as long as the window is in flight. -/
  fate : Option Fate
  deriving DecidableEq

namespace Closing

def counts (c : Closing) : Health := (c.fate.map (Fate.counts c.bucket.hits)).getD 0

def call? (tags : Tags) (c : Closing) : Option Call := c.fate.bind (Fate.call? tags c.bucket)

/-- The windows that have come to a fate of some kind. -/
def ended (p : Fate → Bool) (cs : List Closing) : List Closing := cs.filter (·.fate.any p)

/-- The observations in some windows, as their cells count them. -/
def hits (cs : List Closing) : Nat := (cs.map (·.bucket.hits.toNat)).sum

/-- The buckets of the windows in flight. -/
def inFlight (cs : List Closing) : List Bucket :=
  cs.filterMap fun c => if c.fate.isNone then some c.bucket else none

/-- The first window in flight comes to its fate. -/
def settle (fate : Fate) : List Closing → List Closing
  | [] => []
  | c :: cs => if c.fate.isNone then { c with fate := some fate } :: cs else c :: settle fate cs

/-- What is known of a window from the start: a later fate does not change it. -/
def lasting (c : Closing) : History × Bucket × Bool :=
  (c.history, c.bucket, c.fate = some .dropped)

/-- The sink is not called for a window while one before it is in flight. -/
def Precedes (c d : Closing) : Prop := c.fate = none → d.fate = none ∨ d.fate = some .dropped

/-- A window with something in it, all of which is in the cells of its bucket. It is discarded only
if it cannot be written, and never sent then. -/
structure IsSound (tags : Tags) (resolution : Resolution) (c : Closing) : Prop where
  nonempty : c.history ≠ []
  tallies : Tallies resolution c.history c.bucket.entries
  writable : ∀ fate ∈ c.fate, fate ≠ .dropped →
    (fate = .discarded ↔ ¬(Draft.ofBucket c.bucket).IsWritable tags)

variable {tags : Tags} {resolution : Resolution} {c : Closing} {cs : List Closing} {b : Bucket}
  {rest : List Bucket} {fate : Fate}

/-! ## Settling -/

theorem inFlight_append (cs ds : List Closing) :
    inFlight (cs ++ ds) = inFlight cs ++ inFlight ds := List.filterMap_append

theorem inFlight_cons_none (h : c.fate = none) (cs : List Closing) :
    inFlight (c :: cs) = c.bucket :: inFlight cs := by simp [inFlight, h]

theorem inFlight_cons_some (h : c.fate = some fate) (cs : List Closing) :
    inFlight (c :: cs) = inFlight cs := by simp [inFlight, h]

theorem settle_cons_none (h : c.fate = none) (fate : Fate) (cs : List Closing) :
    settle fate (c :: cs) = { c with fate := some fate } :: cs := by simp [settle, h]

theorem settle_cons_some {old : Fate} (h : c.fate = some old) (fate : Fate) (cs : List Closing) :
    settle fate (c :: cs) = c :: settle fate cs := by simp [settle, h]

theorem inFlight_settle (fate : Fate) (cs : List Closing) :
    inFlight (settle fate cs) = (inFlight cs).tail := by
  induction cs with
  | nil => rfl
  | cons c cs ih =>
    cases hc : c.fate with
    | none =>
      rw [settle_cons_none hc, inFlight_cons_some rfl, inFlight_cons_none hc, List.tail_cons]
    | some old => rw [settle_cons_some hc, inFlight_cons_some hc, inFlight_cons_some hc, ih]

theorem lasting_settle (h : fate ≠ .dropped) (cs : List Closing) :
    (settle fate cs).map lasting = cs.map lasting := by
  induction cs with
  | nil => rfl
  | cons c cs ih =>
    cases hc : c.fate with
    | none => simp [settle_cons_none hc, lasting, hc, h]
    | some old => rw [settle_cons_some hc, List.map_cons, ih, List.map_cons]

theorem counts_settle (fate : Fate) (h : inFlight cs = b :: rest) :
    ((settle fate cs).map counts).sum = (cs.map counts).sum + fate.counts b.hits := by
  induction cs with
  | nil => cases h
  | cons c cs ih =>
    cases hc : c.fate with
    | none =>
      rw [inFlight_cons_none hc] at h
      cases h
      have hzero : c.counts = 0 := by simp [counts, hc]
      rw [settle_cons_none hc, List.map_cons, List.sum_cons, List.map_cons, List.sum_cons, hzero,
        zero_add, add_comm]
      rfl
    | some old =>
      rw [inFlight_cons_some hc] at h
      rw [settle_cons_some hc, List.map_cons, List.sum_cons, ih h, List.map_cons, List.sum_cons,
        add_assoc]

theorem calls_settle (fate : Fate) (hp : cs.Pairwise Precedes) (h : inFlight cs = b :: rest) :
    (settle fate cs).filterMap (call? tags) =
      cs.filterMap (call? tags) ++ (fate.call? tags b).toList := by
  induction cs with
  | nil => cases h
  | cons c cs ih =>
    obtain ⟨hafter, hp⟩ := List.pairwise_cons.mp hp
    cases hc : c.fate with
    | none =>
      rw [inFlight_cons_none hc] at h
      cases h
      -- what was closed after the window in flight has not led to a call
      have hnil : cs.filterMap (call? tags) = [] := by
        refine List.filterMap_eq_nil_iff.mpr fun d hd => ?_
        rcases hafter d hd hc with hf | hf <;> simp [call?, hf, Fate.call?]
      have hnone : c.call? tags = none := by simp [call?, hc]
      rw [settle_cons_none hc, List.filterMap_cons_none hnone, hnil, List.nil_append]
      cases hcall : fate.call? tags c.bucket with
      | none =>
        rw [List.filterMap_cons_none (by simpa [call?] using hcall), hnil]
        rfl
      | some call =>
        rw [List.filterMap_cons_some (by simpa [call?] using hcall), hnil]
        rfl
    | some old =>
      rw [inFlight_cons_some hc] at h
      rw [settle_cons_some hc, List.filterMap_cons, List.filterMap_cons, ih hp h]
      split <;> rfl

theorem precedes_settle (fate : Fate) (h : cs.Pairwise Precedes) :
    (settle fate cs).Pairwise Precedes := by
  induction cs with
  | nil => exact h
  | cons c cs ih =>
    obtain ⟨-, hp⟩ := List.pairwise_cons.mp h
    cases hc : c.fate with
    | none =>
      rw [settle_cons_none hc]
      exact .cons (fun d _ hnone => by cases hnone) hp
    | some old =>
      rw [settle_cons_some hc]
      refine .cons (fun d _ hnone => ?_) (ih hp)
      rw [hc] at hnone
      cases hnone

/-- A window is in flight or dropped when it is closed. -/
theorem precedes_concat (h : cs.Pairwise Precedes) (hc : c.fate = none ∨ c.fate = some .dropped) :
    (cs ++ [c]).Pairwise Precedes := by
  refine List.pairwise_append.mpr ⟨h, List.pairwise_singleton _ _, fun _ _ d hd _ => ?_⟩
  rw [List.mem_singleton.mp hd]
  exact hc

theorem isSound_settle (h : ∀ c ∈ cs, c.IsSound tags resolution) (hb : inFlight cs = b :: rest)
    (hf : fate = .discarded ↔ ¬(Draft.ofBucket b).IsWritable tags) :
    ∀ c ∈ settle fate cs, c.IsSound tags resolution := by
  induction cs with
  | nil => cases hb
  | cons c cs ih =>
    obtain ⟨hc, hcs⟩ := List.forall_mem_cons.mp h
    cases hfate : c.fate with
    | none =>
      rw [inFlight_cons_none hfate] at hb
      cases hb
      rw [settle_cons_none hfate]
      refine List.forall_mem_cons.mpr ⟨⟨hc.nonempty, hc.tallies, fun f hmem _ => ?_⟩, hcs⟩
      cases hmem
      exact hf
    | some old =>
      rw [inFlight_cons_some hfate] at hb
      rw [settle_cons_some hfate]
      exact List.forall_mem_cons.mpr ⟨hc, ih hcs hb⟩

theorem isSound_concat (h : ∀ c ∈ cs, c.IsSound tags resolution)
    (hc : c.IsSound tags resolution) : ∀ d ∈ cs ++ [c], d.IsSound tags resolution := by
  refine List.forall_mem_append.mpr ⟨h, ?_⟩
  rw [List.forall_mem_singleton]
  exact hc

theorem fate_isSome (h : inFlight cs = []) : ∀ c ∈ cs, c.fate.isSome := by
  intro c hc
  have := List.filterMap_eq_nil_iff.mp h c hc
  cases hf : c.fate with
  | none => simp [hf] at this
  | some fate => rfl

/-! ## Fates -/

theorem ended_cons (p : Fate → Bool) (c : Closing) (cs : List Closing) :
    ended p (c :: cs) = if c.fate.any p then c :: ended p cs else ended p cs := List.filter_cons

/-- The counters tell how many windows have come to which fate. -/
theorem sum_counts (cs : List Closing) :
    (cs.map counts).sum =
      { bucketsFlushed := .ofNat (ended (· = .delivered) cs).length
        bucketsDropped := .ofNat (ended (· = .dropped) cs).length
        hitsDropped := .ofNat (hits (ended (· = .dropped) cs))
        bucketsDiscarded := .ofNat (ended (· = .discarded) cs).length
        sinkFailures := .ofNat (ended Fate.isRefused cs).length } := by
  induction cs with
  | nil => rfl
  | cons c cs ih =>
    rw [List.map_cons, List.sum_cons, ih]
    simp only [ended_cons, counts]
    cases hfate : c.fate with
    | none => exact zero_add _
    | some fate =>
      cases fate <;>
        simp [Fate.counts, Fate.isRefused, Health.add_eq, hits, UInt64.ofNat_add, UInt64.add_comm]

theorem IsSound.hits_eq (h : c.IsSound tags resolution) (hlt : c.history.length < 2 ^ 64) :
    c.bucket.hits.toNat = c.history.length := by
  rw [Bucket.hits, h.tallies.sum_hits, UInt64.toNat_ofNat', Nat.mod_eq_of_lt hlt]

end Closing

end SpanRollup
