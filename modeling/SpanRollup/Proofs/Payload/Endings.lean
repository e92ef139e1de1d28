import SpanRollup.Proofs.Payload.Assembly

/-!
# Every bucket comes to one end

A bucket that was opened is open until the sink takes or refuses it, or until it is given up. A
bucket whose header cannot be written is given up as it is opened.

- `Writer.Accounts`: what one call does with the bucket that was open and the one it opens.
- `Writer.obey_accounts`: every call brings at most one bucket to its end.
- `Writer.Run.IsBalanced`: the same for all calls of a run.
- `Writer.Run.after_balanced`: the counters of a run account for every bucket that was opened.
-/

namespace SpanRollup.Payload

/-! ## Endings -/

inductive Ending where
  | taken
  | refused (e : SinkError)
  | givenUp
  deriving DecidableEq

namespace Ending

def isRefused : Ending → Bool
  | refused _ => true
  | taken | givenUp => false

def counts : Ending → Health
  | taken => { bucketsFlushed := 1 }
  | refused _ => { sinkFailures := 1 }
  | givenUp => { bucketsDiscarded := 1 }

/-- The refusal in the call of the sink, if there was a call. -/
def refusal? : Ending → Option (Option SinkError)
  | taken => some none
  | refused e => some (some e)
  | givenUp => none

variable (endings : List Ending)

/-- The counters tell how many buckets have come to which end. -/
theorem sum_counts :
    (endings.map counts).sum =
      { bucketsFlushed := .ofNat (endings.count .taken)
        bucketsDiscarded := .ofNat (endings.count .givenUp)
        sinkFailures := .ofNat (endings.countP isRefused) } := by
  induction endings with
  | nil => rfl
  | cons ending endings ih =>
    rw [List.map_cons, List.sum_cons, ih]
    cases ending <;>
      simp [counts, isRefused, List.countP_cons, Health.add_eq, UInt64.ofNat_add, UInt64.add_comm]

theorem length_eq :
    endings.length =
      endings.count .taken + endings.countP isRefused + endings.count .givenUp := by
  induction endings with
  | nil => rfl
  | cons ending endings ih =>
    cases ending <;> simp [isRefused, List.countP_cons, ih] <;> omega

/-- None of the counters has wrapped if few enough buckets have come to their ends. -/
theorem toNat_counts {health : Health} {n : UInt64}
    (h : health = .substituted n + (endings.map counts).sum) (hlt : endings.length < 2 ^ 64) :
    health.bucketsFlushed.toNat = endings.count .taken ∧
      health.sinkFailures.toNat = endings.countP isRefused ∧
      health.bucketsDiscarded.toNat = endings.count .givenUp := by
  have hlen := length_eq endings
  have hcount (m : Nat) (hm : m ≤ endings.length) : (0 + UInt64.ofNat m).toNat = m := by
    rw [UInt64.zero_add]
    exact UInt64.toNat_ofNat_of_lt' (hm.trans_lt hlt)
  rw [h, sum_counts]
  refine ⟨hcount _ ?_, hcount _ ?_, hcount _ ?_⟩ <;> omega

theorem countP_isNone_refusals :
    (endings.filterMap refusal?).countP Option.isNone = endings.count .taken := by
  induction endings with
  | nil => rfl
  | cons ending endings ih => cases ending <;> simp [refusal?, List.filterMap_cons, ih]

theorem countP_isSome_refusals :
    (endings.filterMap refusal?).countP Option.isSome = endings.countP isRefused := by
  induction endings with
  | nil => rfl
  | cons ending endings ih =>
    cases ending <;> simp [refusal?, isRefused, List.filterMap_cons, List.countP_cons, ih]

end Ending

namespace Writer

/-! ## Calls -/

/-- How many buckets are open. -/
def openCount (w : Writer) : Nat := if w.isOpen then 1 else 0

/-- What came of the call of `start` that a command makes. Writing a whole bucket begins with
one. -/
def opening? (w : Writer) : Command → Option (Except WriteError Unit)
  | .start declared start duration => some (w.start declared start duration).result
  | .writeBucket b =>
    if b.isEmpty then none else some (w.start b.size b.start b.duration).result
  | .add _ _ | .finish | .reset => none

/-- There was a bucket to account for, although its header may have failed. -/
def hasOpened : Except WriteError Unit → Bool
  | .ok () | .error (.encode _) => true
  | .error _ => false

/-- What a call has done: the buckets that were open or that it has opened are open after it, or one
has come to its end. -/
structure Accounts (w : Writer) (opening : Option (Except WriteError Unit)) (t : Turn)
    (ending : Option Ending) : Prop where
  buckets : w.openCount + opening.toList.countP hasOpened =
    ending.toList.length + t.writer.openCount
  health : ∃ n, Health.ofEvents t.events = .substituted n + (ending.toList.map Ending.counts).sum
  refusals : t.writer.sink.calls.map (·.refusal) =
    w.sink.calls.map (·.refusal) ++ ending.toList.filterMap Ending.refusal?

variable {tags : Tags} {sink : Sink} {opening : Option (Except WriteError Unit)}
  {result : Except WriteError Unit} {events : List Event} {n : UInt64}

@[simp] theorem openCount_none : (holding tags sink none).openCount = 0 := rfl

@[simp] theorem openCount_some (d : Draft) : (holding tags sink (some d)).openCount = 1 := rfl

/-- A call that brings no bucket to its end. -/
theorem accounts_going {draft later : Option Draft}
    (hbuckets : (holding tags sink draft).openCount + opening.toList.countP hasOpened =
      (holding tags sink later).openCount)
    (hevents : Health.ofEvents events = .substituted n) :
    Accounts (holding tags sink draft) opening ⟨holding tags sink later, result, events⟩ none where
  buckets := by simpa using hbuckets
  health := ⟨n, by rw [hevents]; exact (add_zero _).symm⟩
  refusals := by simp

/-- A call that gives up a bucket without calling the sink. -/
theorem accounts_givenUp {draft : Option Draft}
    (hbuckets : (holding tags sink draft).openCount + opening.toList.countP hasOpened = 1)
    (hevents : Health.ofEvents events = .substituted n + { bucketsDiscarded := 1 }) :
    Accounts (holding tags sink draft) opening ⟨holding tags sink none, result, events⟩
      (some .givenUp) where
  buckets := by simpa using hbuckets
  health := ⟨n, hevents.trans (congrArg _ (add_zero _).symm)⟩
  refusals := by simp [Ending.refusal?]

/-- A call that calls the sink with a bucket. -/
theorem accounts_sent {draft : Option Draft} (delivery : Delivery)
    (hbuckets : (holding tags sink draft).openCount + opening.toList.countP hasOpened = 1)
    (hevents : Health.ofEvents events = .substituted n) :
    ∃ ending, Accounts (holding tags sink draft) opening (sent tags sink delivery events)
      (some ending) := by
  have hhealth : Health.ofEvents (sent tags sink delivery events).events = _ :=
    ofEvents_sent delivery events
  rw [hevents] at hhealth
  rcases sink.accept_cases delivery with ⟨hanswer, hcalls⟩ | ⟨e, hanswer, hcalls⟩
  · rw [hanswer] at hhealth
    refine ⟨.taken, hbuckets, ⟨n, hhealth⟩, ?_⟩
    simp only [sent, holding_sink, hcalls, List.map_append]
    rfl
  · rw [hanswer] at hhealth
    refine ⟨.refused e, hbuckets, ⟨n, hhealth⟩, ?_⟩
    simp only [sent, holding_sink, hcalls, List.map_append]
    rfl

/-! ### One by one -/

/-- If nothing is open, a bucket is opened or fails for what cannot be encoded. -/
theorem hasOpened_start (tags : Tags) (sink : Sink) (declared : Nat) (start duration : Int64) :
    hasOpened ((holding tags sink none).start declared start duration).result = true := by
  by_cases hw : Draft.IsWritable tags { declared, start, duration }
  · rw [start_eq hw]
    rfl
  · obtain ⟨len, done, he⟩ := start_fails sink hw
    rw [he]
    rfl

section Calls

variable (tags sink) (draft : Option Draft)

theorem start_accounts (declared : Nat) (start duration : Int64) :
    ∃ ending, Accounts (holding tags sink draft)
      ((holding tags sink draft).opening? (.start declared start duration))
      ((holding tags sink draft).start declared start duration) ending := by
  cases draft with
  | some d => exact ⟨_, accounts_givenUp (n := 0) rfl rfl⟩
  | none =>
    have hopened := hasOpened_start tags sink declared start duration
    by_cases hw : Draft.IsWritable tags { declared, start, duration }
    · rw [start_eq hw] at hopened ⊢
      refine ⟨_, accounts_going ?_ (Health.ofEvents_notices _)⟩
      simp [opening?, start_eq hw, hasOpened]
    · obtain ⟨len, done, he⟩ := start_fails sink hw
      rw [he]
      refine ⟨_, accounts_givenUp ?_ (ofEvents_givenUp done rfl)⟩
      simp [opening?, hopened]

theorem add_accounts (key : SeriesKey) (cell : Cell) :
    ∃ ending, Accounts (holding tags sink draft) none ((holding tags sink draft).add key cell)
      ending := by
  cases draft with
  | none => exact ⟨_, accounts_going (n := 0) rfl rfl⟩
  | some d =>
    by_cases hlt : d.records.length < d.declared
    · by_cases hw : ∀ item ∈ recordItems key cell, item.IsWritable
      · rw [add_eq hlt hw]
        exact ⟨_, accounts_going rfl (Health.ofEvents_notices _)⟩
      · obtain ⟨len, done, he⟩ := add_fails tags sink hlt hw
        rw [he]
        exact ⟨_, accounts_givenUp rfl (ofEvents_givenUp done rfl)⟩
    · rw [add_too_many (Nat.not_lt.mp hlt)]
      exact ⟨_, accounts_givenUp (n := 0) rfl rfl⟩

theorem finish_accounts :
    ∃ ending, Accounts (holding tags sink draft) none (holding tags sink draft).finish ending := by
  cases draft with
  | none => exact ⟨_, accounts_going (n := 0) rfl rfl⟩
  | some d =>
    by_cases hc : d.IsComplete
    · rw [finish_eq hc]
      have hbuckets : (holding tags sink (some d)).openCount +
          (none : Option (Except WriteError Unit)).toList.countP hasOpened = 1 := rfl
      have hevents : Health.ofEvents [] = .substituted 0 := rfl
      obtain ⟨ending, h⟩ := accounts_sent (d.delivery tags) hbuckets hevents
      exact ⟨_, h⟩
    · rw [finish_mismatch hc]
      exact ⟨_, accounts_givenUp (n := 0) rfl rfl⟩

theorem reset_accounts :
    ∃ ending, Accounts (holding tags sink draft) none
      ⟨(holding tags sink draft).reset.1, .ok (), (holding tags sink draft).reset.2⟩ ending := by
  simp only [reset, discard_holding]
  cases draft with
  | none => exact ⟨_, accounts_going (n := 0) rfl rfl⟩
  | some d => exact ⟨_, accounts_givenUp (n := 0) rfl rfl⟩

theorem writeBucket_accounts (b : Bucket) :
    ∃ ending, Accounts (holding tags sink draft)
      ((holding tags sink draft).opening? (.writeBucket b))
      ((holding tags sink draft).writeBucket b) ending := by
  cases hempty : b.isEmpty with
  | true =>
    rw [writeBucket_of_isEmpty hempty, opening?, if_pos hempty]
    exact ⟨_, accounts_going (n := 0) rfl rfl⟩
  | false =>
    have hopening (w : Writer) : w.opening? (.writeBucket b) =
        some (w.start b.size b.start b.duration).result := by
      rw [opening?, hempty, if_neg Bool.false_ne_true]
    rw [hopening]
    cases draft with
    | some d =>
      rw [writeBucket_of_open hempty]
      exact ⟨_, accounts_givenUp (n := 0) rfl rfl⟩
    | none =>
      have hbuckets : (holding tags sink none).openCount +
          (some ((holding tags sink none).start b.size b.start b.duration).result).toList.countP
            hasOpened = 1 := by
        simp [hasOpened_start]
      by_cases hw : (Draft.ofBucket b).IsWritable tags
      · rw [writeBucket_of_isWritable hempty hw]
        obtain ⟨ending, h⟩ := accounts_sent ((Draft.ofBucket b).delivery tags) hbuckets
          (Health.ofEvents_notices ((Draft.ofBucket b).items tags))
        exact ⟨_, h⟩
      · obtain ⟨len, done, last, hlast, he⟩ := writeBucket_fails sink hempty hw
        rw [he]
        exact ⟨_, accounts_givenUp hbuckets (ofEvents_givenUp done hlast)⟩

theorem obey_accounts (c : Command) :
    ∃ ending, Accounts (holding tags sink draft) ((holding tags sink draft).opening? c)
      ((holding tags sink draft).obey c) ending := by
  cases c with
  | start declared start duration => exact start_accounts tags sink draft declared start duration
  | add key cell => exact add_accounts tags sink draft key cell
  | finish => exact finish_accounts tags sink draft
  | reset => exact reset_accounts tags sink draft
  | writeBucket b => exact writeBucket_accounts tags sink draft b

end Calls

/-- No call moves two of the three counters, or one of them by more than one. -/
theorem Accounts.change {w : Writer} {t : Turn} {ending : Option Ending}
    (h : Accounts w opening t ending) :
    ((Health.ofEvents t.events).bucketsFlushed, (Health.ofEvents t.events).sinkFailures,
      (Health.ofEvents t.events).bucketsDiscarded) ∈
        [(0, 0, 0), (1, 0, 0), (0, 1, 0), (0, 0, 1)] := by
  obtain ⟨n, hn⟩ := h.health
  rw [hn]
  cases ending with
  | none => exact .head _
  | some ending =>
    cases ending with
    | taken => exact .tail _ (.head _)
    | refused e => exact .tail _ (.tail _ (.head _))
    | givenUp => exact .tail _ (.tail _ (.tail _ (.head _)))

/-! ## Runs -/

structure Run where
  writer : Writer
  /-- What came of the calls of `start`, those that are part of another call among them. -/
  openings : List (Except WriteError Unit) := []
  events : List Event := []

namespace Run

def next (run : Run) (c : Command) : Run :=
  { writer := (run.writer.obey c).writer
    openings := run.openings ++ (run.writer.opening? c).toList
    events := run.events ++ (run.writer.obey c).events }

/-- The run of a writer that is told `commands`. -/
def after (w : Writer) (commands : List Command) : Run := commands.foldl next { writer := w }

theorem after_concat (w : Writer) (commands : List Command) (c : Command) :
    after w (commands ++ [c]) = (after w commands).next c := by
  simp only [after, List.foldl_append, List.foldl_cons, List.foldl_nil]

theorem after_writer (w : Writer) (commands : List Command) :
    (after w commands).writer = w.obeyAll commands := by
  induction commands using List.reverseRecOn with
  | nil => rfl
  | append_singleton commands c ih =>
    rw [after_concat, next, ih, obeyAll, obeyAll, List.foldl_append]
    rfl

/-- The buckets of a run, of a sink that had not been called before, have come to these ends, but
for the one that is open. -/
structure IsBalanced (run : Run) (endings : List Ending) : Prop where
  buckets : run.openings.countP hasOpened = endings.length + run.writer.openCount
  health : ∃ n, Health.ofEvents run.events = .substituted n + (endings.map Ending.counts).sum
  refusals : run.writer.sink.calls.map (·.refusal) = endings.filterMap Ending.refusal?

theorem next_isBalanced {run : Run} {endings : List Ending} (h : run.IsBalanced endings)
    {c : Command} {ending : Option Ending}
    (hc : Accounts run.writer (run.writer.opening? c) (run.writer.obey c) ending) :
    (run.next c).IsBalanced (endings ++ ending.toList) := by
  refine ⟨?_, ?_, ?_⟩
  · have hbefore := h.buckets
    have hcall := hc.buckets
    simp only [next, List.countP_append, List.length_append]
    omega
  · obtain ⟨m, hm⟩ := h.health
    obtain ⟨n, hn⟩ := hc.health
    refine ⟨m + n, ?_⟩
    rw [next, Health.ofEvents_append, hm, hn, List.map_append, List.sum_append,
      ← Health.substituted_add]
    abel
  · rw [next, hc.refusals, h.refusals, List.filterMap_append]

/-- Every call brings at most one bucket to its end. -/
theorem after_isBalanced {plan : List (Option SinkError)} {capacity : Nat} {w : Writer}
    (h : ofCapacity? tags { plan } capacity = some w) (commands : List Command) :
    ∃ endings, endings.length ≤ commands.length ∧ (after w commands).IsBalanced endings := by
  induction commands using List.reverseRecOn with
  | nil =>
    rw [eq_holding_of_ofCapacity? h]
    exact ⟨[], Nat.le_refl 0, rfl, ⟨0, rfl⟩, rfl⟩
  | append_singleton commands c ih =>
    obtain ⟨endings, hlen, hbalanced⟩ := ih
    obtain ⟨sink, draft, hw⟩ := Assembly.obeyAll_eq_holding h commands
    obtain ⟨ending, hc⟩ := obey_accounts tags sink draft c
    rw [← hw, ← after_writer] at hc
    refine ⟨endings ++ ending.toList, ?_, ?_⟩
    · have := Option.length_toList_le (o := ending)
      simp only [List.length_append, List.length_singleton]
      omega
    · rw [after_concat]
      exact next_isBalanced hbalanced hc

/-- After any commands, fewer than 2^64: the buckets that were opened, or could not be for what
cannot be encoded, are those that the sink took, those that it refused, those given up and the one
that is open. The counters tell how often the sink took and refused. No further call moves two of
the three counters, or one of them by more than one. -/
theorem after_balanced {tags : Tags} {plan : List (Option SinkError)} {capacity : Nat} {w : Writer}
    (h : ofCapacity? tags { plan } capacity = some w) (commands : List Command)
    (hlt : commands.length < 2 ^ 64) :
    let run := after w commands
    let health := Health.ofEvents run.events
    run.writer = w.obeyAll commands ∧
      run.openings.countP hasOpened =
        health.bucketsFlushed.toNat + health.sinkFailures.toNat + health.bucketsDiscarded.toNat +
          (if run.writer.isOpen then 1 else 0) ∧
      health.bucketsFlushed.toNat = run.writer.sink.calls.countP (·.refusal.isNone) ∧
      health.sinkFailures.toNat = run.writer.sink.calls.countP (·.refusal.isSome) ∧
      ∀ c,
        let change := Health.ofEvents (run.writer.obey c).events
        (change.bucketsFlushed, change.sinkFailures, change.bucketsDiscarded) ∈
          [(0, 0, 0), (1, 0, 0), (0, 1, 0), (0, 0, 1)] := by
  intro run health
  obtain ⟨endings, hlen, hbalanced⟩ := after_isBalanced h commands
  obtain ⟨n, hhealth⟩ := hbalanced.health
  obtain ⟨hflushed, hfailures, hdiscarded⟩ :
      health.bucketsFlushed.toNat = endings.count .taken ∧
        health.sinkFailures.toNat = endings.countP Ending.isRefused ∧
        health.bucketsDiscarded.toNat = endings.count .givenUp :=
    Ending.toNat_counts endings hhealth (hlen.trans_lt hlt)
  have hcalls (p : Option SinkError → Bool) :
      run.writer.sink.calls.countP (fun call => p call.refusal) =
        (endings.filterMap Ending.refusal?).countP p := by
    rw [← hbalanced.refusals, List.countP_map]
    rfl
  refine ⟨after_writer w commands, ?_, ?_, ?_, ?_⟩
  · rw [hflushed, hfailures, hdiscarded, ← Ending.length_eq]
    exact hbalanced.buckets
  · rw [hflushed, hcalls, Ending.countP_isNone_refusals]
  · rw [hfailures, hcalls, Ending.countP_isSome_refusals]
  · intro c
    obtain ⟨sink, draft, hw⟩ := Assembly.obeyAll_eq_holding h commands
    obtain ⟨ending, hc⟩ := obey_accounts tags sink draft c
    rw [← hw, ← after_writer] at hc
    exact hc.change

/-- A whole bucket that comes while one is open is lost with it, and only one is counted. The next
is refused and the one after it is taken. -/
theorem after_balanced_interrupted :
    let b : Bucket := { start := 7, duration := 5, entries := [(.overflow, .empty default)] }
    let w := holding {} { plan := [some .closed] } none
    let commands : List Command :=
      [.start 1 0 0, .writeBucket b, .writeBucket b, .writeBucket b, .start 2 0 0]
    let run := after w commands
    ofCapacity? {} { plan := [some .closed] } 16 = some w ∧ commands.length < 2 ^ 64 ∧
      run.openings.countP hasOpened = 1 + 1 + 1 + 1 ∧
      Health.ofEvents run.events =
        { bucketsFlushed := 1, sinkFailures := 1, bucketsDiscarded := 1 } := by
  intro b w commands run
  have h : ofCapacity? {} { plan := [some .closed] } 16 = some w := by decide
  have hlt : commands.length < 2 ^ 64 := by decide
  have hhealth : Health.ofEvents run.events =
      { bucketsFlushed := 1, sinkFailures := 1, bucketsDiscarded := 1 } := by decide +kernel
  have hopen : run.writer.isOpen = true := by decide +kernel
  obtain ⟨-, hopened, -⟩ := after_balanced h commands hlt
  refine ⟨h, hlt, hopened.trans ?_, hhealth⟩
  show _ + _ + _ + (if run.writer.isOpen then 1 else 0) = _
  rw [hhealth, hopen]
  rfl

end Run

end Writer

end SpanRollup.Payload
