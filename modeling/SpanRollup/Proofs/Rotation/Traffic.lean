import SpanRollup.Proofs.Rotation.Steps

/-!
# Traffic at a mailbox

Buckets are handed off to a mailbox, and its reader receives them until it closes the mailbox, in
any order of steps. Each bucket with something in it is received, waits in the queue, was lost with
the queue when the reader closed it, or was dropped and counted.

- `Traffic`: a mailbox with what has become of the buckets.
- `Traffic.IsAccounted`: the accounts, which every step keeps.
- `each_accounted`: where all buckets are at any moment, and what comes of the next one.
-/

namespace SpanRollup

/-! ## One bucket -/

/-- The buckets with something in them. -/
def worth (bs : List Bucket) : List Bucket := bs.filter fun b => !b.isEmpty

theorem worth_append (bs cs : List Bucket) : worth (bs ++ cs) = worth bs ++ worth cs :=
  List.filter_append _ _

theorem worth_singleton (b : Bucket) : worth [b] = if b.isEmpty = true then [] else [b] := by
  rw [worth, List.filter_singleton]
  cases b.isEmpty <;> rfl

/-- What dropped buckets add to the counters. -/
def Health.dropped (bs : List Bucket) : Health :=
  { bucketsDropped := .ofNat bs.length, hitsDropped := (bs.map Bucket.hits).sum }

theorem Health.dropped_append (bs cs : List Bucket) :
    dropped (bs ++ cs) = dropped bs + dropped cs := by
  simp [dropped, add_eq, UInt64.ofNat_add]

theorem Health.dropped_singleton (b : Bucket) :
    dropped [b] = { bucketsDropped := 1, hitsDropped := b.hits } := by
  simp [dropped]

theorem handOff_of_closed {m : Mailbox Bucket} {b : Bucket} (h : b.isEmpty = false)
    (hc : m.isClosed = true) : handOff m b = (m, false, [.writerGone b.size b.hits]) := by
  rw [handOff, if_neg (by simp [h]), Mailbox.send, if_pos hc]

/-- A bucket is queued if there is something in it, a reader and room. If not, the mailbox stays as
it was, and only a bucket with something in it is counted. -/
theorem handOff_cases (m : Mailbox Bucket) (b : Bucket) :
    (∃ events, handOff m b = (m, false, events) ∧
        (b.isEmpty = true ∨ m.isClosed = true ∨ m.isFull = true) ∧
        Health.ofEvents events = .dropped (worth [b])) ∨
      (handOff m b = ({ m with queue := m.queue ++ [b] }, true, []) ∧
        b.isEmpty = false ∧ m.isClosed = false ∧ m.isFull = false) := by
  cases he : b.isEmpty with
  | true =>
    refine .inl ⟨_, handOff_empty he m, .inl rfl, ?_⟩
    rw [worth_singleton, he]
    rfl
  | false =>
    rw [worth_singleton, he, if_neg Bool.false_ne_true, Health.dropped_singleton]
    rcases Bool.eq_false_or_eq_true m.isClosed with hc | hc
    · exact .inl ⟨_, handOff_of_closed he hc, .inr (.inl hc), Health.ofEvents_singleton _⟩
    rcases Bool.eq_false_or_eq_true m.isFull with hf | hf
    · exact .inl ⟨_, handOff_of_full he hc hf, .inr (.inr hf), Health.ofEvents_singleton _⟩
    · exact .inr ⟨handOff_of_room he hc hf, rfl, hc, hf⟩

/-! ## Steps -/

/-- A mailbox, and what has become of the buckets that were handed off to it. -/
structure Traffic where
  mailbox : Mailbox Bucket
  /-- The buckets that were handed off, each with whether it was queued. -/
  answers : List (Bucket × Bool) := []
  received : List Bucket := []
  /-- What was in the queue when the reader closed the mailbox. -/
  lost : List Bucket := []
  events : List Event := []

namespace Traffic

/-- A step of one of the two sides. -/
inductive Step where
  | handOff (b : Bucket)
  | receive
  | close
  deriving DecidableEq

def Step.bucket? : Step → Option Bucket
  | handOff b => some b
  | receive | close => none

def next (t : Traffic) : Step → Traffic
  | .handOff b =>
    let (mailbox, queued, events) := SpanRollup.handOff t.mailbox b
    { t with mailbox, answers := t.answers ++ [(b, queued)], events := t.events ++ events }
  | .receive =>
    let (mailbox, b) := t.mailbox.receive
    { t with mailbox, received := t.received ++ b.toList }
  | .close => { t with mailbox := t.mailbox.close, lost := t.lost ++ t.mailbox.queue }

/-- What steps lead to at an empty mailbox with room for `capacity` buckets. -/
def after (capacity : Nat) (hpos : 0 < capacity) (steps : List Step) : Traffic :=
  steps.foldl next { mailbox := { capacity, capacity_pos := hpos } }

/-- The buckets that were queued. -/
def queued (t : Traffic) : List Bucket := (t.answers.filter (·.2)).map (·.1)

/-- The buckets with something in them that were not queued. -/
def dropped (t : Traffic) : List Bucket := worth ((t.answers.filter (!·.2)).map (·.1))

theorem queued_answer (t : Traffic) (b : Bucket) (answer : Bool) :
    queued { t with answers := t.answers ++ [(b, answer)] } =
      t.queued ++ if answer = true then [b] else [] := by
  rw [queued, List.filter_append, List.map_append, List.filter_singleton]
  cases answer <;> rfl

theorem dropped_answer (t : Traffic) (b : Bucket) (answer : Bool) :
    dropped { t with answers := t.answers ++ [(b, answer)] } =
      t.dropped ++ if answer = true then [] else worth [b] := by
  rw [dropped, List.filter_append, List.map_append, worth_append, List.filter_singleton]
  cases answer <;> rfl

/-- What is worth a message is queued or dropped. -/
theorem worth_answers_perm (t : Traffic) :
    (worth (t.answers.map (·.1))).Perm (worth t.queued ++ t.dropped) := by
  have hsplit := (List.filter_append_perm (fun x : Bucket × Bool => x.2) t.answers).symm
  rw [queued, dropped, ← worth_append, ← List.map_append]
  exact (hsplit.map _).filter _

/-! ## Accounts -/

/-- The accounts of a mailbox with room for `capacity` buckets, after some steps. -/
structure IsAccounted (capacity : Nat) (steps : List Step) (t : Traffic) : Prop where
  capacity_eq : t.mailbox.capacity = capacity
  answers : t.answers.map (·.1) = steps.filterMap Step.bucket?
  /-- What was queued leaves the queue in order, and all at once when the reader closes. -/
  queued : t.queued = t.received ++ t.lost ++ t.mailbox.queue
  queued_worth : ∀ b ∈ t.queued, b.isEmpty = false
  length_le : t.mailbox.queue.length ≤ capacity
  isClosed_iff : t.mailbox.isClosed = true ↔ .close ∈ steps
  closed : t.mailbox.isClosed = true → t.mailbox.queue = []
  isOpen : t.mailbox.isClosed = false → t.lost = []
  health : Health.ofEvents t.events = .dropped t.dropped

variable {capacity : Nat} {steps : List Step} {t : Traffic}

namespace IsAccounted

theorem empty (capacity : Nat) (hpos : 0 < capacity) :
    IsAccounted capacity [] { mailbox := { capacity, capacity_pos := hpos } } where
  capacity_eq := rfl
  answers := rfl
  queued := rfl
  queued_worth := nofun
  length_le := Nat.zero_le _
  isClosed_iff := by simp
  closed := nofun
  isOpen := fun _ => rfl
  health := rfl

/-- Only a full mailbox has no room. -/
theorem isFull_iff (h : IsAccounted capacity steps t) :
    t.mailbox.isFull = true ↔ t.mailbox.queue.length = capacity := by
  have hle := h.length_le
  rw [Mailbox.isFull, h.capacity_eq, decide_eq_true_iff]
  omega

theorem next_handOff (h : IsAccounted capacity steps t) (b : Bucket) :
    IsAccounted capacity (steps ++ [.handOff b]) (t.next (.handOff b)) := by
  have hanswers (answer : Bool) :
      (t.answers ++ [(b, answer)]).map (·.1) =
        (steps ++ [Step.handOff b]).filterMap Step.bucket? := by
    rw [List.map_append, List.filterMap_append, h.answers]
    rfl
  have hclosed : t.mailbox.isClosed = true ↔ .close ∈ steps ++ [.handOff b] := by
    simp [h.isClosed_iff]
  rcases handOff_cases t.mailbox b with ⟨events, he, -, hes⟩ | ⟨he, hworth, hopen, hroom⟩
  · have hqueued := t.queued_answer b false
    rw [if_neg Bool.false_ne_true, List.append_nil] at hqueued
    simp only [Traffic.next, he]
    exact
      { h with
        answers := hanswers false
        queued := hqueued.trans h.queued
        queued_worth := fun c hc => h.queued_worth c (hqueued ▸ hc)
        isClosed_iff := hclosed
        health := by
          have hdropped := t.dropped_answer b false
          rw [if_neg Bool.false_ne_true] at hdropped
          rw [Health.ofEvents_append, h.health, hes, ← Health.dropped_append]
          exact congrArg _ hdropped.symm }
  · have hqueued := t.queued_answer b true
    rw [if_pos rfl] at hqueued
    simp only [Traffic.next, he]
    refine
      { h with
        answers := hanswers true
        queued := hqueued.trans (by rw [h.queued, List.append_assoc])
        queued_worth := ?_
        length_le := ?_
        isClosed_iff := hclosed
        closed := fun hc => absurd hc (by simp [hopen])
        health := ?_ }
    · intro c hc
      rcases List.mem_append.mp (hqueued ▸ hc) with hc | hc
      · exact h.queued_worth c hc
      · rw [List.mem_singleton.mp hc]
        exact hworth
    · have hle := h.length_le
      have hne := mt h.isFull_iff.mpr (by simp [hroom])
      simp only [List.length_append, List.length_singleton]
      omega
    · have hdropped := t.dropped_answer b true
      rw [if_pos rfl, List.append_nil] at hdropped
      rw [List.append_nil, h.health]
      exact congrArg _ hdropped.symm

theorem next_receive (h : IsAccounted capacity steps t) :
    IsAccounted capacity (steps ++ [.receive]) (t.next .receive) := by
  have hanswers := h.answers
  have hclosed : t.mailbox.isClosed = true ↔ .close ∈ steps ++ [.receive] := by
    simp [h.isClosed_iff]
  simp only [Traffic.next, Mailbox.receive]
  refine
    { h with
      answers := by simp [h.answers, Step.bucket?]
      queued := ?_
      length_le := ?_
      isClosed_iff := hclosed
      closed := ?_ }
  · -- The queue holds something only as long as nothing was lost.
    refine h.queued.trans ?_
    cases hq : t.mailbox.queue with
    | nil => simp
    | cons b rest =>
      have hopen : t.mailbox.isClosed = false := by
        by_contra hc
        rw [h.closed (Bool.eq_true_of_not_eq_false hc)] at hq
        cases hq
      simp [h.isOpen hopen]
  · have := h.length_le
    simp only [List.length_tail]
    omega
  · intro hc
    simp only [h.closed hc, List.tail_nil]

theorem next_close (h : IsAccounted capacity steps t) :
    IsAccounted capacity (steps ++ [.close]) (t.next .close) := by
  simp only [Traffic.next, Mailbox.close]
  exact
    { h with
      answers := by simp [h.answers, Step.bucket?]
      queued := by
        refine h.queued.trans ?_
        simp
      length_le := Nat.zero_le _
      isClosed_iff := by simp
      closed := fun _ => rfl
      isOpen := fun hopen => absurd hopen (by simp) }

theorem next (h : IsAccounted capacity steps t) (step : Step) :
    IsAccounted capacity (steps ++ [step]) (t.next step) := by
  cases step with
  | handOff b => exact h.next_handOff b
  | receive => exact h.next_receive
  | close => exact h.next_close

end IsAccounted

theorem after_isAccounted (capacity : Nat) (hpos : 0 < capacity) (steps : List Step) :
    IsAccounted capacity steps (after capacity hpos steps) := by
  induction steps using List.reverseRecOn with
  | nil => exact .empty capacity hpos
  | append_singleton steps step ih =>
    rw [after, List.foldl_append]
    exact ih.next step

/-- What comes of the next bucket. -/
theorem IsAccounted.handOff_eq (h : IsAccounted capacity steps t) (b : Bucket) :
    ∃ events,
      if b.isEmpty = true then
        handOff t.mailbox b = (t.mailbox, false, events) ∧ Health.ofEvents events = 0
      else if t.mailbox.queue.length = capacity ∨ .close ∈ steps then
        handOff t.mailbox b = (t.mailbox, false, events) ∧
          Health.ofEvents events = { bucketsDropped := 1, hitsDropped := b.hits }
      else
        handOff t.mailbox b = ({ t.mailbox with queue := t.mailbox.queue ++ [b] }, true, events) ∧
          Health.ofEvents events = 0 := by
  have hshut : t.mailbox.isClosed = true ∨ t.mailbox.isFull = true ↔
      t.mailbox.queue.length = capacity ∨ .close ∈ steps := by
    rw [h.isFull_iff, h.isClosed_iff, or_comm]
  rcases handOff_cases t.mailbox b with ⟨events, he, hreason, hes⟩ | ⟨he, hworth, hopen, hroom⟩
  · refine ⟨events, ?_⟩
    rw [worth_singleton] at hes
    split
    · next hempty =>
      rw [if_pos hempty] at hes
      exact ⟨he, hes⟩
    · next hworth =>
      rw [if_neg hworth, Health.dropped_singleton] at hes
      rw [if_pos (hshut.mp (hreason.resolve_left hworth))]
      exact ⟨he, hes⟩
  · refine ⟨[], ?_⟩
    rw [if_neg (by simp [hworth]), if_neg (mt hshut.mpr (by simp [hopen, hroom]))]
    exact ⟨he, rfl⟩

/-- At any moment the buckets received are the first of those that were queued, in order, and no
more wait than there is room for, none once the reader is gone. A bucket with something in it is not
queued exactly if there is no room or no reader, and then it is counted; an empty one changes
nothing. So each bucket with something in it was received, waits, was lost with the queue or was
dropped, and the counters tell of those that were dropped. -/
theorem each_accounted (capacity : Nat) (hpos : 0 < capacity) (steps : List Step) :
    let t := after capacity hpos steps
    t.answers.map (·.1) = steps.filterMap Step.bucket? ∧
      t.received <+: t.queued ∧
      t.mailbox.queue.length ≤ capacity ∧
      (.close ∈ steps → t.mailbox.queue = []) ∧
      (∀ b, ∃ events,
        if b.isEmpty = true then
          handOff t.mailbox b = (t.mailbox, false, events) ∧ Health.ofEvents events = 0
        else if t.mailbox.queue.length = capacity ∨ .close ∈ steps then
          handOff t.mailbox b = (t.mailbox, false, events) ∧
            Health.ofEvents events = { bucketsDropped := 1, hitsDropped := b.hits }
        else
          handOff t.mailbox b =
              ({ t.mailbox with queue := t.mailbox.queue ++ [b] }, true, events) ∧
            Health.ofEvents events = 0) ∧
      Health.ofEvents t.events =
        { bucketsDropped := .ofNat t.dropped.length
          hitsDropped := (t.dropped.map Bucket.hits).sum } ∧
      t.queued = t.received ++ t.lost ++ t.mailbox.queue ∧
      (.close ∉ steps → t.lost = []) ∧
      (worth (t.answers.map (·.1))).Perm
        (t.received ++ t.lost ++ t.mailbox.queue ++ t.dropped) := by
  intro t
  have h : IsAccounted capacity steps t := after_isAccounted capacity hpos steps
  have hworth : worth t.queued = t.queued := by
    refine List.filter_eq_self.mpr fun b hb => ?_
    rw [h.queued_worth b hb]
    rfl
  refine ⟨h.answers, ?_, h.length_le, fun hc => h.closed (h.isClosed_iff.mpr hc), h.handOff_eq,
    h.health, h.queued, fun hc => ?_, ?_⟩
  · rw [h.queued, List.append_assoc]
    exact List.prefix_append _ _
  · exact h.isOpen (Bool.eq_false_iff.mpr (mt h.isClosed_iff.mp hc))
  · rw [← h.queued, ← hworth]
    exact t.worth_answers_perm

/-- One bucket is received, the next is lost when the reader closes, and two are dropped: one for
want of room and one for want of a reader. -/
theorem each_accounted_closed :
    let cell := (Cell.empty default).record { duration := 1 }
    let b : Bucket := { start := 1, duration := 5, entries := [(.overflow, cell)] }
    let c : Bucket := { b with start := 6 }
    let steps : List Step :=
      [.handOff b, .handOff c, .receive, .handOff c, .handOff { b with entries := [] }, .close,
        .handOff b, .receive]
    0 < 1 ∧
      let t := after 1 Nat.one_pos steps
      t.received = [b] ∧ t.lost = [c] ∧ t.dropped = [c, b] ∧
        (worth (t.answers.map (·.1))).Perm [b, c, c, b] ∧
        Health.ofEvents t.events = { bucketsDropped := 2, hitsDropped := 2 } := by
  intro cell b c steps
  refine ⟨Nat.one_pos, ?_⟩
  intro t
  obtain ⟨hreceived, hlost, hqueue, hdropped, hhits⟩ :
      t.received = [b] ∧ t.lost = [c] ∧ t.mailbox.queue = [] ∧ t.dropped = [c, b] ∧
        (t.dropped.map Bucket.hits).sum = 2 := by decide +kernel
  obtain ⟨-, -, -, -, -, hhealth, -, -, hperm⟩ := each_accounted 1 Nat.one_pos steps
  refine ⟨hreceived, hlost, hdropped, ?_, ?_⟩
  · have hall : t.received ++ t.lost ++ t.mailbox.queue ++ t.dropped = [b, c, c, b] := by
      rw [hreceived, hlost, hqueue, hdropped]
      rfl
    exact hall ▸ hperm
  · refine hhealth.trans ?_
    rw [hhits, hdropped]
    rfl

end Traffic

end SpanRollup
