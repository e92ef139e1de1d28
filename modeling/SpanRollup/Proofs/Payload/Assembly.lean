import SpanRollup.Proofs.Payload.Draft

/-!
# Writers assemble one bucket at a time

An `Assembly` knows no buffer: it has at most one draft, and has sent those that were finished when
they were complete. Main statement: `obeyAll_refines`, a writer does what an assembly does, whatever
it is told and whatever its sink answers.
-/

namespace SpanRollup.Payload

/-- What a writer can be told. -/
inductive Command where
  | start (declared : Nat) (start duration : Int64)
  | add (key : SeriesKey) (cell : Cell)
  | finish
  | reset
  | writeBucket (b : Bucket)

namespace Writer

def obey (w : Writer) : Command → Turn
  | .start declared start duration => w.start declared start duration
  | .add key cell => w.add key cell
  | .finish => w.finish
  | .reset => ⟨w.reset.1, .ok (), w.reset.2⟩
  | .writeBucket b => w.writeBucket b

/-- The writer after some commands, of which any may have failed. -/
def obeyAll (w : Writer) (commands : List Command) : Writer :=
  commands.foldl (fun w c => (w.obey c).writer) w

end Writer

/-- The sink after some calls. -/
def Sink.acceptAll (s : Sink) (deliveries : List Delivery) : Sink :=
  deliveries.foldl (fun s d => (s.accept d).1) s

theorem Sink.acceptAll_concat (s : Sink) (deliveries : List Delivery) (d : Delivery) :
    s.acceptAll (deliveries ++ [d]) = ((s.acceptAll deliveries).accept d).1 := by
  simp [acceptAll]

/-! ## The machine -/

structure Assembly where
  draft : Option Draft := none
  /-- What the sink was called with, in order. -/
  sent : List Draft := []
  deriving DecidableEq

namespace Assembly

variable (tags : Tags)

/-- Opens a draft. One that is open already is lost, and the new one with it. -/
def start (a : Assembly) (declared : Nat) (start duration : Int64) : Assembly :=
  { a with
    draft := match a.draft with
      | none =>
        if Draft.IsWritable tags { declared, start, duration } then
          some { declared, start, duration }
        else none
      | some _ => none }

def add (a : Assembly) (key : SeriesKey) (cell : Cell) : Assembly :=
  { a with
    draft := match a.draft with
      | none => none
      | some d =>
        if d.records.length < d.declared ∧ ∀ item ∈ recordItems key cell, item.IsWritable then
          some (d.push key cell)
        else none }

/-- Sends the draft if it is complete. -/
def finish (a : Assembly) : Assembly :=
  match a.draft with
  | none => a
  | some d => { draft := none, sent := if d.IsComplete then a.sent ++ [d] else a.sent }

def reset (a : Assembly) : Assembly := { a with draft := none }

/-- Sends a whole bucket, unless a draft is in its way or it cannot be written. -/
def writeBucket (a : Assembly) (b : Bucket) : Assembly :=
  if b.isEmpty then a
  else
    { draft := none
      sent :=
        if a.draft = none ∧ (Draft.ofBucket b).IsWritable tags then a.sent ++ [.ofBucket b]
        else a.sent }

def obey (a : Assembly) : Command → Assembly
  | .start declared start duration => a.start tags declared start duration
  | .add key cell => a.add key cell
  | .finish => a.finish
  | .reset => a.reset
  | .writeBucket b => a.writeBucket tags b

def obeyAll (a : Assembly) (commands : List Command) : Assembly := commands.foldl (obey tags) a

/-- Drafts are never longer than declared and can be written, and only complete ones are sent. -/
structure IsSound (a : Assembly) : Prop where
  draft : ∀ d ∈ a.draft, d.records.length ≤ d.declared ∧ d.IsWritable tags
  sent : ∀ d ∈ a.sent, d.IsComplete ∧ d.IsWritable tags

/-- The writer that does the same, with a sink that was `sink` at first. -/
def writer (sink : Sink) (a : Assembly) : Writer :=
  .holding tags (sink.acceptAll (a.sent.map (Draft.delivery tags))) a.draft

variable {tags} {a : Assembly} {sink : Sink}

/-! ## Steps -/

theorem isSound_empty : IsSound tags {} := ⟨by simp, by simp⟩

theorem start_isSound (h : a.IsSound tags) (declared : Nat) (start duration : Int64) :
    (a.start tags declared start duration).IsSound tags := by
  refine ⟨fun d hd => ?_, h.sent⟩
  simp only [Assembly.start] at hd
  cases hdraft : a.draft with
  | some old => simp [hdraft] at hd
  | none =>
    rw [hdraft] at hd
    simp only [Option.mem_def, Option.ite_none_right_eq_some] at hd
    obtain ⟨hw, hd⟩ := hd
    cases hd
    exact ⟨Nat.zero_le _, hw⟩

theorem add_isSound (h : a.IsSound tags) (key : SeriesKey) (cell : Cell) :
    (a.add key cell).IsSound tags := by
  refine ⟨fun d hd => ?_, h.sent⟩
  simp only [Assembly.add] at hd
  cases hdraft : a.draft with
  | none => simp [hdraft] at hd
  | some old =>
    rw [hdraft] at hd
    simp only [Option.mem_def, Option.ite_none_right_eq_some] at hd
    obtain ⟨⟨hlt, hw⟩, hd⟩ := hd
    cases hd
    refine ⟨?_, Draft.push_isWritable.mpr ⟨(h.draft old hdraft).2, hw⟩⟩
    simp only [Draft.push, List.length_append, List.length_singleton]
    exact hlt

theorem finish_isSound (h : a.IsSound tags) : a.finish.IsSound tags := by
  unfold finish
  cases hdraft : a.draft with
  | none => exact h
  | some d =>
    refine ⟨by simp, fun e he => ?_⟩
    by_cases hc : d.IsComplete
    · simp only [hc, if_true, List.mem_append, List.mem_singleton] at he
      rcases he with he | rfl
      · exact h.sent e he
      · exact ⟨hc, (h.draft e hdraft).2⟩
    · simp only [hc, if_false] at he
      exact h.sent e he

theorem reset_isSound (h : a.IsSound tags) : a.reset.IsSound tags := ⟨by simp [reset], h.sent⟩

theorem writeBucket_isSound (h : a.IsSound tags) (b : Bucket) :
    (a.writeBucket tags b).IsSound tags := by
  unfold writeBucket
  split
  · exact h
  refine ⟨by simp, fun d hd => ?_⟩
  by_cases hw : a.draft = none ∧ (Draft.ofBucket b).IsWritable tags
  · simp only [if_pos hw, List.mem_append, List.mem_singleton] at hd
    rcases hd with hd | rfl
    · exact h.sent d hd
    · exact ⟨Draft.ofBucket_isComplete b, hw.2⟩
  · simp only [if_neg hw] at hd
    exact h.sent d hd

theorem obey_isSound (h : a.IsSound tags) (c : Command) : (a.obey tags c).IsSound tags := by
  cases c with
  | start declared start duration => exact start_isSound h declared start duration
  | add key cell => exact add_isSound h key cell
  | finish => exact finish_isSound h
  | reset => exact reset_isSound h
  | writeBucket b => exact writeBucket_isSound h b

theorem start_writer (declared : Nat) (start duration : Int64) :
    ((a.writer tags sink).start declared start duration).writer =
      (a.start tags declared start duration).writer tags sink := by
  obtain ⟨draft, sent⟩ := a
  cases draft with
  | some d => rfl
  | none =>
    by_cases hw : Draft.IsWritable tags { declared, start, duration }
    · simp only [Assembly.writer, Assembly.start, Writer.start_eq hw, if_pos hw]
    · obtain ⟨len, done, he⟩ := Writer.start_fails
        (sink.acceptAll (sent.map (Draft.delivery tags))) hw
      simp only [Assembly.writer, Assembly.start, he, if_neg hw]

theorem add_writer (key : SeriesKey) (cell : Cell) :
    ((a.writer tags sink).add key cell).writer = (a.add key cell).writer tags sink := by
  obtain ⟨draft, sent⟩ := a
  cases draft with
  | none => rfl
  | some d =>
    by_cases hlt : d.records.length < d.declared
    · by_cases hw : ∀ item ∈ recordItems key cell, item.IsWritable
      · simp only [Assembly.writer, Assembly.add, Writer.add_eq hlt hw, if_pos (And.intro hlt hw)]
      · obtain ⟨len, done, he⟩ := Writer.add_fails tags
          (sink.acceptAll (sent.map (Draft.delivery tags))) hlt hw
        simp only [Assembly.writer, Assembly.add, he, if_neg fun h => hw (And.right h)]
    · simp only [Assembly.writer, Assembly.add, Writer.add_too_many (Nat.not_lt.mp hlt),
        if_neg fun h => hlt (And.left h)]

theorem finish_writer : ((a.writer tags sink).finish).writer = a.finish.writer tags sink := by
  obtain ⟨draft, sent⟩ := a
  cases draft with
  | none => rfl
  | some d =>
    by_cases hc : d.IsComplete
    · simp only [Assembly.writer, Assembly.finish, Writer.finish_eq hc, Writer.sent, if_pos hc,
        List.map_append, List.map_singleton, Sink.acceptAll_concat]
    · simp only [Assembly.writer, Assembly.finish, Writer.finish_mismatch hc, if_neg hc]

theorem reset_writer : (a.writer tags sink).reset.1 = a.reset.writer tags sink := by
  simp only [Writer.reset, Assembly.writer, Writer.discard_holding, Assembly.reset]

theorem writeBucket_writer (b : Bucket) :
    ((a.writer tags sink).writeBucket b).writer = (a.writeBucket tags b).writer tags sink := by
  cases hempty : b.isEmpty with
  | true => rw [Writer.writeBucket_of_isEmpty hempty, Assembly.writeBucket, if_pos hempty]
  | false =>
    rw [Assembly.writeBucket, hempty, if_neg Bool.false_ne_true]
    obtain ⟨draft, sent⟩ := a
    cases draft with
    | some d =>
      simp only [Assembly.writer, Writer.writeBucket_of_open hempty, reduceCtorEq, false_and,
        if_false]
    | none =>
      by_cases hw : (Draft.ofBucket b).IsWritable tags
      · simp only [Assembly.writer, Writer.writeBucket_of_isWritable hempty hw, Writer.sent, hw,
          and_self, if_true, List.map_append, List.map_singleton, Sink.acceptAll_concat]
      · obtain ⟨len, done, last, -, he⟩ := Writer.writeBucket_fails
          (sink.acceptAll (sent.map (Draft.delivery tags))) hempty hw
        simp only [Assembly.writer, he, hw, and_false, if_false]

theorem obey_writer (c : Command) :
    ((a.writer tags sink).obey c).writer = (a.obey tags c).writer tags sink := by
  cases c with
  | start declared start duration => exact start_writer declared start duration
  | add key cell => exact add_writer key cell
  | finish => exact finish_writer
  | reset => exact reset_writer
  | writeBucket b => exact writeBucket_writer b

/-! ## Runs -/

theorem obeyAll_isSound (h : a.IsSound tags) (commands : List Command) :
    (a.obeyAll tags commands).IsSound tags := by
  induction commands generalizing a with
  | nil => exact h
  | cons c cs ih => exact ih (obey_isSound h c)

theorem obeyAll_writer (commands : List Command) :
    (a.writer tags sink).obeyAll commands = (a.obeyAll tags commands).writer tags sink := by
  induction commands generalizing a with
  | nil => rfl
  | cons c cs ih =>
    rw [Writer.obeyAll, List.foldl_cons, obey_writer]
    exact ih

/-- Whatever a writer has been told, it holds a draft or nothing. -/
theorem obeyAll_eq_holding {capacity : Nat} {w : Writer}
    (h : Writer.ofCapacity? tags sink capacity = some w) (commands : List Command) :
    ∃ later draft, w.obeyAll commands = .holding tags later draft := by
  rw [Writer.eq_holding_of_ofCapacity? h]
  exact ⟨_, _, obeyAll_writer (a := {}) commands⟩

/-! ## Calls of the sink -/

/-- The sink is called when a complete draft is finished, alone or as a whole bucket. -/
theorem obey_sent (tags : Tags) (a : Assembly) (c : Command) :
    (a.obey tags c).sent = a.sent ∨
      ∃ d, (a.obey tags c).sent = a.sent ++ [d] ∧ d.IsComplete ∧
        (c = .finish ∧ a.draft = some d ∨
          ∃ b, c = .writeBucket b ∧ b.isEmpty = false ∧ a.draft = none ∧ d = .ofBucket b) := by
  cases c with
  | start declared start duration => exact .inl rfl
  | add key cell => exact .inl rfl
  | reset => exact .inl rfl
  | finish =>
    simp only [obey, finish]
    cases hd : a.draft with
    | none => exact .inl rfl
    | some d =>
      by_cases hc : d.IsComplete
      · exact .inr ⟨d, if_pos hc, hc, .inl ⟨trivial, rfl⟩⟩
      · exact .inl (if_neg hc)
  | writeBucket b =>
    simp only [obey, writeBucket]
    cases he : b.isEmpty with
    | true => exact .inl rfl
    | false =>
      by_cases hw : a.draft = none ∧ (Draft.ofBucket b).IsWritable tags
      · exact .inr ⟨.ofBucket b, if_pos hw, Draft.ofBucket_isComplete b,
          .inr ⟨b, rfl, he, hw.1, rfl⟩⟩
      · exact .inl (if_neg hw)

/-- A new writer that is given all of a draft at once sends what `Draft.delivery` says. -/
theorem finish_assemble_sink {d : Draft} (hc : d.IsComplete) (hw : d.IsWritable tags) :
    (((Writer.holding tags sink none).assemble d.toBucket).andThen Writer.finish).writer.sink =
      (sink.accept (d.delivery tags)).1 := by
  have hb := Draft.ofBucket_toBucket hc
  rw [Writer.assemble_eq (hb.symm ▸ hw), hb, Turn.andThen_ok]
  rw [Writer.finish_eq hc]
  rfl

end Assembly

/-- After any commands, a new writer is as the assembly says: its buffer is empty, or it holds the
draft and nothing else. Its sink has had the calls that the assembly has sent, each with a single
message, the payload that a new writer makes of that draft alone. -/
theorem obeyAll_refines {tags : Tags} {sink : Sink} {capacity : Nat} {w : Writer}
    (h : Writer.ofCapacity? tags sink capacity = some w) (commands : List Command) :
    let a := Assembly.obeyAll tags {} commands
    w.obeyAll commands =
        .holding tags (sink.acceptAll (a.sent.map (Draft.delivery tags))) a.draft ∧
      (∀ d ∈ a.draft, d.records.length ≤ d.declared ∧ d.IsWritable tags) ∧
      (∀ d ∈ a.sent, d.IsComplete ∧ ∀ other room fresh,
        Writer.ofCapacity? tags other room = some fresh →
          ((fresh.assemble d.toBucket).andThen Writer.finish).writer.sink =
            (other.accept (d.delivery tags)).1) ∧
      ∀ c, ((w.obeyAll commands).obey c).writer.sink = (w.obeyAll commands).sink ∨
        ∃ d, ((w.obeyAll commands).obey c).writer.sink =
            ((w.obeyAll commands).sink.accept (d.delivery tags)).1 ∧
          d.IsComplete ∧ (Assembly.obeyAll tags {} (commands ++ [c])).sent = a.sent ++ [d] ∧
          (c = .finish ∧ a.draft = some d ∨
            ∃ b, c = .writeBucket b ∧ b.isEmpty = false ∧ a.draft = none ∧ d = .ofBucket b) := by
  intro a
  have hrun : w.obeyAll commands = a.writer tags sink := by
    rw [Writer.eq_holding_of_ofCapacity? h]
    exact Assembly.obeyAll_writer (a := {}) commands
  have hsound : a.IsSound tags := Assembly.obeyAll_isSound Assembly.isSound_empty commands
  refine ⟨hrun, hsound.draft, fun d hd => ⟨(hsound.sent d hd).1, fun other room fresh hf => ?_⟩,
    fun c => ?_⟩
  · rw [Writer.eq_holding_of_ofCapacity? hf]
    exact Assembly.finish_assemble_sink (hsound.sent d hd).1 (hsound.sent d hd).2
  rw [hrun, Assembly.obey_writer]
  have hnext : Assembly.obeyAll tags {} (commands ++ [c]) = a.obey tags c := by
    simp only [Assembly.obeyAll, List.foldl_append, List.foldl_cons, List.foldl_nil, a]
  rcases Assembly.obey_sent tags a c with hs | ⟨d, hs, hc, hwhen⟩
  · exact .inl (by simp only [Assembly.writer, Writer.holding_sink, hs])
  · refine .inr ⟨d, ?_, hc, hnext ▸ hs, hwhen⟩
    simp only [Assembly.writer, Writer.holding_sink, hs, List.map_append, List.map_singleton,
      Sink.acceptAll_concat]

/-- The bucket that was opened first is lost, and the empty one after it is sent alone. -/
theorem obeyAll_refines_restarted :
    Writer.ofCapacity? {} {} 16 = some (.holding {} {} none) ∧
      (Assembly.obeyAll {} {} [.start 2 7 5, .start 1 8 5, .start 0 9 5, .finish]).sent =
        [{ declared := 0, start := 9, duration := 5 }] ∧
      (Writer.holding {} {} none).obeyAll [.start 2 7 5, .start 1 8 5, .start 0 9 5, .finish] =
        .holding {}
          (Sink.acceptAll {} [Draft.delivery {} { declared := 0, start := 9, duration := 5 }])
          none := by
  have h : Writer.ofCapacity? {} {} 16 = some (.holding {} {} none) := by decide
  have hs : Assembly.obeyAll {} {} [.start 2 7 5, .start 1 8 5, .start 0 9 5, .finish] =
      ⟨none, [{ declared := 0, start := 9, duration := 5 }]⟩ := by decide +kernel
  have := (obeyAll_refines h [.start 2 7 5, .start 1 8 5, .start 0 9 5, .finish]).1
  rw [hs] at this
  exact ⟨h, by rw [hs], this⟩

end SpanRollup.Payload
