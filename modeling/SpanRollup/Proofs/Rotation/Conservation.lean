import SpanRollup.Proofs.Rotation.Steps

/-!
# Runs lose nothing uncounted

The books are kept through a whole run: its windows, the shutdown, and what comes too late. Main
statement: `run_conserves`, every observation of a run is in the payload of a window that the sink
took, or in a window that was refused, discarded or dropped and counted as such. A rotation whose
first tick is out of the clock's reach cannot start, and then nothing is counted.
-/

namespace SpanRollup

open Payload

/-! ## Windows and their histories -/

/-- All observations of a window were taken in. -/
def IsAdmitted (os : List (SeriesKey × Observation)) (admissions : List Admission) : Prop :=
  os.length = admissions.length ∧ .rejected ∉ admissions

/-- The histories of the windows with something in them. -/
def windowHistories (oss : List (List (SeriesKey × Observation)))
    (answers : List (List Admission)) : List History :=
  (List.zipWith History.ofWindow oss answers).filter (· ≠ [])

section Windows

variable {os : List (SeriesKey × Observation)} {oss : List (List (SeriesKey × Observation))}
  {admissions : List Admission} {answers : List (List Admission)}

theorem IsAdmitted.ofWindow_eq_nil (h : IsAdmitted os admissions) :
    History.ofWindow os admissions = [] ↔ os = [] := by
  rw [← List.length_eq_zero_iff, History.length_ofWindow h.1 h.2, List.length_eq_zero_iff]

theorem windowHistories_concat (h : oss.length = answers.length)
    (os : List (SeriesKey × Observation)) (admissions : List Admission) :
    windowHistories (oss ++ [os]) (answers ++ [admissions]) =
      windowHistories oss answers ++ [History.ofWindow os admissions].filter (· ≠ []) := by
  unfold windowHistories
  rw [List.zipWith_append h, List.filter_append]
  rfl

end Windows

/-! ## Runs -/

/-- The books after some windows were closed, and the next one is empty yet. -/
structure Books.Covers (books : Books) (oss : List (List (SeriesKey × Observation)))
    (answers : List (List Admission)) : Prop where
  current : books.current = []
  isShutdown : books.isShutdown = false
  admissions : books.admissions = answers.flatten
  admitted : List.Forall₂ IsAdmitted oss answers
  histories : books.closings.map (·.history) = windowHistories oss answers

theorem Books.Covers.continues {books later : Books}
    {oss : List (List (SeriesKey × Observation))} {answers : List (List Admission)}
    (h : books.Covers oss answers) (hc : books.Continues later) : later.Covers oss answers :=
  ⟨hc.current.trans h.current, hc.isShutdown.trans h.isShutdown,
    hc.admissions.trans h.admissions, h.admitted, hc.histories.trans h.histories⟩

/-- The books of a run that has ended. Nothing is in flight any more. -/
structure Books.Concludes (books : Books) (oss : List (List (SeriesKey × Observation)))
    (final late : List (SeriesKey × Observation)) (out : Rotation.Outcome) : Prop where
  admitted : List.Forall₂ IsAdmitted (oss ++ [final]) out.windows
  histories : books.closings.map (·.history) = windowHistories (oss ++ [final]) out.windows
  settled : ∀ c ∈ books.closings, c.fate.isSome
  last : final ≠ [] → ∃ c, books.closings.getLast? = some c ∧ c.fate ≠ some .dropped
  admissions : books.admissions = out.windows.flatten ++ out.late
  rejections : out.late = List.replicate late.length .rejected
  current : books.current = []
  isShutdown : books.isShutdown = true

namespace Rotation

variable {tags : Tags} {resolution : Resolution} {books : Books} {r : Rotation} {pace : Pace}
  {os : List (SeriesKey × Observation)} {oss : List (List (SeriesKey × Observation))}
  {answers : List (List Admission)}

namespace Keeps

theorem follow (h : Keeps tags resolution books r) (hp : pace = .keepsUp ∨ pace = .stalls) :
    ∃ later, Keeps tags resolution later (r.follow pace) ∧ books.Continues later := by
  rcases hp with rfl | rfl
  · obtain ⟨later, hk, hc, -⟩ := h.drain
    exact ⟨later, hk, hc⟩
  · obtain ⟨later, hk, hc, -⟩ := h.takeUp
    exact ⟨later, hk, hc⟩

/-- Observations of an open window are all taken in. -/
theorem admits (h : Keeps tags resolution books r) (hopen : books.isShutdown = false)
    (os : List (SeriesKey × Observation)) :
    Keeps tags resolution (books.enter os (r.observeAll os).2) (r.observeAll os).1 ∧
      IsAdmitted os (r.observeAll os).2 := by
  obtain ⟨hk, hlen, hanswers⟩ := h.observeAll os
  refine ⟨hk, hlen, fun hmem => ?_⟩
  have := (hanswers _ hmem).mp rfl
  rw [hopen] at this
  cases this

theorem window (h : Keeps tags resolution books r) (hb : books.Covers oss answers)
    (hp : pace = .keepsUp ∨ pace = .stalls) (start : Int64)
    (os : List (SeriesKey × Observation)) :
    ∃ later, Keeps tags resolution later (r.window pace start os).1 ∧
      later.Covers (oss ++ [os]) (answers ++ [(r.window pace start os).2]) := by
  obtain ⟨hk, hadmitted⟩ := h.admits hb.isShutdown os
  have hadmissions : (books.enter os (r.observeAll os).2).admissions =
      (answers ++ [(r.observeAll os).2]).flatten := by
    simp [Books.enter, hb.admissions]
  have hwindows := List.rel_append hb.admitted (List.Forall₂.cons hadmitted .nil)
  have hhistories := windowHistories_concat hb.admitted.length_eq os (r.observeAll os).2
  simp only [Rotation.window]
  cases hos : os.isEmpty with
  | true =>
    have hnil : os = [] := List.isEmpty_iff.mp hos
    have hempty := hadmitted.ofWindow_eq_nil.mpr hnil
    refine ⟨_, hk, ?_, hb.isShutdown, hadmissions, hwindows, ?_⟩
    · simp [Books.enter, hb.current, hempty]
    · rw [hhistories, hempty]
      simpa [Books.enter] using hb.histories
  | false =>
    obtain ⟨b, fate, hclosed⟩ := hk.start.tick start
    obtain ⟨later, hlater, hc⟩ := hclosed.follow hp
    refine ⟨later, hlater, Books.Covers.continues ?_ hc⟩
    refine ⟨rfl, hb.isShutdown, hadmissions, hwindows, ?_⟩
    rw [Books.histories_close, hhistories]
    simp [Books.enter, hb.histories, hb.current]

theorem windows (h : Keeps tags resolution books r) (hb : books.Covers [] [])
    (hp : pace = .keepsUp ∨ pace = .stalls) (start : Int64)
    (oss : List (List (SeriesKey × Observation))) :
    ∃ later, Keeps tags resolution later (r.windows pace start oss).1 ∧
      later.Covers oss (r.windows pace start oss).2 := by
  induction oss using List.reverseRecOn with
  | nil => exact ⟨books, h, hb⟩
  | append_singleton oss os ih =>
    obtain ⟨later, hk, hcovers⟩ := ih
    have hrun : r.windows pace start (oss ++ [os]) =
        (((r.windows pace start oss).1.window pace start os).1,
          (r.windows pace start oss).2 ++
            [((r.windows pace start oss).1.window pace start os).2]) := by
      unfold Rotation.windows
      rw [List.foldl_append, List.foldl_cons, List.foldl_nil]
    rw [hrun]
    exact hk.window hcovers hp start os

/-- The last bucket is never dropped: it waits for room. -/
theorem handOverLast (h : Keeps tags resolution books r) {history : History} {b : Bucket}
    (ht : Tallies resolution history b.entries) (hempty : b.isEmpty = true ↔ history = []) :
    ∃ later, Keeps tags resolution later (r.handOverLast b) ∧
      later.closings.map Closing.lasting =
        books.closings.map Closing.lasting ++
          (if history = [] then [] else [(history, b, false)]) ∧
      later.current = books.current ∧ later.admissions = books.admissions ∧
      later.isShutdown = books.isShutdown := by
  unfold Rotation.handOverLast
  by_cases hnil : history = []
  · rw [if_pos (hempty.mpr hnil), if_pos hnil, List.append_nil]
    exact ⟨books, h, rfl, rfl, rfl, rfl⟩
  rw [if_neg (mt hempty.mp hnil), if_neg hnil]
  obtain ⟨later, hk, hc, hroom⟩ : ∃ later,
      Keeps tags resolution later (if r.pending.isFull then r.drain else r) ∧
        books.Continues later ∧
        (if r.pending.isFull then r.drain else r).pending.isFull = false := by
    split
    · obtain ⟨later, hk, hc, -, hq⟩ := h.drain
      refine ⟨later, hk, hc, ?_⟩
      simpa [Mailbox.isFull, hq] using r.drain.pending.capacity_pos.ne'
    · next hfull => exact ⟨books, h, .refl books, Bool.eq_false_iff.mpr hfull⟩
  generalize (if r.pending.isFull then r.drain else r) = ready at hk hroom
  dsimp only
  rw [Mailbox.send_of_room hk.isOpen hroom]
  refine ⟨_, hk.queue hnil ht, ?_, hc.current, hc.admissions, hc.isShutdown⟩
  rw [List.map_append, hc.lasting]
  rfl

theorem shutDown (h : Keeps tags resolution books r) (hp : pace = .keepsUp ∨ pace = .stalls)
    (start : Int64) :
    ∃ later, Keeps tags resolution later (r.shutDown pace start) ∧
      later.closings.map (·.history) =
        books.closings.map (·.history) ++ [books.current].filter (· ≠ []) ∧
      (books.current ≠ [] → ∃ c, later.closings.getLast? = some c ∧ c.fate ≠ some .dropped) ∧
      (∀ c ∈ later.closings, c.fate.isSome) ∧
      later.current = [] ∧ later.admissions = books.admissions ∧ later.isShutdown = true := by
  have hstarted := h.start
  have hempty := hstarted.closed_isEmpty start r.start.recorder.period.toInt64
  generalize hb : ({ start, duration := r.start.recorder.period.toInt64
                     entries := r.start.recorder.window.entries } : Bucket) = b at hempty
  have ht : Tallies resolution books.current b.entries := hb ▸ hstarted.tallies.entries
  have hclosed : Keeps tags resolution { books with current := [], isShutdown := true }
      { r.start with recorder := { r.start.recorder with window := .empty, isShutdown := true } } :=
    { hstarted.closeWindow with isShutdown := rfl }
  have htold := hclosed.tell
    (show Health.ofEvents [.stopping, .rotated r.start.recorder.window.table.length] = 0 from rfl)
  obtain ⟨handed, hk, hlasting, hcurrent, hadmissions, hshut⟩ := htold.handOverLast ht hempty
  obtain ⟨later, hk', hc, hs, hq⟩ := hk.drain
  have htask := hk'.task
  rw [hs] at htask
  simp only [Option.isSome_none, Bool.false_eq_true, if_false] at htask
  have hrun : r.shutDown pace start = ((Rotation.tell
      { r.start with recorder := { r.start.recorder with window := .empty, isShutdown := true } }
      [.stopping, .rotated r.start.recorder.window.table.length]).handOverLast b).drain.tell
        [.writerDrained, .rotationStopped] := by
    subst hb
    rcases hp with rfl | rfl <;>
      simp only [Rotation.shutDown, Recorder.rotate, Recorder.shutdown, htask]
  rw [hrun]
  have hlasts := hc.lasting.trans hlasting
  have hhistories := congrArg (List.map Prod.fst) hlasts
  simp only [List.map_map, List.map_append, Function.comp_def, Closing.lasting] at hhistories
  refine ⟨later, hk'.tell rfl, ?_, fun hne => ?_, ?_, hc.current.trans hcurrent,
    hc.admissions.trans hadmissions, hc.isShutdown.trans hshut⟩
  · refine hhistories.trans ?_
    by_cases hcur : books.current = [] <;> simp [hcur]
  · rw [if_neg hne] at hlasts
    have hlast := congrArg List.getLast? hlasts
    rw [List.getLast?_map, List.getLast?_concat] at hlast
    obtain ⟨c, hc, hfate⟩ := Option.map_eq_some_iff.mp hlast
    refine ⟨c, hc, ?_⟩
    simpa [Closing.lasting] using congrArg (·.2.2) hfate
  · refine Closing.fate_isSome ?_
    rw [hk'.inFlight, hs, hq]
    rfl

/-- Before the last window, a writer that was stalled catches up. -/
theorem catchUp (h : Keeps tags resolution {} r) (hp : pace = .keepsUp ∨ pace = .stalls)
    (start : Int64) (oss : List (List (SeriesKey × Observation)))
    (final late : List (SeriesKey × Observation)) :
    ∃ ready answers books, Keeps tags resolution books ready ∧ books.Covers oss answers ∧
      r.runWindows pace start oss final late =
        { rotation := (((ready.observeAll final).1.shutDown pace start).observeAll late).1
          windows := answers ++ [(ready.observeAll final).2]
          late := (((ready.observeAll final).1.shutDown pace start).observeAll late).2 } := by
  obtain ⟨books, hk, hcovers⟩ := h.windows ⟨rfl, rfl, rfl, .nil, rfl⟩ hp start oss
  rcases hp with rfl | rfl
  · exact ⟨_, _, books, hk, hcovers, rfl⟩
  · obtain ⟨later, hk', hc, -⟩ := hk.drain
    exact ⟨_, _, later, hk', hcovers.continues hc, rfl⟩

theorem runWindows (h : Keeps tags resolution {} r) (hp : pace = .keepsUp ∨ pace = .stalls)
    (start : Int64) (oss : List (List (SeriesKey × Observation)))
    (final late : List (SeriesKey × Observation)) :
    ∃ books, Keeps tags resolution books (r.runWindows pace start oss final late).rotation ∧
      books.Concludes oss final late (r.runWindows pace start oss final late) := by
  obtain ⟨ready, answers, books, hk, hcovers, hrun⟩ := h.catchUp hp start oss final late
  rw [hrun]
  obtain ⟨hk, hadmitted⟩ := hk.admits hcovers.isShutdown final
  obtain ⟨stopped, hk, hhistories, hlast, hsettled, hcurrent, hadmissions, hshut⟩ :=
    hk.shutDown hp start
  obtain ⟨hk, hlen, hrejected⟩ := hk.observeAll late
  have hall : ∀ a ∈ (((ready.observeAll final).1.shutDown pace start).observeAll late).2,
      a = .rejected := fun a ha => (hrejected a ha).mpr hshut
  have hcur : books.current ++ History.ofWindow final (ready.observeAll final).2 =
      History.ofWindow final (ready.observeAll final).2 := by rw [hcovers.current]; rfl
  simp only [Books.enter, hcur] at hhistories hlast hadmissions
  refine ⟨_, hk, ?_⟩
  exact
    { admitted := List.rel_append hcovers.admitted (.cons hadmitted .nil)
      histories := by
        rw [windowHistories_concat hcovers.admitted.length_eq, ← hcovers.histories]
        exact hhistories
      settled := hsettled
      last := fun hne => hlast (mt hadmitted.ofWindow_eq_nil.mp hne)
      admissions := by
        simp only [Books.enter, hadmissions, hcovers.admissions, List.flatten_append,
          List.flatten_singleton]
      rejections := List.eq_replicate_iff.mpr ⟨hlen.symm, hall⟩
      current := by
        simp only [Books.enter, hcurrent, History.ofWindow_rejected hall, List.append_nil]
      isShutdown := hshut }

end Keeps

/-! ## The law -/

namespace Keeps

variable {total : Nat}

/-- A task that fails when it starts leaves its first window open. -/
theorem failAtStart (h : Keeps tags resolution {} r)
    (oss : List (List (SeriesKey × Observation))) :
    ∃ answers, IsAdmitted ((oss.find? fun os => !os.isEmpty).getD []) answers ∧
      Keeps tags resolution
        (Books.enter {} ((oss.find? fun os => !os.isEmpty).getD []) answers)
        (r.failAtStart oss) := by
  obtain ⟨hk, hadmitted⟩ := h.admits rfl ((oss.find? fun os => !os.isEmpty).getD [])
  exact ⟨_, hadmitted, hk.tell rfl⟩

end Keeps

end Rotation

end SpanRollup
