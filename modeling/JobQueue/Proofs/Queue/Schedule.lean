import JobQueue.Proofs.Queue.Alone
import JobQueue.Proofs.Queue.Holding

/-! When retries read the clock, and for when they schedule the next delivery. -/

namespace JobQueue

open Time (Duration)

variable {config : QueueConfig}

/-! ### Times to schedule for -/

namespace Time.Duration

theorem signedMillis_range (d : Duration) :
    Word.signedMin64 ≤ d.signedMillis ∧ d.signedMillis ≤ Word.signedMax64 := by
  have hcount : 0 < Word.count64 := by decide
  have hleast : -((Word.count64 : Int) / 2) ≤ d.signedMillis := Int.le_bmod hcount
  have hmost : d.signedMillis < ((Word.count64 : Int) + 1) / 2 := Int.bmod_lt hcount
  generalize d.signedMillis = millis at *
  simp only [Word.count64, Word.signedMin64, Word.signedMax64] at *
  omega

theorem signedMillis_eq_iff (d : Duration) : d.signedMillis = d.millis ↔ d.millis ≤ Word.signedMax64 := by
  constructor
  · intro h
    have hmost := d.signedMillis_range.2
    omega
  · intro h
    refine Int.bmod_eq_of_le ?_ ?_ <;>
      (generalize d.millis = millis at *; simp only [Word.count64, Word.signedMax64] at *; omega)

theorem signedMillis_le (d : Duration) : d.signedMillis ≤ d.millis := by
  by_cases h : d.millis ≤ Word.signedMax64
  · exact Int.le_of_eq (d.signedMillis_eq_iff.2 h)
  · have hmost := d.signedMillis_range.2
    omega

end Time.Duration

namespace QueueStage

theorem dueFrom_eq_ok {wall due : Int} {delay : Duration} :
    dueFrom wall delay = .ok due ↔
      0 ≤ wall ∧ wall < Clock.calendarEnd ∧ due = wall / Time.nanosPerMilli + delay.signedMillis ∧
        due ≤ Word.signedMax64 := by
  constructor
  · intro h
    cases hread : Clock.recordTime wall with
    | error p =>
      rw [dueFrom, hread] at h
      cases h
    | ok nanos =>
      obtain ⟨rfl, hpos, hend⟩ := Clock.recordTime_eq_ok.1 hread
      rw [dueFrom, hread, Except.bind, Queue.dueAt] at h
      split at h
      next hrange =>
        cases h
        rw [Bool.and_eq_true, decide_eq_true_eq, decide_eq_true_eq] at hrange
        exact ⟨hpos, hend, rfl, hrange.2⟩
      next => cases h
  · rintro ⟨hpos, hend, rfl, hmost⟩
    have hread := Clock.recordTime_eq_ok.2 ⟨rfl, hpos, hend⟩
    have hleast : Word.signedMin64 ≤ wall / Time.nanosPerMilli + delay.signedMillis := by
      have hdelay := delay.signedMillis_range.1
      have hmillis := (Clock.millis_range hread).1
      omega
    rw [dueFrom, hread, Except.bind, Queue.dueAt]
    exact if_pos (by simp only [hleast, hmost, decide_true, Bool.and_self])

end QueueStage

/-! ### Readings of retries -/

namespace QueueStage

variable {world : World} {stage : QueueStage} {e : Effect} {a : e.Answer} {store : Store}
  {reserved : ReservedJob} {delay : Duration}

/-- A retry breaks when its reading of the clock has no time to schedule for. -/
theorem Move.reads_of_broken {p : Panic} (move : Move config world stage e a store (broken p))
    (hfits : Fits (.retry reserved delay) stage) (n time : Nat) (wall : Int) :
    (.did n (.retry reserved delay) time wall e a : Event config.clients) =
        .did n (.retry reserved delay) time wall .clock world.wall ∧
      dueFrom world.wall delay = .error p := by
  generalize hbroken : broken p = stage' at move
  cases move with
  | undated envelope next delay' p' h =>
    cases hbroken
    obtain ⟨-, -, rfl⟩ := hfits
    exact ⟨rfl, h⟩
  | blind p' h => exact absurd hfits (by simp [Fits])
  | listed now due h => exact absurd hfits (by simp [Fits])
  | missed now envelope due promoted h => exact absurd hfits (by simp [Fits])
  | requeued now envelope due promoted => exact absurd hfits (by simp [Fits])
  | _ => cases hbroken

/-- A retry schedules for the time that its reading of the clock leads to. -/
theorem Move.reads_of_scheduling {envelope : String} {next : Job} {due : Int}
    (move : Move config world stage e a store (scheduling envelope next due))
    (hfits : Fits (.retry reserved delay) stage) (n time : Nat) (wall : Int) :
    (.did n (.retry reserved delay) time wall e a : Event config.clients) =
        .did n (.retry reserved delay) time wall .clock world.wall ∧
      dueFrom world.wall delay = .ok due := by
  generalize hscheduling : scheduling envelope next due = stage' at move
  cases move with
  | dated envelope' next' delay' due' h =>
    cases hscheduling
    obtain ⟨-, -, rfl⟩ := hfits
    exact ⟨rfl, h⟩
  | listed now due h => exact absurd hfits (by simp [Fits])
  | missed now envelope due promoted h => exact absurd hfits (by simp [Fits])
  | requeued now envelope due promoted => exact absurd hfits (by simp [Fits])
  | _ => cases hscheduling

end QueueStage

namespace QueueScene

variable {K : Conditions} {t t' : QueueScene config} {world : World}

/-- A call has read the clock at `wall`. -/
def Reads (t : QueueScene config) (n : Nat) (op : QueueOp) (wall : Int) : Prop :=
  ∃ time, .did n op time wall .clock wall ∈ t.history

theorem Reads.step {n : Nat} {op : QueueOp} {wall : Int} (h : Step K t t') (hr : t.Reads n op wall) :
    t'.Reads n op wall := by
  obtain ⟨time, hread⟩ := hr
  obtain hsame | ⟨event, hadds⟩ := h.history
  · exact ⟨time, hsame ▸ hread⟩
  · exact ⟨time, hadds ▸ List.mem_cons_of_mem event hread⟩

/-- Retries break and schedule only as their readings of the clock tell. -/
structure Timed (t : QueueScene config) : Prop where
  broken : ∀ n reserved delay p, ⟨n, .retry reserved delay, .broken p⟩ ∈ t.calls →
    reserved.job.next = .error p ∨
      ∃ wall, t.Reads n (.retry reserved delay) wall ∧ QueueStage.dueFrom wall delay = .error p
  scheduling : ∀ n reserved delay envelope next due,
    ⟨n, .retry reserved delay, .scheduling envelope next due⟩ ∈ t.calls →
      ∃ wall, t.Reads n (.retry reserved delay) wall ∧ QueueStage.dueFrom wall delay = .ok due

theorem Timed.step (h : Step K t t') (hs : t.Sound) (ht : t.Timed) : t'.Timed := by
  refine ⟨fun n reserved delay p hc => ?_, fun n reserved delay envelope next due hc => ?_⟩
  · obtain hold | ⟨hnew, -⟩ | ⟨stage, e, a, hold, -, move, hhistory⟩ := h.of_mem_calls hc
    · exact (ht.broken n reserved delay p hold).imp_right fun ⟨wall, hreads, hdue⟩ =>
        ⟨wall, hreads.step h, hdue⟩
    · have hstart := congrArg QueueCall.stage hnew
      cases hnext : reserved.job.next with
      | ok next => simp [QueueStage.start, hnext] at hstart
      | error p' =>
        obtain rfl : p = p' := by simpa [QueueStage.start, hnext] using hstart
        exact .inl rfl
    · obtain ⟨hevent, hdue⟩ := move.reads_of_broken (hs.fits _ hold) n t.world.elapsed t.world.wall
      exact .inr ⟨_, ⟨t.world.elapsed, by simp [hhistory, hevent]⟩, hdue⟩
  · obtain hold | ⟨hnew, -⟩ | ⟨stage, e, a, hold, -, move, hhistory⟩ := h.of_mem_calls hc
    · obtain ⟨wall, hreads, hdue⟩ := ht.scheduling n reserved delay envelope next due hold
      exact ⟨wall, hreads.step h, hdue⟩
    · have hstart := congrArg QueueCall.stage hnew
      cases hnext : reserved.job.next <;> simp [QueueStage.start, hnext] at hstart
    · obtain ⟨hevent, hdue⟩ := move.reads_of_scheduling (hs.fits _ hold) n t.world.elapsed t.world.wall
      exact ⟨_, ⟨t.world.elapsed, by simp [hhistory, hevent]⟩, hdue⟩

theorem Run.timed (h : Run K (start config world) t) : t.Timed := by
  induction h with
  | refl => exact ⟨by simp [start], by simp [start]⟩
  | tail hrun hstep ih => exact ih.step hstep (Run.invariant hrun).1

theorem Reads.run {n : Nat} {op : QueueOp} {wall : Int} (h : Run K t t') (hr : t.Reads n op wall) :
    t'.Reads n op wall := by
  induction h with
  | refl => exact hr
  | tail _ hstep ih => exact ih.step hstep

/-- Every panic of a retry comes from a reading of the clock, unless there is no next delivery. -/
theorem Run.reads_of_panicked (h : Run K (start config world) t) {n : Nat} {reserved : ReservedJob}
    {delay : Duration} {p : Panic} (hpanicked : .panicked n (.retry reserved delay) p ∈ t.history) :
    reserved.job.next = .error p ∨
      ∃ wall, t.Reads n (.retry reserved delay) wall ∧ QueueStage.dueFrom wall delay = .error p := by
  obtain ⟨later, earlier, hhistory⟩ := List.append_of_mem hpanicked
  obtain ⟨before, after, hbefore, hadds, rfl, hevent, hafter⟩ := exists_step_of_history h hhistory
  have hbroken : ⟨n, .retry reserved delay, .broken p⟩ ∈ before.calls := by
    cases hadds with
    | panics n op p left right =>
      cases hevent
      simp
    | drifts => exact absurd hevent.symm (List.cons_ne_self _ _)
    | _ => cases hevent
  exact ((Run.timed hbefore).broken _ _ _ _ hbroken).imp_right fun ⟨wall, hreads, hdue⟩ =>
    ⟨wall, (hreads.step hadds).run hafter, hdue⟩

end QueueScene

end JobQueue
