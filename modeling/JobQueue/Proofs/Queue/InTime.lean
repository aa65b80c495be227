import JobQueue.Proofs.Queue.Promotion
import JobQueue.Proofs.Queue.Schedule

/-! Which retries are in time: those whose delay fits the signed word of a score together with the time at
which it starts. Any other delay is cut to its low bits, so that the delivery is let through early, or
makes the retry panic. -/

namespace JobQueue

open Time (Duration)

variable {config : QueueConfig}

namespace QueueConfig

open QueueStage (clockEnd)

/-- When a delay should be over that starts while the clock shows `wall`, in milliseconds. -/
def dueTime (wall : Int) (delay : Duration) : Int :=
  wall / Time.nanosPerMilli + delay.millis

/-- Whether a retry that reads the clock at `wall` is in time: the time has a score, and either the delay
fits a signed word or no clock ever shows that score. -/
def InTime (wall : Int) (delay : Duration) : Prop :=
  0 ≤ wall ∧ wall < Clock.calendarEnd ∧
    wall / Time.nanosPerMilli + delay.signedMillis ≤ Word.signedMax64 ∧
    (delay.millis ≤ Word.signedMax64 ∨
      Clock.calendarEnd / Time.nanosPerMilli ≤ wall / Time.nanosPerMilli + delay.signedMillis)

instance (wall : Int) (delay : Duration) : Decidable (InTime wall delay) :=
  inferInstanceAs (Decidable (_ ∧ _ ∧ _ ∧ _))

theorem inTime_iff {wall : Int} {delay : Duration} :
    InTime wall delay ↔ ∃ due, QueueStage.dueFrom wall delay = .ok due ∧
      (due = dueTime wall delay ∨ Clock.calendarEnd / Time.nanosPerMilli ≤ due) := by
  have heq := delay.signedMillis_eq_iff
  simp only [QueueStage.dueFrom_eq_ok, InTime, dueTime]
  constructor
  · rintro ⟨hpos, hend, hmost, h⟩
    exact ⟨_, ⟨hpos, hend, rfl, hmost⟩, h.imp (fun h => by rw [heq.2 h]) id⟩
  · rintro ⟨due, ⟨hpos, hend, rfl, hmost⟩, h⟩
    exact ⟨hpos, hend, hmost, h.imp (fun h => heq.1 (by omega)) id⟩

/-- A promotion that begins among some events takes an envelope off before it is due, and none of the
events has scheduled it for an earlier time. -/
def TakesEarly (config : QueueConfig) (envelope : String) (due : Int)
    (events : List (Event config.clients)) : Prop :=
  (∀ event ∈ events, ¬ config.schedulesBefore envelope due event) ∧
  ∃ n time wall, .began n .promoteDue ∈ events ∧
    .did n .promoteDue time wall (.command .jobs (.zrem config.delayedKey envelope)) (.ok true) ∈ events ∧
    wall / Time.nanosPerMilli < due

/-- Retries of a delivery that read the clock at `wall` do not panic, and whatever a retry schedules is
not taken off early. -/
def RetriesInTime (config : QueueConfig) (reserved : ReservedJob) (delay : Duration) (wall : Int) : Prop :=
  ∀ (world : World) (s : Scene config.clients) (n : Nat), Scene.Reachable .forward world s →
    (∀ time now reading, .did n (.retry reserved delay) time now .clock reading ∈ s.history →
      reading = wall) →
    (∀ p, .panicked n (.retry reserved delay) p ∉ s.history) ∧
    ∀ later earlier time now envelope score,
      s.history = later ++ .did n (.retry reserved delay) time now
        (.command .jobs (.zadd config.delayedKey envelope score)) (.ok ()) :: earlier →
      ¬ config.TakesEarly envelope (dueTime wall delay) later

/-- A retry never schedules for more than the time that it should. -/
theorem le_dueTime {wall due : Int} {delay : Duration} (h : QueueStage.dueFrom wall delay = .ok due) :
    due ≤ dueTime wall delay := by
  obtain ⟨-, -, rfl, -⟩ := QueueStage.dueFrom_eq_ok.1 h
  have hmillis := delay.signedMillis_le
  rw [dueTime]
  omega

/-- What a retry schedules. -/
theorem withholds_of_scheduled {K : Conditions} {t t' : QueueScene config} {world : World}
    (h : QueueScene.Run K (QueueScene.start config world) t) (hstep : QueueScene.Step K t t') {n time : Nat}
    {reserved : ReservedJob} {delay : Duration} {now score : Int} {envelope : String}
    (hevent : t'.history = .did n (.retry reserved delay) time now
      (.command .jobs (.zadd config.delayedKey envelope score)) (.ok ()) :: t.history) :
    t'.Withholds envelope score t'.begun ∧
      ∃ wall, t.Reads n (.retry reserved delay) wall ∧ QueueStage.dueFrom wall delay = .ok score := by
  have hnumber := QueueScene.Run.number_lt (h.tail hstep)
  have htimed := QueueScene.Run.timed h
  cases hstep with
  | acts n' op stage stage' e a left right h move =>
    obtain ⟨rfl, rfl, rfl, rfl, -⟩ := Event.did.inj (List.cons.inj hevent).1
    obtain ⟨⟨held, next, rfl⟩, honly⟩ := move.scheduled_only (List.cons.inj hevent).1
    exact ⟨⟨fun score' hmem => Int.le_of_eq (honly score' hmem).symm,
        fun c hc hfirst => absurd (hnumber c hc) (Nat.not_lt.2 hfirst), Nat.le_refl _⟩,
      htimed.scheduling n' reserved delay held next score (by simp)⟩
  | drifts => exact absurd hevent.symm (List.cons_ne_self _ _)
  | _ => cases hevent

theorem retriesInTime {reserved : ReservedJob} {delay : Duration} {wall : Int} {next : Job}
    (hnext : reserved.job.next = .ok next) (h : InTime wall delay) :
    config.RetriesInTime reserved delay wall := by
  obtain ⟨due, hdue, hlate⟩ := inTime_iff.1 h
  have hle := le_dueTime hdue
  intro world s n hreach hreads
  obtain ⟨t, rfl, hrun⟩ := QueueScene.exists_run hreach
  have hreads' : ∀ now, t.Reads n (.retry reserved delay) now → now = wall :=
    fun now ⟨time, hread⟩ => hreads time now now hread
  refine ⟨fun p hpanicked => ?_, fun later earlier time now envelope score hhistory => ?_⟩
  · obtain hnone | ⟨now, hread, hpanic⟩ := QueueScene.Run.reads_of_panicked hrun hpanicked
    · cases hnext.symm.trans hnone
    · obtain rfl := hreads' now hread
      cases hdue.symm.trans hpanic
  · rintro ⟨hevents, m, time', now', hbegan, htaken, hearly⟩
    obtain ⟨before, after, hbefore, hadds, rfl, hevent, hafter⟩ :=
      QueueScene.exists_step_of_history hrun hhistory
    obtain ⟨hwithholds, now, hread, hscore⟩ := withholds_of_scheduled hbefore hadds hevent
    obtain rfl := hreads' now ((hread.step hadds).run hafter)
    obtain rfl : score = due := Except.ok.inj (hscore.symm.trans hdue)
    obtain ⟨later', hlater, hwithheld⟩ := QueueScene.Run.withheld (fun _ _ _ h => h) hafter hle hwithholds
    obtain rfl : later' = later := by
      rw [hevent] at hlater
      exact List.append_cancel_right (hlater.symm.trans hhistory)
    obtain ⟨-, hwithheld⟩ := hwithheld (fun event hmem => Bool.eq_false_iff.2 (hevents event hmem))
    have hend := hwithheld.taken m time' now' (hwithheld.began m _ hbegan) htaken
    obtain rfl | hlate := hlate
    · omega
    · rw [clockEnd] at hend
      omega

/-! Runs of retries that are not in time, in a world in which only the delivery waits. -/

/-- A world at a time in which a queue holds one envelope. -/
def worldWith (config : QueueConfig) (envelope : String) (wall : Int) : World :=
  config.afterPush (.new [] false wall) envelope

theorem worldWith_answers (config : QueueConfig) (envelope : String) (wall : Int) :
    (config.worldWith envelope wall).jobs.Answers :=
  fun _ => ⟨rfl, rfl⟩

theorem worldWith_waiting (config : QueueConfig) (envelope : String) (wall : Int) :
    (config.waiting (config.worldWith envelope wall).jobs.store).getLast? = some envelope := by
  rw [worldWith, (config.holds_afterPush _ _).1]
  rfl

theorem worldWith_delayed (config : QueueConfig) (envelope : String) (wall : Int) :
    config.delayed (config.worldWith envelope wall).jobs.store = [] := by
  rw [worldWith, (config.holds_afterPush _ _).2.2.2]
  rfl

variable {reserved : ReservedJob} {delay : Duration} {wall : Int} {next : Job}

theorem not_retriesInTime_of_panic (hread : reserved.IsRead) (hnext : reserved.job.next = .ok next)
    {p : Panic} (hdue : QueueStage.dueFrom wall delay = .error p) :
    ¬ config.RetriesInTime reserved delay wall := by
  intro h
  let world := config.worldWith reserved.envelope wall
  have hdue' : QueueStage.dueFrom (config.afterPop world).wall delay = .error p := hdue
  have hrun : QueueScene.Run .forward (QueueScene.start config world) _ :=
    (QueueScene.run_dequeue (config.worldWith_answers _ wall) (config.worldWith_waiting _ wall)
      hread).trans (QueueScene.run_retry_panic reserved hnext hdue')
  obtain ⟨hpanics, -⟩ := h world _ 1 (QueueScene.Run.scene hrun) fun time now reading hreading => by
    simp [QueueScene.scene] at hreading
    exact hreading.2.2
  exact hpanics p (.head _)

theorem not_retriesInTime_of_early (hread : reserved.IsRead) (hnext : reserved.job.next = .ok next)
    {due : Int} (hdue : QueueStage.dueFrom wall delay = .ok due) (hearly : due < dueTime wall delay)
    (hend : due < clockEnd) : ¬ config.RetriesInTime reserved delay wall := by
  intro h
  obtain ⟨hpos, hcalendar, hscore, hmost⟩ := QueueStage.dueFrom_eq_ok.1 hdue
  have hscale : dueTime wall delay = wall / Time.nanosPerMilli + delay.millis := rfl
  -- The clock goes on to the first time at which the delivery is let through.
  obtain ⟨now, hnow, hread', hdue', hearly'⟩ : ∃ now, wall ≤ now ∧ Clock.recordTime now = .ok now ∧
      due ≤ now / Time.nanosPerMilli ∧ now / Time.nanosPerMilli < dueTime wall delay := by
    have hmillis : 0 < delay.millis := by
      have heq := delay.signedMillis_eq_iff
      omega
    simp only [Clock.recordTime_eq_ok, true_and, clockEnd, Clock.calendarEnd, Time.nanosPerSecond,
      Time.nanosPerMilli] at *
    by_cases hpassed : due ≤ wall / (1000000 : Nat)
    · exact ⟨wall, by omega⟩
    · exact ⟨due * 1000000, by omega⟩
  let world := config.worldWith reserved.envelope wall
  let popped := config.afterPop world
  let released := config.afterRelease (config.afterSchedule popped (Job.codec.text next) due)
    reserved.envelope
  let later : World := { released with wall := now }
  have hanswers : world.jobs.Answers := config.worldWith_answers reserved.envelope wall
  have hpopped : popped.jobs.Answers := hanswers
  have hlater : later.jobs.Answers := hanswers
  have hwaiting := config.worldWith_waiting reserved.envelope wall
  have hdelayed : config.delayed later.jobs.store = [(due, Job.codec.text next)] := by
    have hempty : config.delayed popped.jobs.store = [] := by
      rw [(config.holds_afterPop world hwaiting).2.2.2]
      exact config.worldWith_delayed reserved.envelope wall
    simp [later, released, hempty, Store.withoutMember, Store.insertScored]
  have hleast : Word.signedMin64 ≤ due := by
    have hmillis := delay.signedMillis_range.1
    have hclock := (Clock.millis_range (Clock.recordTime_eq_ok.2 ⟨rfl, hpos, hcalendar⟩)).1
    omega
  obtain ⟨removed, hretry⟩ := QueueScene.run_retry (K := .forward) hpopped reserved hnext hdue
  have hrun : QueueScene.Run .forward (QueueScene.start config world) _ :=
    (((QueueScene.run_dequeue hanswers hwaiting hread).trans hretry).tail
      (.drifts ⟨now, 0, released.rules, hnow⟩)).trans
      (QueueScene.run_promoting hlater hread' hdelayed hleast hdue')
  obtain ⟨-, hlate⟩ := h world _ 1 (QueueScene.Run.scene hrun) fun time now reading hreading => by
    simp [QueueScene.scene] at hreading
    exact hreading.2.2
  refine hlate [_, _, _, _, _, _] _ _ _ (Job.codec.text next) due rfl ⟨?_, ?_⟩
  · simp [QueueConfig.schedulesBefore]
  · exact ⟨2, _, now, by simp, .head _, hearly'⟩

theorem inTime_of_retriesInTime (hread : reserved.IsRead) (hnext : reserved.job.next = .ok next)
    (h : config.RetriesInTime reserved delay wall) : InTime wall delay := by
  refine inTime_iff.2 ?_
  cases hdue : QueueStage.dueFrom wall delay with
  | error p => exact absurd h (not_retriesInTime_of_panic hread hnext hdue)
  | ok due =>
    refine ⟨due, rfl, Decidable.byContradiction fun hlate => ?_⟩
    have hle := le_dueTime hdue
    exact not_retriesInTime_of_early hread hnext hdue (by omega) (by rw [clockEnd]; omega) h

/-- Retries of a delivery with attempts left are in time exactly for these readings of the clock. -/
theorem retriesInTime_iff (config : QueueConfig) (hmax : config.maxAttempts ≤ Word.max32)
    (reserved : ReservedJob) (hread : reserved.IsRead)
    (hattempt : reserved.job.attempt < config.maxAttempts) (policy : RetryPolicy) (wall : Int) :
    config.RetriesInTime reserved (policy.interval reserved.job.attempt) wall ↔
      InTime wall (policy.interval reserved.job.attempt) := by
  have hnext : reserved.job.next = .ok { reserved.job with attempt := reserved.job.attempt + 1 } :=
    if_pos (Nat.lt_of_lt_of_le hattempt hmax)
  exact ⟨inTime_of_retriesInTime hread hnext, retriesInTime hnext⟩

/-- A delivery of the sample job. -/
def sampleReserved : ReservedJob :=
  ⟨Job.sample, Job.codec.text Job.sample⟩

/-- Delays of which the low 64 bits are read as -1, and delays beyond the greatest score. -/
def endlessPolicy : RetryPolicy :=
  ⟨2, .ofMillis 18446744073709551615, none⟩

def longPolicy : RetryPolicy :=
  ⟨2, .ofMillis 9223372036854775807, none⟩

/-- The first of these retries is let through at once, and the second one panics. -/
theorem sample_retries_not_inTime :
    ¬ sample.RetriesInTime sampleReserved (endlessPolicy.interval 1) 1700000000000000000 ∧
    ¬ sample.RetriesInTime sampleReserved (longPolicy.interval 1) 1700000000000000000 := by
  have hread : sampleReserved.IsRead := Job.sample_isRead
  have hnext : sampleReserved.job.next = .ok { Job.sample with attempt := 2 } := rfl
  exact ⟨fun h => absurd (inTime_of_retriesInTime hread hnext h) (by decide),
    fun h => absurd (inTime_of_retriesInTime hread hnext h) (by decide)⟩

/-- A delay of one second is in time. -/
theorem sample_retries_inTime :
    sample.RetriesInTime sampleReserved (RetryPolicy.default.interval 1) 1700000000000000000 :=
  (retriesInTime_iff sample (by decide) sampleReserved Job.sample_isRead (by decide) .default
    1700000000000000000).2 (by decide)

end QueueConfig

end JobQueue
