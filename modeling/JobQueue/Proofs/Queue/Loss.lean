import JobQueue.Proofs.Queue.Alone
import JobQueue.Proofs.Queue.Keeping

/-! How a queue can lose a job: a promotion takes the envelope off the delayed ones, and then cannot let
it wait. -/

namespace JobQueue

open Time (Duration)

namespace QueueScene

variable {config : QueueConfig} {K : Conditions} {world : World}

/-- No delay at all is over at once. -/
theorem dueFrom_zero {nanos : Int} (h : Clock.recordTime world.wall = .ok nanos) :
    QueueStage.dueFrom world.wall (.saturate 0) = .ok (nanos / Time.nanosPerMilli) := by
  obtain ⟨hpos, hmost⟩ := Clock.millis_range h
  have hmillis : (Duration.saturate 0).signedMillis = 0 := by decide
  have hleast : Word.signedMin64 ≤ nanos / Time.nanosPerMilli := by
    simp only [Word.signedMin64]
    omega
  rw [QueueStage.dueFrom, h, Except.bind, Queue.dueAt, hmillis, Int.add_zero]
  simp only [hleast, hmost, decide_true, Bool.and_self, if_true]

/-- A job that was enqueued can be gone with no call under way. -/
theorem exists_run_lost (config : QueueConfig) (world : World) (hfailing : K.failing) {job next : Job}
    {nanos : Int} (hread : Job.codec.ofText (Job.codec.text job) = .ok job)
    (hnext : job.next = .ok next) (hanswers : world.jobs.Answers)
    (hclock : Clock.recordTime world.wall = .ok nanos)
    (hwaiting : config.waiting world.jobs.store = []) (hdelayed : config.delayed world.jobs.store = [])
    (habsent : ¬ config.Holds job.id world.jobs.store) :
    ∃ t, Run K (start config world) t ∧ t.calls = [] ∧ config.Owes job.id t.history ∧
      ¬ config.Holds job.id t.store := by
  let now := nanos / Time.nanosPerMilli
  let pushed := config.afterPush world (Job.codec.text job)
  let popped := config.afterPop pushed
  let retried := config.afterRelease (config.afterSchedule popped (Job.codec.text next) now)
    (Job.codec.text job)
  let removed := config.afterRemoval (config.afterListing retried now) (Job.codec.text next)
  have hpushed : (config.waiting pushed.jobs.store).getLast? = some (Job.codec.text job) := by
    rw [(config.holds_afterPush world _).1, hwaiting]
    rfl
  have hpopped := config.holds_afterPop pushed hpushed
  have hretried : config.delayed retried.jobs.store = [(now, Job.codec.text next)] := by
    simp [retried, popped, hpopped, pushed, hdelayed, Store.withoutMember, Store.insertScored]
  have hleast : Word.signedMin64 ≤ now := by
    have hpos := (Clock.millis_range hclock).1
    simp only [Word.signedMin64, now]
    omega
  obtain ⟨history, hrun, howes⟩ : ∃ history, Run K (start config world)
      ⟨popped, [], [⟨job, Job.codec.text job⟩], 2, history⟩ ∧ config.Owes job.id history := by
    have hanswers' : pushed.jobs.Answers := hanswers
    exact ⟨_, (run_enqueue hanswers job).trans (run_dequeue hanswers' hpushed hread),
      by simp [QueueConfig.Owes, QueueConfig.pushes, QueueConfig.settles]⟩
  obtain ⟨history, hrun, howes⟩ : ∃ history, Run K (start config world)
      ⟨retried, [], [], 3, history⟩ ∧ config.Owes job.id history := by
    have hanswers' : popped.jobs.Answers := hanswers
    have hdue : QueueStage.dueFrom popped.wall (.saturate 0) = .ok now := dueFrom_zero hclock
    obtain ⟨_, hretry⟩ := run_retry hanswers' ⟨job, Job.codec.text job⟩ hnext hdue
    exact ⟨_, hrun.trans hretry,
      by simp [QueueConfig.Owes, QueueConfig.pushes, QueueConfig.settles, howes]⟩
  obtain ⟨history, hrun, howes⟩ : ∃ history, Run K (start config world)
      ⟨removed, [⟨3, .promoteDue, .requeuing now (Job.codec.text next) [] 0⟩], [], 4, history⟩ ∧
        config.Owes job.id history := by
    have hanswers' : retried.jobs.Answers := hanswers
    have hclock' : Clock.recordTime retried.wall = .ok nanos := hclock
    exact ⟨_, hrun.trans (run_promoting hanswers' hclock' hretried hleast (Int.le_refl _)),
      by simp [QueueConfig.Owes, QueueConfig.pushes, QueueConfig.settles, howes]⟩
  have hrefused : Step K
      ⟨removed, [⟨3, .promoteDue, .requeuing now (Job.codec.text next) [] 0⟩], [], 4, history⟩ _ :=
    .acts _ _ _ _ _ _ [] [] (.failed .jobs _ .timeout hfailing) (.refused _ _ _ rfl)
  refine ⟨_, (hrun.tail hrefused).tail (.ends _ _ _ [] []), rfl, ?_, ?_⟩
  · simp [QueueConfig.Owes, QueueConfig.settles, howes]
  · have hempty : config.waiting removed.jobs.store = [] ∧ config.delayed removed.jobs.store = [] := by
      simp [removed, retried, popped, hpopped, pushed, hwaiting, hdelayed, Store.withoutMember,
        Store.insertScored]
    have hsame : config.active removed.jobs.store = config.active world.jobs.store ∧
        config.failed removed.jobs.store = config.failed world.jobs.store := by
      simp [removed, retried, popped, hpopped, pushed]
    simpa [QueueConfig.Holds, QueueConfig.Stores, hempty, hsame, hwaiting, hdelayed] using habsent

end QueueScene

namespace QueueConfig

/-- Promotions are the only way to lose a job, and where commands can fail they do lose jobs: any job
that can be read and delivered again can be enqueued in a run that ends without it. -/
theorem loses_only_by_promotion (config : QueueConfig) (K : Conditions) (world : World) :
    (∀ (s : Scene config.clients) (id : String), Scene.Reachable K world s →
      config.Owes id s.history → config.Holds id s.world.jobs.store ∨ config.Drops id s.history) ∧
    (∀ (job next : Job) (nanos : Int), K.failing →
      Job.codec.ofText (Job.codec.text job) = .ok job → job.next = .ok next →
      world.jobs.Answers → Clock.recordTime world.wall = .ok nanos →
      config.waiting world.jobs.store = [] → config.delayed world.jobs.store = [] →
      ¬ config.Holds job.id world.jobs.store →
      ∃ s : Scene config.clients, Scene.Reachable K world s ∧ s.calls = [] ∧
        config.Owes job.id s.history ∧ ¬ config.Holds job.id s.world.jobs.store) := by
  refine ⟨fun s id h howes => holds_or_drops h howes, fun job next nanos hfailing hread hnext hanswers
    hclock hwaiting hdelayed habsent => ?_⟩
  obtain ⟨t, hrun, hcalls, howes, hlost⟩ := QueueScene.exists_run_lost config world hfailing hread hnext
    hanswers hclock hwaiting hdelayed habsent
  exact ⟨t.scene, QueueScene.Run.scene hrun, by simp [QueueScene.scene, hcalls], howes, hlost⟩

theorem sample_holds_nothing (id : String) : ¬ sample.Holds id .empty :=
  fun ⟨_, _, h⟩ => by simp [active, Stores, waiting, delayed, failed, Store.empty] at h

/-- A job is enqueued and delivered, its delivery is retried, and the promotion of the retry fails. -/
theorem sample_job_lost :
    ∃ s : Scene sample.clients, Scene.Reachable .any (.new [] false 0) s ∧ s.calls = [] ∧
      sample.Owes "j1" s.history ∧ ¬ sample.Holds "j1" s.world.jobs.store := by
  obtain ⟨t, hrun, hcalls, howes, hlost⟩ :=
    QueueScene.exists_run_lost sample (.new [] false 0) (K := .any) trivial Job.sample_isRead rfl
      (fun _ => ⟨rfl, rfl⟩) rfl rfl rfl (sample_holds_nothing _)
  exact ⟨t.scene, QueueScene.Run.scene hrun, by simp [QueueScene.scene, hcalls], howes, hlost⟩

theorem sample_job_dropped :
    ∃ s : Scene sample.clients, Scene.Reachable .any (.new [] false 0) s ∧ s.calls = [] ∧
      sample.Owes "j1" s.history ∧ sample.Drops "j1" s.history := by
  obtain ⟨hkept, hlost⟩ := loses_only_by_promotion sample .any (.new [] false 0)
  obtain ⟨s, hs, hcalls, howes, hlost⟩ := hlost Job.sample _ _ trivial Job.sample_isRead rfl
    (fun _ => ⟨rfl, rfl⟩) rfl rfl rfl (sample_holds_nothing _)
  exact ⟨s, hs, hcalls, howes, (hkept s "j1" hs howes).resolve_left hlost⟩

end QueueConfig

end JobQueue
