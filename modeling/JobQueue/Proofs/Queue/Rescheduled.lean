import JobQueue.Proofs.Queue.Loss
import JobQueue.Proofs.Queue.Promotion
import JobQueue.Proofs.Store.Flow

/-! How old the listing is by which a promotion takes envelopes off. A score counts when the listing is
made and not when the envelope is taken off, so that one which a retry has scheduled again in between is
let through before its time. -/

namespace JobQueue

open Time (Duration)

variable {config : QueueConfig}

namespace QueueConfig

variable (config : QueueConfig)

/-- A promotion takes off an envelope with the score that it has at that time. -/
structure TakesOff (s s' : Scene config.clients) (n : Nat) (envelope : String) (score : Int) : Prop where
  delayed : (score, envelope) ∈ config.delayed s.world.jobs.store
  did : s'.history = .did n .promoteDue s.world.elapsed s.world.wall
    (.command .jobs (.zrem config.delayedKey envelope)) (.ok true) :: s.history

/-- Promotions take envelopes off only when the clock has come to their scores. -/
def PromotesOnTime (K : Conditions) (world : World) : Prop :=
  ∀ (s s' : Scene config.clients) (n : Nat) (envelope : String) (score : Int),
    Scene.Reachable K world s → Scene.Step K s s' → config.TakesOff s s' n envelope score →
    score ≤ s.world.wall / Time.nanosPerMilli

/-- The last events, of those since the promotion of a number has listed an envelope. -/
def ListedBefore (n : Nat) (envelope : String) (later history : List (Event config.clients)) : Prop :=
  ∃ earlier time wall now due, history = later ++ .did n .promoteDue time wall
      (.command .jobs (.zrangebyscore config.delayedKey "-inf" (String.ofList (Text.intDigits now))))
      (.ok due) :: earlier ∧ envelope ∈ due

/-- A retry has scheduled an envelope for a score. -/
def SchedulesFor (envelope : String) (score : Int) (events : List (Event config.clients)) : Prop :=
  ∃ n reserved delay time wall, .did n (.retry reserved delay) time wall
    (.command .jobs (.zadd config.delayedKey envelope score)) (.ok ()) ∈ events

/-- The promotion of a number has listed an envelope, and then a retry has scheduled it for a score. -/
def Reschedules (n : Nat) (envelope : String) (score : Int) (history : List (Event config.clients)) : Prop :=
  ∃ later, config.ListedBefore n envelope later history ∧ config.SchedulesFor envelope score later

/-- The promotion of a number has listed an envelope at some time, and its score is over at that time
unless it is newer than the listing. -/
def Awaits (n : Nat) (now : Int) (envelope : String) (store : Store)
    (history : List (Event config.clients)) : Prop :=
  ∃ later, config.ListedBefore n envelope later history ∧
    ∀ score, (score, envelope) ∈ config.delayed store → score ≤ now ∨ config.SchedulesFor envelope score later

end QueueConfig

namespace QueueStage

/-- A promotion at this stage goes by a time that is over, and something holds of that time and all that is
left on its listing. -/
def GoesBy (P : Int → String → Prop) (wall : Int) : QueueStage → Prop
  | listing now => 0 ≤ now ∧ now ≤ Word.signedMax64 ∧ now ≤ wall / Time.nanosPerMilli
  | removing now next due _ => now ≤ wall / Time.nanosPerMilli ∧ ∀ envelope ∈ next :: due, P now envelope
  | requeuing now _ due _ => now ≤ wall / Time.nanosPerMilli ∧ ∀ envelope ∈ due, P now envelope
  | _ => True

variable {world : World} {stage stage' : QueueStage} {e : Effect} {a : e.Answer} {store : Store}
  {P P' : Int → String → Prop} {wall wall' : Int}

theorem goesBy_start (config : QueueConfig) (op : QueueOp) : (start config op).GoesBy P wall := by
  cases op with
  | complete reserved => cases hkeeps : config.keepsCompleted <;> simp [start, hkeeps, GoesBy]
  | fail reserved => cases hkeeps : config.keepsFailed <;> simp [start, hkeeps, GoesBy]
  | retry reserved delay => cases hnext : reserved.job.next <;> simp [start, hnext, GoesBy]
  | _ => trivial

theorem goesBy_promoting {now : Int} {due : List String} {promoted : Nat}
    (hnow : now ≤ wall / Time.nanosPerMilli) (h : ∀ envelope ∈ due, P now envelope) :
    (promoting now due promoted).GoesBy P wall := by
  cases due with
  | nil => trivial
  | cons next due => exact ⟨hnow, h⟩

theorem GoesBy.mono (hle : wall ≤ wall') (hP : ∀ now envelope, P now envelope → P' now envelope)
    (h : stage.GoesBy P wall) : stage.GoesBy P' wall' := by
  have hmillis : wall / Time.nanosPerMilli ≤ wall' / Time.nanosPerMilli :=
    Int.ediv_le_ediv (by decide) hle
  cases stage with
  | listing now => exact ⟨h.1, h.2.1, Int.le_trans h.2.2 hmillis⟩
  | removing now next due promoted | requeuing now next due promoted =>
    exact ⟨Int.le_trans h.1 hmillis, fun envelope henvelope => hP now envelope (h.2 envelope henvelope)⟩
  | _ => trivial

/-- What a promotion lists is over at the time by which it goes, and it takes nothing else off. -/
theorem Move.goesBy (move : Move config world stage e a store stage') (n time : Nat) (op : QueueOp)
    (wall : Int)
    (hlisted : ∀ now due, stage = listing now →
      (.did n op time wall e a : Event config.clients) = .did n op time wall
        (.command .jobs (.zrangebyscore config.delayedKey "-inf" (String.ofList (Text.intDigits now))))
        (.ok due) →
      (∀ envelope ∈ due, ∃ score, (score, envelope) ∈ config.delayed store ∧ score ≤ now) →
      ∀ envelope ∈ due, P now envelope)
    (h : stage.GoesBy P world.wall) : stage'.GoesBy P world.wall := by
  cases move with
  | looked nanos hread =>
    obtain ⟨hpos, hmost⟩ := Clock.millis_range hread
    obtain ⟨hwall, -⟩ := Clock.recordTime_eq_ok.1 hread
    exact ⟨hpos, hmost, Int.le_of_eq (by rw [hwall])⟩
  | listed now due hdue =>
    obtain ⟨hpos, hmost, hnow⟩ := h
    rw [Store.boundScore_intDigits (Int.le_trans (by decide) hpos) hmost] at hdue
    refine goesBy_promoting hnow (hlisted now due rfl rfl fun envelope henvelope => ?_)
    obtain ⟨score, hscore, -, hle⟩ := Store.mem_membersWithin.1 (hdue ▸ henvelope)
    exact ⟨score, hscore, hle⟩
  | removed now next due promoted hpresent => exact ⟨h.1, (List.forall_mem_cons.1 h.2).2⟩
  | missed now next due promoted habsent => exact goesBy_promoting h.1 (List.forall_mem_cons.1 h.2).2
  | requeued now next due promoted => exact goesBy_promoting h.1 h.2
  | _ => trivial

/-- What is taken off is the next envelope of the listing. -/
theorem Move.removing_of_taken (move : Move config world stage e a store stage') {n time : Nat}
    {op : QueueOp} {wall : Int} {envelope : String}
    (hevent : (.did n op time wall e a : Event config.clients) =
      .did n op time wall (.command .jobs (.zrem config.delayedKey envelope)) (.ok true)) :
    ∃ now due promoted, stage = removing now envelope due promoted := by
  cases move with
  | removed now next due promoted hpresent =>
    cases hevent
    exact ⟨now, due, promoted, rfl⟩
  | _ => cases hevent

end QueueStage

namespace QueueScene

variable {K : Conditions} {t t' : QueueScene config} {world : World}

/-- What is delayed after a step was delayed before, or a retry has just scheduled it. -/
theorem Step.of_mem_delayed (h : Step K t t') (hs : t.Sound) {envelope : String} {score : Int}
    (hmem : (score, envelope) ∈ config.delayed t'.store) :
    (score, envelope) ∈ config.delayed t.store ∨
      ∃ n reserved delay time wall, t'.history = .did n (.retry reserved delay) time wall
        (.command .jobs (.zadd config.delayedKey envelope score)) (.ok ()) :: t.history := by
  cases h with
  | @acts world _ _ _ _ n op stage stage' e a left right h move =>
    refine (move.of_mem_delayed hmem n world.elapsed op world.wall).imp_right
      fun ⟨hadds, held, next, hstage⟩ => ?_
    have hfits := hs.fits ⟨n, op, stage⟩ (by simp)
    rw [hstage] at hfits
    obtain ⟨reserved, delay, rfl, -⟩ := QueueStage.fits_scheduling.1 hfits
    exact ⟨n, reserved, delay, _, _, congrArg (List.cons · _) hadds⟩
  | drifts h =>
    cases h
    exact .inl hmem
  | _ => exact .inl hmem

theorem awaits_step (h : Step K t t') (hs : t.Sound) {n : Nat} {now : Int} {envelope : String}
    (hawaits : config.Awaits n now envelope t.store t.history) :
    config.Awaits n now envelope t'.store t'.history := by
  obtain ⟨later, ⟨earlier, time, wall, limit, due, hlisted, henvelope⟩, hscores⟩ := hawaits
  obtain hsame | ⟨event, hadds⟩ := h.history
  · refine ⟨later, ⟨earlier, time, wall, limit, due, hsame.trans hlisted, henvelope⟩, fun score hmem => ?_⟩
    obtain hold | ⟨_, _, _, _, _, hadds⟩ := h.of_mem_delayed hs hmem
    · exact hscores score hold
    · exact absurd (hsame.symm.trans hadds).symm (List.cons_ne_self _ _)
  · refine ⟨event :: later, ⟨earlier, time, wall, limit, due, by rw [hadds, hlisted, List.cons_append],
      henvelope⟩, fun score hmem => ?_⟩
    obtain hold | ⟨m, reserved, delay, time', wall', hadds'⟩ := h.of_mem_delayed hs hmem
    · exact (hscores score hold).imp_right fun ⟨m, reserved, delay, time', wall', hscheduled⟩ =>
        ⟨m, reserved, delay, time', wall', .tail _ hscheduled⟩
    · obtain rfl := (List.cons.inj (hadds.symm.trans hadds')).1
      exact .inr ⟨m, reserved, delay, time', wall', .head _⟩

/-- All promotions go by listings of which no envelope is delayed longer, unless it was scheduled since. -/
def Awaits (t : QueueScene config) : Prop :=
  ∀ c ∈ t.calls,
    c.stage.GoesBy (fun now envelope => config.Awaits c.number now envelope t.store t.history) t.world.wall

theorem Awaits.step (hforward : ∀ before nanos after, K.clock before nanos after → before ≤ after)
    (h : Step K t t') (hs : t.Sound) (hdistinct : t'.store.IsDistinct config.delayedKey) (hw : t.Awaits) :
    t'.Awaits := by
  intro c hc
  have hold : ∀ stage, ⟨c.number, c.op, stage⟩ ∈ t.calls → stage.GoesBy
      (fun now envelope => config.Awaits c.number now envelope t'.store t'.history) t.world.wall :=
    fun stage hstage => (hw _ hstage).mono (Int.le_refl _) fun _ _ => awaits_step h hs
  refine QueueStage.GoesBy.mono (h.wall_le hforward) (fun _ _ => id) ?_
  obtain hsame | ⟨hnew, -⟩ | ⟨stage, e, a, hstage, -, move, hhistory⟩ := h.of_mem_calls hc
  · exact hold c.stage hsame
  · rw [hnew]
    exact QueueStage.goesBy_start config c.op
  · refine move.goesBy c.number t.world.elapsed c.op t.world.wall
      (fun now due hlisting hevent hover envelope henvelope => ?_) (hold stage hstage)
    have hfits := hs.fits _ hstage
    rw [hlisting] at hfits
    have hop : c.op = .promoteDue := QueueStage.fits_listing.1 hfits
    rw [hevent, hop] at hhistory
    refine ⟨[], ⟨t.history, _, _, now, due, hhistory, henvelope⟩, fun score hscore => .inl ?_⟩
    obtain ⟨score', hscore', hle⟩ := hover envelope henvelope
    obtain heq : (score, envelope) = (score', envelope) :=
      List.inj_on_of_nodup_map hdistinct hscore hscore' rfl
    exact (Prod.mk.inj heq).1 ▸ hle

theorem Run.awaits (hforward : ∀ before nanos after, K.clock before nanos after → before ≤ after)
    (hdistinct : world.jobs.store.IsDistinct config.delayedKey) (h : Run K (start config world) t) :
    t.Awaits := by
  induction h with
  | refl => simp [Awaits, start]
  | @tail s t hrun hstep ih =>
    have hreach : Scene.Reachable K world t.scene := Run.scene (hrun.tail hstep)
    exact ih.step hforward hstep (Run.invariant hrun).1
      (hreach.store_keeps (fun _ _ _ _ _ hrun hstore => Store.isDistinct_of_run _ hrun hstore) hdistinct)

/-- A promotion that takes an envelope off goes by a listing of it. -/
theorem exists_awaits_of_takesOff {s : Scene config.clients}
    (hforward : ∀ before nanos after, K.clock before nanos after → before ≤ after)
    (hdistinct : world.jobs.store.IsDistinct config.delayedKey) (h : Run K (start config world) t)
    (hstep : Scene.Step K t.scene s) {n : Nat} {envelope : String} {score : Int}
    (htakes : config.TakesOff t.scene s n envelope score) :
    ∃ now, now ≤ t.world.wall / Time.nanosPerMilli ∧ config.Awaits n now envelope t.store t.history := by
  obtain ⟨t', rfl, hstaged⟩ := step_scene hstep
  have hawaits := Run.awaits hforward hdistinct h
  have hevent := htakes.did
  cases hstaged with
  | acts m op stage stage' e a left right happened move =>
    obtain ⟨rfl, rfl, -⟩ := Event.did.inj (List.cons.inj hevent).1
    obtain ⟨now, due, promoted, rfl⟩ := move.removing_of_taken (List.cons.inj hevent).1
    obtain ⟨hnow, hdue⟩ := hawaits ⟨m, .promoteDue, .removing now envelope due promoted⟩ (by simp)
    exact ⟨now, hnow, hdue envelope (.head _)⟩
  | drifts => exact absurd hevent.symm (List.cons_ne_self _ _)
  | _ => cases (List.cons.inj hevent).1

/-- A job that is enqueued twice can be let through before its time: its second delivery is retried while
a promotion goes by the listing that the retry of the first one is on. -/
theorem exists_run_early (config : QueueConfig) (world : World) {job next : Job} {nanos due : Int}
    {delay : Duration} (hread : Job.codec.ofText (Job.codec.text job) = .ok job)
    (hnext : job.next = .ok next) (hanswers : world.jobs.Answers)
    (hclock : Clock.recordTime world.wall = .ok nanos)
    (hwaiting : config.waiting world.jobs.store = []) (hdelayed : config.delayed world.jobs.store = [])
    (hdue : QueueStage.dueFrom world.wall delay = .ok due) :
    ∃ t t' : QueueScene config, ∃ n, Run K (start config world) t ∧ Step K t t' ∧
      config.TakesOff t.scene t'.scene n (Job.codec.text next) due ∧ t.world.wall = world.wall ∧
      ∃ t'', Step K t' t'' ∧ t''.world.wall = world.wall ∧
        Job.codec.text next ∈ config.waiting t''.store := by
  let now := nanos / Time.nanosPerMilli
  let pushed := config.afterPush (config.afterPush world (Job.codec.text job)) (Job.codec.text job)
  let popped := config.afterPop (config.afterPop pushed)
  let retried := config.afterRelease (config.afterSchedule popped (Job.codec.text next) now)
    (Job.codec.text job)
  let listed := config.afterListing retried now
  let rescheduled := config.afterRelease (config.afterSchedule listed (Job.codec.text next) due)
    (Job.codec.text job)
  have hpushed : config.waiting pushed.jobs.store = [Job.codec.text job, Job.codec.text job] := by
    simp [pushed, hwaiting]
  have hfirst : (config.waiting pushed.jobs.store).getLast? = some (Job.codec.text job) := by
    rw [hpushed]
    rfl
  have hsecond : (config.waiting (config.afterPop pushed).jobs.store).getLast? =
      some (Job.codec.text job) := by
    rw [(config.holds_afterPop pushed hfirst).1, hpushed]
    rfl
  have hpopped : config.delayed popped.jobs.store = [] := by
    rw [(config.holds_afterPop _ hsecond).2.2.2, (config.holds_afterPop pushed hfirst).2.2.2]
    simp [pushed, hdelayed]
  have hretried : config.delayed retried.jobs.store = [(now, Job.codec.text next)] := by
    simp [retried, hpopped, Store.withoutMember, Store.insertScored]
  have hrescheduled : config.delayed rescheduled.jobs.store = [(due, Job.codec.text next)] := by
    simp [rescheduled, listed, hretried, Store.withoutMember, Store.insertScored]
  have hleast : Word.signedMin64 ≤ now := by
    have hpos := (Clock.millis_range hclock).1
    simp only [Word.signedMin64, now]
    omega
  obtain ⟨history, hrun⟩ : ∃ history, Run K (start config world)
      ⟨popped, [], [⟨job, Job.codec.text job⟩, ⟨job, Job.codec.text job⟩], 4, history⟩ := by
    have hanswers₁ : (config.afterPush world (Job.codec.text job)).jobs.Answers := hanswers
    have hanswers₂ : pushed.jobs.Answers := hanswers
    have hanswers₃ : (config.afterPop pushed).jobs.Answers := hanswers
    exact ⟨_, (((run_enqueue hanswers job).trans (run_enqueue hanswers₁ job)).trans
      (run_dequeue hanswers₂ hfirst hread)).trans (run_dequeue hanswers₃ hsecond hread)⟩
  obtain ⟨history, hrun⟩ : ∃ history, Run K (start config world)
      ⟨listed, [⟨5, .promoteDue, .removing now (Job.codec.text next) [] 0⟩],
        [⟨job, Job.codec.text job⟩], 6, history⟩ := by
    have hanswers₁ : popped.jobs.Answers := hanswers
    have hanswers₂ : retried.jobs.Answers := hanswers
    have hclock' : Clock.recordTime retried.wall = .ok nanos := hclock
    obtain ⟨_, hretry⟩ := run_retry hanswers₁ ⟨job, Job.codec.text job⟩ hnext (dueFrom_zero hclock)
    exact ⟨_, (hrun.trans hretry).trans
      (run_listing hanswers₂ hclock' hretried hleast (Int.le_refl _))⟩
  obtain ⟨history, hrun⟩ : ∃ history, Run K (start config world)
      ⟨rescheduled, [⟨5, .promoteDue, .removing now (Job.codec.text next) [] 0⟩], [], 7, history⟩ := by
    have hanswers' : listed.jobs.Answers := hanswers
    have hdue' : QueueStage.dueFrom listed.wall delay = .ok due := hdue
    obtain ⟨_, hretry⟩ := run_retry hanswers' ⟨job, Job.codec.text job⟩ hnext hdue'
    exact ⟨_, hrun.trans hretry⟩
  have hanswers' : rescheduled.jobs.Answers := hanswers
  have hpresent : (due, Job.codec.text next) ∈ config.delayed rescheduled.jobs.store := by
    rw [hrescheduled]
    exact .head _
  have hremoved : Step K
      ⟨rescheduled, [⟨5, .promoteDue, .removing now (Job.codec.text next) [] 0⟩], [], 7, history⟩ _ :=
    step_removal hanswers' [] 0 hpresent
  have hwaits : Job.codec.text next ∈ config.waiting (config.afterPush
      (config.afterRemoval rescheduled (Job.codec.text next)) (Job.codec.text next)).jobs.store := by
    rw [(config.holds_afterPush _ _).1]
    exact .head _
  exact ⟨_, _, 5, hrun, hremoved, ⟨hpresent, rfl⟩, rfl, _, step_did hanswers rfl (.requeued ..), rfl, hwaits⟩

end QueueScene

namespace QueueConfig

/-- A promotion takes an envelope off before its time only if a retry has scheduled it since the promotion
listed it. That happens: the second of two deliveries of any job can be retried in such a way, and however
long it is to wait, it is let through at once. -/
theorem takes_early_only_rescheduled (config : QueueConfig) (K : Conditions) (world : World) :
    ((∀ before nanos after, K.clock before nanos after → before ≤ after) →
      world.jobs.store.IsDistinct config.delayedKey →
      ∀ (s s' : Scene config.clients) (n : Nat) (envelope : String) (score : Int),
        Scene.Reachable K world s → Scene.Step K s s' → config.TakesOff s s' n envelope score →
        score ≤ s.world.wall / Time.nanosPerMilli ∨ config.Reschedules n envelope score s.history) ∧
    (∀ (job next : Job) (delay : Duration) (nanos due : Int),
      Job.codec.ofText (Job.codec.text job) = .ok job → job.next = .ok next →
      world.jobs.Answers → Clock.recordTime world.wall = .ok nanos →
      config.waiting world.jobs.store = [] → config.delayed world.jobs.store = [] →
      QueueStage.dueFrom world.wall delay = .ok due →
      ∃ (s s' s'' : Scene config.clients) (n : Nat), Scene.Reachable K world s ∧ Scene.Step K s s' ∧
        config.TakesOff s s' n (Job.codec.text next) due ∧ s.world.wall = world.wall ∧
        Scene.Step K s' s'' ∧ s''.world.wall = world.wall ∧
        Job.codec.text next ∈ config.waiting s''.world.jobs.store) := by
  refine ⟨fun hforward hdistinct s s' n envelope score hreach hstep htakes => ?_,
    fun job next delay nanos due hread hnext hanswers hclock hwaiting hdelayed hdue => ?_⟩
  · obtain ⟨t, rfl, hrun⟩ := QueueScene.exists_run hreach
    obtain ⟨now, hnow, later, hlisted, hscores⟩ :=
      QueueScene.exists_awaits_of_takesOff hforward hdistinct hrun hstep htakes
    exact (hscores score htakes.delayed).imp (fun hle => Int.le_trans hle hnow)
      fun hscheduled => ⟨later, hlisted, hscheduled⟩
  · obtain ⟨t, t', n, hrun, hstep, htakes, hwall, t'', hpush, hwall', hpushed⟩ :=
      QueueScene.exists_run_early (K := K) config world hread hnext hanswers hclock hwaiting hdelayed hdue
    exact ⟨t.scene, t'.scene, t''.scene, n, QueueScene.Run.scene hrun, hstep.scene, htakes, hwall,
      hpush.scene, hwall', hpushed⟩

/-- A retry that is to wait five seconds is let through at once, although no command fails and the clock does
not go back. -/
theorem sample_promoted_early : ¬ sample.PromotesOnTime .steady (.new [] false 0) := by
  intro h
  have hdue : QueueStage.dueFrom (World.new [] false 0).wall (.ofSeconds 5) = .ok 5000 := rfl
  obtain ⟨t, t', n, hrun, hstep, htakes, hwall, -⟩ :=
    QueueScene.exists_run_early (K := .steady) sample (.new [] false 0) Job.sample_isRead rfl
      (fun _ => ⟨rfl, rfl⟩) rfl rfl rfl hdue
  have hlate := h _ _ n _ _ (QueueScene.Run.scene hrun) hstep.scene htakes
  have hscene : t.scene.world.wall = 0 := hwall
  rw [hscene] at hlate
  exact absurd hlate (by decide)

theorem sample_promotes_rescheduled :
    ∃ (s s' s'' : Scene sample.clients) (n : Nat), Scene.Reachable .steady (.new [] false 0) s ∧
      Scene.Step .steady s s' ∧
      sample.TakesOff s s' n (Job.codec.text { Job.sample with attempt := 2 }) 5000 ∧
      sample.Reschedules n (Job.codec.text { Job.sample with attempt := 2 }) 5000 s.history ∧
      Scene.Step .steady s' s'' ∧
      Job.codec.text { Job.sample with attempt := 2 } ∈ sample.waiting s''.world.jobs.store := by
  obtain ⟨honly, hearly⟩ := takes_early_only_rescheduled sample .steady (.new [] false 0)
  obtain ⟨s, s', s'', n, hreach, hstep, htakes, hwall, hpush, -, hpushed⟩ :=
    hearly Job.sample { Job.sample with attempt := 2 } (.ofSeconds 5) 0 5000 Job.sample_isRead rfl
      (fun _ => ⟨rfl, rfl⟩) rfl rfl rfl rfl
  refine ⟨s, s', s'', n, hreach, hstep, htakes, ?_, hpush, hpushed⟩
  refine (honly (fun _ _ _ h => h) List.nodup_nil s s' n _ _ hreach hstep htakes).resolve_left ?_
  rw [hwall]
  decide

end QueueConfig

end JobQueue
