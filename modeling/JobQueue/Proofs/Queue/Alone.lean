import JobQueue.Proofs.Queue.Staged
import JobQueue.Proofs.Text.Numeral

/-! What the operations of a queue do while nothing else happens and every command is answered. -/

namespace JobQueue

open Time (Duration)

/-! ### Readings of the clock -/

namespace Clock

theorem recordTime_eq_ok {reading nanos : Int} :
    recordTime reading = .ok nanos ↔ reading = nanos ∧ 0 ≤ nanos ∧ nanos < calendarEnd := by
  unfold recordTime
  split
  · simp
    omega
  · split
    · simp
      omega
    · simp
      omega

/-- A reading of a record in milliseconds is a score. -/
theorem millis_range {reading nanos : Int} (h : recordTime reading = .ok nanos) :
    0 ≤ nanos / Time.nanosPerMilli ∧ nanos / Time.nanosPerMilli ≤ Word.signedMax64 := by
  obtain ⟨-, hpos, hend⟩ := recordTime_eq_ok.1 h
  simp only [calendarEnd, Time.nanosPerSecond] at hend
  simp only [Time.nanosPerMilli, Word.signedMax64]
  omega

/-- A reading of a record in milliseconds is read back from its digits. -/
theorem boundScore_millis {reading nanos : Int} (h : recordTime reading = .ok nanos) :
    Store.boundScore (String.ofList (Text.intDigits (nanos / Time.nanosPerMilli))) =
      nanos / Time.nanosPerMilli := by
  obtain ⟨hpos, hmost⟩ := millis_range h
  exact Store.boundScore_intDigits (Int.le_trans (by decide) hpos) hmost

end Clock

/-! ### Worlds after single commands -/

namespace QueueConfig

variable (config : QueueConfig) (world : World)

def afterPush (envelope : String) : World :=
  world.did (.lpush config.waitKey envelope) (world.jobs.store.pushFront config.waitKey envelope)

def afterPop : World :=
  world.did (.rpoplpush config.waitKey config.activeKey)
    (world.jobs.store.rotate config.waitKey config.activeKey).2

def afterSchedule (envelope : String) (due : Int) : World :=
  world.did (.zadd config.delayedKey envelope due)
    (world.jobs.store.setSorted config.delayedKey (Store.insertScored (due, envelope)
      (Store.withoutMember envelope (config.delayed world.jobs.store))))

def afterRelease (envelope : String) : World :=
  world.did (.lrem config.activeKey 1 envelope)
    (world.jobs.store.setList config.activeKey ((config.active world.jobs.store).erase envelope))

def afterListing (now : Int) : World :=
  world.did (.zrangebyscore config.delayedKey "-inf" (String.ofList (Text.intDigits now)))
    world.jobs.store

def afterRemoval (envelope : String) : World :=
  world.did (.zrem config.delayedKey envelope)
    (world.jobs.store.setSorted config.delayedKey
      (Store.withoutMember envelope (config.delayed world.jobs.store)))

/-! A queue holds the same after a command but for what the command is for. -/

@[simp] theorem holds_afterPush (envelope : String) :
    config.waiting (config.afterPush world envelope).jobs.store =
      envelope :: config.waiting world.jobs.store ∧
    config.active (config.afterPush world envelope).jobs.store = config.active world.jobs.store ∧
    config.failed (config.afterPush world envelope).jobs.store = config.failed world.jobs.store ∧
    config.delayed (config.afterPush world envelope).jobs.store = config.delayed world.jobs.store :=
  config.holds_pushFront_waitKey world.jobs.store envelope

theorem holds_afterPop {envelope : String}
    (h : (config.waiting world.jobs.store).getLast? = some envelope) :
    config.waiting (config.afterPop world).jobs.store = (config.waiting world.jobs.store).dropLast ∧
    config.active (config.afterPop world).jobs.store = envelope :: config.active world.jobs.store ∧
    config.failed (config.afterPop world).jobs.store = config.failed world.jobs.store ∧
    config.delayed (config.afterPop world).jobs.store = config.delayed world.jobs.store :=
  config.holds_rotate world.jobs.store h

@[simp] theorem holds_afterSchedule (envelope : String) (due : Int) :
    config.waiting (config.afterSchedule world envelope due).jobs.store =
      config.waiting world.jobs.store ∧
    config.active (config.afterSchedule world envelope due).jobs.store =
      config.active world.jobs.store ∧
    config.failed (config.afterSchedule world envelope due).jobs.store =
      config.failed world.jobs.store ∧
    config.delayed (config.afterSchedule world envelope due).jobs.store =
      Store.insertScored (due, envelope)
        (Store.withoutMember envelope (config.delayed world.jobs.store)) :=
  config.holds_setSorted_delayedKey world.jobs.store _

@[simp] theorem holds_afterRelease (envelope : String) :
    config.waiting (config.afterRelease world envelope).jobs.store =
      config.waiting world.jobs.store ∧
    config.active (config.afterRelease world envelope).jobs.store =
      (config.active world.jobs.store).erase envelope ∧
    config.failed (config.afterRelease world envelope).jobs.store =
      config.failed world.jobs.store ∧
    config.delayed (config.afterRelease world envelope).jobs.store =
      config.delayed world.jobs.store :=
  config.holds_setList_activeKey world.jobs.store _

@[simp] theorem afterListing_store (now : Int) :
    (config.afterListing world now).jobs.store = world.jobs.store := rfl

@[simp] theorem holds_afterRemoval (envelope : String) :
    config.waiting (config.afterRemoval world envelope).jobs.store =
      config.waiting world.jobs.store ∧
    config.active (config.afterRemoval world envelope).jobs.store =
      config.active world.jobs.store ∧
    config.failed (config.afterRemoval world envelope).jobs.store =
      config.failed world.jobs.store ∧
    config.delayed (config.afterRemoval world envelope).jobs.store =
      Store.withoutMember envelope (config.delayed world.jobs.store) :=
  config.holds_setSorted_delayedKey world.jobs.store _

variable {world}

/-- A listing of what is due at a reading of the clock answers all members up to it. -/
theorem run_zrangebyscore {nanos : Int} (hread : Clock.recordTime world.wall = .ok nanos) :
    world.jobs.store.run world.elapsed (.zrangebyscore config.delayedKey "-inf"
      (String.ofList (Text.intDigits (nanos / Time.nanosPerMilli)))) =
        .ok (Store.membersWithin Word.signedMin64 (nanos / Time.nanosPerMilli)
          (config.delayed world.jobs.store), world.jobs.store) := by
  rw [Store.run, Clock.boundScore_millis hread]
  rfl

/-- A removal of a member that is there answers so. -/
theorem run_zrem {score : Int} {envelope : String}
    (hpresent : (score, envelope) ∈ config.delayed world.jobs.store) :
    world.jobs.store.run world.elapsed (.zrem config.delayedKey envelope) =
      .ok (true, world.jobs.store.setSorted config.delayedKey
        (Store.withoutMember envelope (config.delayed world.jobs.store))) := by
  rw [Store.run, ← delayed, decide_eq_true (Store.length_withoutMember_lt.2 ⟨_, hpresent⟩)]

end QueueConfig

/-! ### Operations -/

namespace QueueScene

variable {config : QueueConfig} {K : Conditions} {world : World} {calls : List QueueCall}
  {hands : List ReservedJob} {n begun : Nat} {history : List (Event config.clients)}

/-- The next stage of a call whose command is answered. -/
theorem step_did {op : QueueOp} {stage stage' : QueueStage} {c : Command} {a : c.Answer}
    {store : Store} (h : world.jobs.Answers)
    (hrun : world.jobs.store.run world.elapsed c = .ok (a, store))
    (move : stage.Move config world (.command .jobs c) (.ok a) store stage') :
    Step K ⟨world, ⟨n, op, stage⟩ :: calls, hands, begun, history⟩
      ⟨world.did c store, ⟨n, op, stage'⟩ :: calls, hands, begun,
        .did n op world.elapsed world.wall (.command .jobs c) (.ok a) :: history⟩ :=
  .acts n op stage stage' _ _ [] calls (.of_answers h hrun) move

/-- The next stage of a call that reads the clock. -/
theorem step_clock {op : QueueOp} {stage stage' : QueueStage}
    (move : stage.Move config world .clock world.wall world.jobs.store stage') :
    Step K ⟨world, ⟨n, op, stage⟩ :: calls, hands, begun, history⟩
      ⟨world, ⟨n, op, stage'⟩ :: calls, hands, begun,
        .did n op world.elapsed world.wall .clock world.wall :: history⟩ :=
  .acts n op stage stage' _ _ [] calls (.performed .clock) move

theorem run_enqueue (h : world.jobs.Answers) (job : Job) :
    Run K ⟨world, calls, hands, begun, history⟩
      ⟨config.afterPush world (Job.codec.text job), calls, hands, begun + 1,
        .ended begun (.enqueue job) (.ok .nothing) ::
        .did begun (.enqueue job) world.elapsed world.wall
          (.command .jobs (.lpush config.waitKey (Job.codec.text job))) (.ok ()) ::
        .began begun (.enqueue job) :: history⟩ :=
  .head (.begins (.enqueue job) rfl) <| .head (step_did h rfl (.pushed _)) <|
    .single (.ends begun (.enqueue job) _ [] calls)

theorem run_dequeue (h : world.jobs.Answers) {envelope : String} {job : Job}
    (hlast : (config.waiting world.jobs.store).getLast? = some envelope)
    (hread : Job.codec.ofText envelope = .ok job) :
    Run K ⟨world, calls, hands, begun, history⟩
      ⟨config.afterPop world, calls, ⟨job, envelope⟩ :: hands, begun + 1,
        .ended begun .dequeue (.ok (.reserved (some ⟨job, envelope⟩))) ::
        .did begun .dequeue world.elapsed world.wall
          (.command .jobs (.rpoplpush config.waitKey config.activeKey)) (.ok (some envelope)) ::
        .began begun .dequeue :: history⟩ := by
  have hrun : world.jobs.store.run world.elapsed (.rpoplpush config.waitKey config.activeKey) =
      .ok (some envelope, (world.jobs.store.rotate config.waitKey config.activeKey).2) := by
    rw [Store.run, ← hlast, QueueConfig.waiting, ← Store.rotate_fst _ _ config.activeKey]
  exact .head (.begins .dequeue rfl) <| .head (step_did h hrun (.reserved _ _ hlast hread)) <|
    .single (.ends begun .dequeue _ [] calls)

theorem step_release {op : QueueOp} (h : world.jobs.Answers) (envelope : String) :
    ∃ removed, Step K ⟨world, ⟨n, op, .releasing envelope⟩ :: calls, hands, begun, history⟩
      ⟨config.afterRelease world envelope, ⟨n, op, .done (.ok .nothing)⟩ :: calls, hands, begun,
        .did n op world.elapsed world.wall
          (.command .jobs (.lrem config.activeKey 1 envelope)) (.ok removed) :: history⟩ := by
  refine ⟨_, step_did h (a := ?_) ?_ (.released envelope _)⟩
  · exact (config.active world.jobs.store).length -
      ((config.active world.jobs.store).erase envelope).length
  · rw [Store.run, ← Store.removeFirst_one]
    rfl

/-- Where completed jobs are not kept, to complete a delivery is to release it. -/
theorem run_complete (h : world.jobs.Answers) (reserved : ReservedJob)
    (hkeeps : config.keepsCompleted = false) :
    ∃ removed, Run K ⟨world, calls, reserved :: hands, begun, history⟩
      ⟨config.afterRelease world reserved.envelope, calls, hands, begun + 1,
        .ended begun (.complete reserved) (.ok .nothing) ::
        .did begun (.complete reserved) world.elapsed world.wall
          (.command .jobs (.lrem config.activeKey 1 reserved.envelope)) (.ok removed) ::
        .began begun (.complete reserved) :: history⟩ := by
  have hstart : QueueStage.start config (.complete reserved) = .releasing reserved.envelope := by
    simp [QueueStage.start, hkeeps]
  obtain ⟨removed, hrelease⟩ := step_release (K := K) h reserved.envelope
  refine ⟨removed, .head (.takes (.complete reserved) reserved [] hands rfl) ?_⟩
  rw [hstart]
  exact .head hrelease <| .single (.ends begun (.complete reserved) _ [] calls)

/-- A retry schedules the next delivery and releases the one in hand. -/
theorem run_retry (h : world.jobs.Answers) (reserved : ReservedJob) {delay : Duration} {next : Job}
    {due : Int} (hnext : reserved.job.next = .ok next)
    (hdue : QueueStage.dueFrom world.wall delay = .ok due) :
    ∃ removed, Run K ⟨world, calls, reserved :: hands, begun, history⟩
      ⟨config.afterRelease (config.afterSchedule world (Job.codec.text next) due) reserved.envelope,
        calls, hands, begun + 1,
        .ended begun (.retry reserved delay) (.ok .nothing) ::
        .did begun (.retry reserved delay) world.elapsed world.wall
          (.command .jobs (.lrem config.activeKey 1 reserved.envelope)) (.ok removed) ::
        .did begun (.retry reserved delay) world.elapsed world.wall
          (.command .jobs (.zadd config.delayedKey (Job.codec.text next) due)) (.ok ()) ::
        .did begun (.retry reserved delay) world.elapsed world.wall .clock world.wall ::
        .began begun (.retry reserved delay) :: history⟩ := by
  have hstart : QueueStage.start config (.retry reserved delay) =
      .dating reserved.envelope next delay := by
    simp only [QueueStage.start, hnext]
  have hscheduled : (config.afterSchedule world (Job.codec.text next) due).jobs.Answers := h
  obtain ⟨removed, hrelease⟩ := step_release (K := K) hscheduled reserved.envelope
  refine ⟨removed, .head (.takes (.retry reserved delay) reserved [] hands rfl) ?_⟩
  rw [hstart]
  exact .head (step_clock (.dated _ next delay due hdue)) <|
    .head (step_did h rfl (.scheduled _ next due)) <|
    .head hrelease <| .single (.ends begun (.retry reserved delay) _ [] calls)

/-- A retry panics if it cannot tell when the next delivery is due. -/
theorem run_retry_panic (reserved : ReservedJob) {delay : Duration} {next : Job} {p : Panic}
    (hnext : reserved.job.next = .ok next) (hdue : QueueStage.dueFrom world.wall delay = .error p) :
    Run K ⟨world, calls, reserved :: hands, begun, history⟩
      ⟨world, calls, hands, begun + 1,
        .panicked begun (.retry reserved delay) p ::
        .did begun (.retry reserved delay) world.elapsed world.wall .clock world.wall ::
        .began begun (.retry reserved delay) :: history⟩ := by
  have hstart : QueueStage.start config (.retry reserved delay) =
      .dating reserved.envelope next delay := by
    simp only [QueueStage.start, hnext]
  refine .head (.takes (.retry reserved delay) reserved [] hands rfl) ?_
  rw [hstart]
  exact .head (step_clock (.undated _ next delay p hdue)) <|
    .single (.panics begun (.retry reserved delay) p [] calls)

/-- A promotion lists the only delayed envelope once it is due. -/
theorem run_listing (h : world.jobs.Answers) {nanos score : Int} {envelope : String}
    (hread : Clock.recordTime world.wall = .ok nanos)
    (hdelayed : config.delayed world.jobs.store = [(score, envelope)])
    (hleast : Word.signedMin64 ≤ score) (hdue : score ≤ nanos / Time.nanosPerMilli) :
    Run K ⟨world, calls, hands, begun, history⟩
      ⟨config.afterListing world (nanos / Time.nanosPerMilli),
        ⟨begun, .promoteDue, .removing (nanos / Time.nanosPerMilli) envelope [] 0⟩ :: calls, hands,
        begun + 1,
        .did begun .promoteDue world.elapsed world.wall
          (.command .jobs (.zrangebyscore config.delayedKey "-inf"
            (String.ofList (Text.intDigits (nanos / Time.nanosPerMilli))))) (.ok [envelope]) ::
        .did begun .promoteDue world.elapsed world.wall .clock world.wall ::
        .began begun .promoteDue :: history⟩ := by
  have hmembers : Store.membersWithin Word.signedMin64 (nanos / Time.nanosPerMilli)
      (config.delayed world.jobs.store) = [envelope] := by
    rw [hdelayed]
    simp [Store.membersWithin, hleast, hdue]
  have hlisted := config.run_zrangebyscore hread
  have hdue : [envelope] = Store.membersWithin (Store.boundScore "-inf")
      (Store.boundScore (String.ofList (Text.intDigits (nanos / Time.nanosPerMilli))))
      (config.delayed world.jobs.store) := by
    rw [Clock.boundScore_millis hread, ← hmembers]
    rfl
  rw [hmembers] at hlisted
  exact .head (.begins .promoteDue rfl) <| .head (step_clock (.looked nanos hread)) <|
    .single (step_did h hlisted (.listed _ _ hdue))

/-- A promotion takes off an envelope that is there. -/
theorem step_removal (h : world.jobs.Answers) {now score : Int} {envelope : String} (due : List String)
    (promoted : Nat) (hpresent : (score, envelope) ∈ config.delayed world.jobs.store) :
    Step K ⟨world, ⟨n, .promoteDue, .removing now envelope due promoted⟩ :: calls, hands, begun, history⟩
      ⟨config.afterRemoval world envelope, ⟨n, .promoteDue, .requeuing now envelope due promoted⟩ :: calls,
        hands, begun,
        .did n .promoteDue world.elapsed world.wall
          (.command .jobs (.zrem config.delayedKey envelope)) (.ok true) :: history⟩ :=
  step_did h (config.run_zrem hpresent) (.removed now envelope due promoted ⟨_, hpresent⟩)

/-- A promotion takes the only delayed envelope off once it is due. -/
theorem run_promoting (h : world.jobs.Answers) {nanos score : Int} {envelope : String}
    (hread : Clock.recordTime world.wall = .ok nanos)
    (hdelayed : config.delayed world.jobs.store = [(score, envelope)])
    (hleast : Word.signedMin64 ≤ score) (hdue : score ≤ nanos / Time.nanosPerMilli) :
    Run K ⟨world, calls, hands, begun, history⟩
      ⟨config.afterRemoval (config.afterListing world (nanos / Time.nanosPerMilli)) envelope,
        ⟨begun, .promoteDue, .requeuing (nanos / Time.nanosPerMilli) envelope [] 0⟩ :: calls, hands,
        begun + 1,
        .did begun .promoteDue world.elapsed world.wall
          (.command .jobs (.zrem config.delayedKey envelope)) (.ok true) ::
        .did begun .promoteDue world.elapsed world.wall
          (.command .jobs (.zrangebyscore config.delayedKey "-inf"
            (String.ofList (Text.intDigits (nanos / Time.nanosPerMilli))))) (.ok [envelope]) ::
        .did begun .promoteDue world.elapsed world.wall .clock world.wall ::
        .began begun .promoteDue :: history⟩ := by
  have hlisting : (config.afterListing world (nanos / Time.nanosPerMilli)).jobs.Answers := h
  have hpresent : (score, envelope) ∈ config.delayed
      (config.afterListing world (nanos / Time.nanosPerMilli)).jobs.store := by
    rw [QueueConfig.afterListing_store, hdelayed]
    exact .head _
  exact (run_listing h hread hdelayed hleast hdue).tail (step_removal hlisting [] 0 hpresent)

end QueueScene

/-! ### Fixed inputs -/

/-- A queue with nothing set but how many deliveries a job gets. -/
def QueueConfig.sample : QueueConfig :=
  { QueueConfig.named "jobs" "app" with defaultJobOptions := some ⟨some 5, none⟩ }

/-- The first delivery of a valid job. -/
def Job.sample : Job :=
  .first "j1" (.object [("clientId", .string "c"), ("query", .string "q")])

theorem Job.sample_isRead : Job.codec.ofText (Job.codec.text Job.sample) = .ok Job.sample := by
  with_unfolding_all rfl

end JobQueue
