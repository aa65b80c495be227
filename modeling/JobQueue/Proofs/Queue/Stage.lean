import JobQueue.Proofs.Store.Commands
import JobQueue.Queue.Basic

/-! Where the calls on a queue stand. Each operation goes through a few stages, one for each of its
effects, and `QueueStage.Move` says once what every stage can do. -/

namespace JobQueue

open Time (Duration)

/-! ### Operations -/

inductive QueueOp where
  | enqueue (job : Job)
  | dequeue
  | complete (reserved : ReservedJob)
  | fail (reserved : ReservedJob)
  | retry (reserved : ReservedJob) (delay : Duration)
  | promoteDue

inductive QueueReply where
  | nothing
  | reserved (reserved : Option ReservedJob)
  | promoted (count : Nat)

namespace QueueOp

abbrev Result : Type := Except QueueError QueueReply

/-- An operation as a program with a reply. -/
def program (config : QueueConfig) : QueueOp → Program Result
  | enqueue job => ((fun _ => QueueReply.nothing) <$> Queue.enqueue config job).run
  | dequeue => (QueueReply.reserved <$> Queue.dequeue config).run
  | complete reserved => ((fun _ => QueueReply.nothing) <$> Queue.complete config reserved).run
  | fail reserved => ((fun _ => QueueReply.nothing) <$> Queue.fail config reserved).run
  | retry reserved delay => ((fun _ => QueueReply.nothing) <$> Queue.retry config reserved delay).run
  | promoteDue => (QueueReply.promoted <$> Queue.promoteDue config).run

/-- A delivery is settled at most once, since that uses up its reservation. -/
def needs : QueueOp → Option ReservedJob
  | complete reserved => some reserved
  | fail reserved => some reserved
  | retry reserved _ => some reserved
  | _ => none

/-- A delivery is reserved by taking it off the queue. -/
def gains : QueueOp → Result → Option ReservedJob
  | dequeue, .ok (.reserved reserved) => reserved
  | _, _ => none

end QueueOp

/-- The producers and workers of a queue. -/
abbrev QueueConfig.clients (config : QueueConfig) : Clients where
  Op := QueueOp
  Reply := QueueOp.Result
  Thing := ReservedJob
  program := QueueOp.program config
  needs := QueueOp.needs
  gains := QueueOp.gains

/-! ### What a queue holds -/

namespace QueueConfig

variable (config : QueueConfig) (store : Store)

def waiting : List String := store.lists.get config.waitKey

def active : List String := store.lists.get config.activeKey

def failed : List String := store.lists.get config.failedKey

def delayed : List (Int × String) := store.sortedSets.get config.delayedKey

theorem key_eq_iff {s t : String} : config.key s = config.key t ↔ s = t := by
  simp [key]

theorem key_beq_false {s t : String} (h : s ≠ t) : (config.key s == config.key t) = false :=
  beq_false_of_ne (mt config.key_eq_iff.1 h)

/-! What the updates of a store mean for the queue. -/

@[simp] theorem holds_pushFront_waitKey (envelope : String) :
    config.waiting (store.pushFront config.waitKey envelope) = envelope :: config.waiting store ∧
    config.active (store.pushFront config.waitKey envelope) = config.active store ∧
    config.failed (store.pushFront config.waitKey envelope) = config.failed store ∧
    config.delayed (store.pushFront config.waitKey envelope) = config.delayed store := by
  simp [waiting, active, failed, delayed, Keyspace.get_put, waitKey, activeKey, failedKey, key_eq_iff]

@[simp] theorem holds_pushBack_failedKey (envelope : String) :
    config.waiting (store.pushBack config.failedKey envelope) = config.waiting store ∧
    config.active (store.pushBack config.failedKey envelope) = config.active store ∧
    config.failed (store.pushBack config.failedKey envelope) = config.failed store ++ [envelope] ∧
    config.delayed (store.pushBack config.failedKey envelope) = config.delayed store := by
  simp [waiting, active, failed, delayed, Keyspace.get_put, waitKey, activeKey, failedKey, key_eq_iff]

@[simp] theorem holds_pushBack_completedKey (envelope : String) :
    config.waiting (store.pushBack config.completedKey envelope) = config.waiting store ∧
    config.active (store.pushBack config.completedKey envelope) = config.active store ∧
    config.failed (store.pushBack config.completedKey envelope) = config.failed store ∧
    config.delayed (store.pushBack config.completedKey envelope) = config.delayed store := by
  simp [waiting, active, failed, delayed, Keyspace.get_put, waitKey, activeKey, failedKey,
    completedKey, key_eq_iff]

@[simp] theorem holds_setList_activeKey (items : List String) :
    config.waiting (store.setList config.activeKey items) = config.waiting store ∧
    config.active (store.setList config.activeKey items) = items ∧
    config.failed (store.setList config.activeKey items) = config.failed store ∧
    config.delayed (store.setList config.activeKey items) = config.delayed store := by
  simp [waiting, active, failed, delayed, Keyspace.get_put, waitKey, activeKey, failedKey, key_eq_iff]

@[simp] theorem holds_setSorted_delayedKey (set : List (Int × String)) :
    config.waiting (store.setSorted config.delayedKey set) = config.waiting store ∧
    config.active (store.setSorted config.delayedKey set) = config.active store ∧
    config.failed (store.setSorted config.delayedKey set) = config.failed store ∧
    config.delayed (store.setSorted config.delayedKey set) = set := by
  simp [waiting, active, failed, delayed]

theorem holds_rotate {envelope : String} (h : (config.waiting store).getLast? = some envelope) :
    config.waiting (store.rotate config.waitKey config.activeKey).2 = (config.waiting store).dropLast ∧
    config.active (store.rotate config.waitKey config.activeKey).2 = envelope :: config.active store ∧
    config.failed (store.rotate config.waitKey config.activeKey).2 = config.failed store ∧
    config.delayed (store.rotate config.waitKey config.activeKey).2 = config.delayed store := by
  rw [Store.rotate_of_some h]
  simp [waiting, active, failed, delayed, Keyspace.get_put, waitKey, activeKey, failedKey, key_eq_iff]

/-- A release erases one copy of the envelope. -/
theorem run_lrem_activeKey (now : Nat) (envelope : String) :
    store.run now (.lrem config.activeKey 1 envelope) =
      .ok ((config.active store).length - ((config.active store).erase envelope).length,
        store.setList config.activeKey ((config.active store).erase envelope)) := by
  rw [← Store.removeFirst_one]
  rfl

end QueueConfig

/-! ### Stages -/

inductive QueueStage where
  | pushing (envelope : String)
  | popping
  /-- An unreadable envelope goes to the failed ones. -/
  | burying (envelope : String) (fault : Json.Fault)
  | clearing (envelope : String) (fault : Json.Fault)
  | archiving (envelope : String)
  | keeping (envelope : String)
  | releasing (envelope : String)
  | dating (envelope : String) (next : Job) (delay : Duration)
  | scheduling (envelope : String) (next : Job) (due : Int)
  | looking
  | listing (now : Int)
  /-- Goes through the members that were due at a time, and has let some of them wait again. -/
  | removing (now : Int) (envelope : String) (due : List String) (promoted : Nat)
  | requeuing (now : Int) (envelope : String) (due : List String) (promoted : Nat)
  | done (result : QueueOp.Result)
  | broken (p : Panic)

namespace QueueStage

open QueueAction Queue

variable (config : QueueConfig)

/-- What is left to do at a stage. -/
def program : QueueStage → Program QueueOp.Result
  | pushing envelope => ((fun _ => QueueReply.nothing) <$> send (.lpush config.waitKey envelope)).run
  | popping => (QueueReply.reserved <$> dequeue config).run
  | burying envelope fault =>
    (QueueReply.reserved <$> (do
      send (.rpush config.failedKey envelope)
      release config envelope
      throw (.unreadable fault) : QueueAction (Option ReservedJob))).run
  | clearing envelope fault =>
    (QueueReply.reserved <$> (do
      release config envelope
      throw (.unreadable fault) : QueueAction (Option ReservedJob))).run
  | archiving envelope =>
    ((fun _ => QueueReply.nothing) <$> (do
      send (.rpush config.completedKey envelope)
      release config envelope)).run
  | keeping envelope =>
    ((fun _ => QueueReply.nothing) <$> (do
      send (.rpush config.failedKey envelope)
      release config envelope)).run
  | releasing envelope => ((fun _ => QueueReply.nothing) <$> release config envelope).run
  | dating envelope next delay =>
    ((fun _ => QueueReply.nothing) <$> (do
      let due ← QueueAction.ofExcept (dueAt (← clockMillis) delay)
      send (.zadd config.delayedKey (Job.codec.text next) due)
      release config envelope)).run
  | scheduling envelope next due =>
    ((fun _ => QueueReply.nothing) <$> (do
      send (.zadd config.delayedKey (Job.codec.text next) due)
      release config envelope)).run
  | looking => (QueueReply.promoted <$> promoteDue config).run
  | listing now =>
    (QueueReply.promoted <$> (do
      promoteAll config
        (← send (.zrangebyscore config.delayedKey "-inf" (String.ofList (Text.intDigits now)))) 0)).run
  | removing _ envelope due promoted =>
    (QueueReply.promoted <$> promoteAll config (envelope :: due) promoted).run
  | requeuing _ envelope due promoted =>
    (QueueReply.promoted <$> (do
      send (.lpush config.waitKey envelope)
      promoteAll config due (promoted + 1))).run
  | done result => .done result
  | broken p => .panic p

/-- The effect that comes next at a stage. -/
def effect? : QueueStage → Option Effect
  | pushing envelope => some (.command .jobs (.lpush config.waitKey envelope))
  | popping => some (.command .jobs (.rpoplpush config.waitKey config.activeKey))
  | burying envelope _ => some (.command .jobs (.rpush config.failedKey envelope))
  | clearing envelope _ => some (.command .jobs (.lrem config.activeKey 1 envelope))
  | archiving envelope => some (.command .jobs (.rpush config.completedKey envelope))
  | keeping envelope => some (.command .jobs (.rpush config.failedKey envelope))
  | releasing envelope => some (.command .jobs (.lrem config.activeKey 1 envelope))
  | dating .. => some .clock
  | scheduling _ next due =>
    some (.command .jobs (.zadd config.delayedKey (Job.codec.text next) due))
  | looking => some .clock
  | listing now =>
    some (.command .jobs
      (.zrangebyscore config.delayedKey "-inf" (String.ofList (Text.intDigits now))))
  | removing _ envelope _ _ => some (.command .jobs (.zrem config.delayedKey envelope))
  | requeuing _ envelope _ _ => some (.command .jobs (.lpush config.waitKey envelope))
  | done _ => none
  | broken _ => none

/-- The stage at which an operation begins. -/
def start : QueueOp → QueueStage
  | .enqueue job => pushing (Job.codec.text job)
  | .dequeue => popping
  | .complete reserved =>
    if config.keepsCompleted then archiving reserved.envelope else releasing reserved.envelope
  | .fail reserved =>
    if config.keepsFailed then keeping reserved.envelope else releasing reserved.envelope
  | .retry reserved delay =>
    match reserved.job.next with
    | .ok next => dating reserved.envelope next delay
    | .error p => broken p
  | .promoteDue => looking

/-- Goes on with the members that are left. -/
def promoting (now : Int) : List String → Nat → QueueStage
  | [], promoted => done (.ok (.promoted promoted))
  | envelope :: due, promoted => removing now envelope due promoted

/-- When a delay is over that starts while the clock shows `wall`, in milliseconds. -/
def dueFrom (wall : Int) (delay : Duration) : Except Panic Int :=
  (Clock.recordTime wall).bind fun nanos => dueAt (nanos / Time.nanosPerMilli) delay

/-- What a stage can make of an effect with its answer: the store afterwards and the next stage. -/
inductive Move (world : World) :
    QueueStage → (e : Effect) → e.Answer → Store → QueueStage → Prop where
  | pushed (envelope) :
      Move world (pushing envelope) (.command .jobs (.lpush config.waitKey envelope)) (.ok ())
        (world.jobs.store.pushFront config.waitKey envelope) (done (.ok .nothing))
  | nothing (h : (config.waiting world.jobs.store).getLast? = none) :
      Move world popping (.command .jobs (.rpoplpush config.waitKey config.activeKey)) (.ok none)
        world.jobs.store (done (.ok (.reserved none)))
  | reserved (envelope job) (h : (config.waiting world.jobs.store).getLast? = some envelope)
      (hjob : Job.codec.ofText envelope = .ok job) :
      Move world popping (.command .jobs (.rpoplpush config.waitKey config.activeKey))
        (.ok (some envelope)) (world.jobs.store.rotate config.waitKey config.activeKey).2
        (done (.ok (.reserved (some ⟨job, envelope⟩))))
  | unreadable (envelope fault) (h : (config.waiting world.jobs.store).getLast? = some envelope)
      (hfault : Job.codec.ofText envelope = .error fault) :
      Move world popping (.command .jobs (.rpoplpush config.waitKey config.activeKey))
        (.ok (some envelope)) (world.jobs.store.rotate config.waitKey config.activeKey).2
        (burying envelope fault)
  | buried (envelope fault) :
      Move world (burying envelope fault) (.command .jobs (.rpush config.failedKey envelope)) (.ok ())
        (world.jobs.store.pushBack config.failedKey envelope) (clearing envelope fault)
  | cleared (envelope fault n) :
      Move world (clearing envelope fault) (.command .jobs (.lrem config.activeKey 1 envelope)) (.ok n)
        (world.jobs.store.setList config.activeKey ((config.active world.jobs.store).erase envelope))
        (done (.error (.unreadable fault)))
  | archived (envelope) :
      Move world (archiving envelope) (.command .jobs (.rpush config.completedKey envelope)) (.ok ())
        (world.jobs.store.pushBack config.completedKey envelope) (releasing envelope)
  | kept (envelope) :
      Move world (keeping envelope) (.command .jobs (.rpush config.failedKey envelope)) (.ok ())
        (world.jobs.store.pushBack config.failedKey envelope) (releasing envelope)
  | released (envelope n) :
      Move world (releasing envelope) (.command .jobs (.lrem config.activeKey 1 envelope)) (.ok n)
        (world.jobs.store.setList config.activeKey ((config.active world.jobs.store).erase envelope))
        (done (.ok .nothing))
  | dated (envelope next delay due) (h : dueFrom world.wall delay = .ok due) :
      Move world (dating envelope next delay) .clock world.wall world.jobs.store
        (scheduling envelope next due)
  | undated (envelope next delay p) (h : dueFrom world.wall delay = .error p) :
      Move world (dating envelope next delay) .clock world.wall world.jobs.store (broken p)
  | scheduled (envelope next due) :
      Move world (scheduling envelope next due)
        (.command .jobs (.zadd config.delayedKey (Job.codec.text next) due)) (.ok ())
        (world.jobs.store.setSorted config.delayedKey (Store.insertScored (due, Job.codec.text next)
          (Store.withoutMember (Job.codec.text next) (config.delayed world.jobs.store))))
        (releasing envelope)
  | looked (nanos) (h : Clock.recordTime world.wall = .ok nanos) :
      Move world looking .clock world.wall world.jobs.store (listing (nanos / Time.nanosPerMilli))
  | blind (p) (h : Clock.recordTime world.wall = .error p) :
      Move world looking .clock world.wall world.jobs.store (broken p)
  | listed (now) (due : List String)
      (h : due = Store.membersWithin (Store.boundScore "-inf")
        (Store.boundScore (String.ofList (Text.intDigits now))) (config.delayed world.jobs.store)) :
      Move world (listing now)
        (.command .jobs
          (.zrangebyscore config.delayedKey "-inf" (String.ofList (Text.intDigits now))))
        (.ok due) world.jobs.store (promoting now due 0)
  | removed (now envelope due promoted)
      (h : ∃ score, (score, envelope) ∈ config.delayed world.jobs.store) :
      Move world (removing now envelope due promoted)
        (.command .jobs (.zrem config.delayedKey envelope)) (.ok true)
        (world.jobs.store.setSorted config.delayedKey
          (Store.withoutMember envelope (config.delayed world.jobs.store)))
        (requeuing now envelope due promoted)
  | missed (now envelope due promoted)
      (h : ¬ ∃ score, (score, envelope) ∈ config.delayed world.jobs.store) :
      Move world (removing now envelope due promoted)
        (.command .jobs (.zrem config.delayedKey envelope)) (.ok false)
        (world.jobs.store.setSorted config.delayedKey
          (Store.withoutMember envelope (config.delayed world.jobs.store)))
        (promoting now due promoted)
  | requeued (now envelope due promoted) :
      Move world (requeuing now envelope due promoted)
        (.command .jobs (.lpush config.waitKey envelope)) (.ok ())
        (world.jobs.store.pushFront config.waitKey envelope) (promoting now due (promoted + 1))
  /-- A command that gives an error ends the call and changes nothing. -/
  | refused (stage c error) (h : stage.effect? config = some (.command .jobs c)) :
      Move world stage (.command .jobs c) (.error error) world.jobs.store
        (done (.error (.store error)))

/-! ### Stages and programs -/

theorem program_start (op : QueueOp) : op.program config = (start config op).program config := by
  cases op with
  | enqueue job => rfl
  | dequeue => rfl
  | complete reserved =>
    simp only [QueueOp.program, start, Queue.complete]
    cases config.keepsCompleted <;> rfl
  | fail reserved =>
    simp only [QueueOp.program, start, Queue.fail]
    cases config.keepsFailed <;> rfl
  | retry reserved delay =>
    simp only [QueueOp.program, start, Queue.retry]
    cases reserved.job.next <;> rfl
  | promoteDue => rfl

theorem program_promoting (now : Int) (due : List String) (promoted : Nat) :
    (promoting now due promoted).program config =
      (QueueReply.promoted <$> promoteAll config due promoted).run := by
  cases due <;> rfl

/-! What the answers of the stages lead to that have more than one way to go on. -/

theorem program_popping :
    popping.program config =
      .step (.command .jobs (.rpoplpush config.waitKey config.activeKey)) fun
        | .error error => .done (.error (.store error))
        | .ok none => .done (.ok (.reserved none))
        | .ok (some envelope) =>
          match Job.codec.ofText envelope with
          | .ok job => .done (.ok (.reserved (some ⟨job, envelope⟩)))
          | .error fault => (burying envelope fault).program config := by
  refine congrArg (Program.step _) (funext fun r => ?_)
  match r with
  | .error error => rfl
  | .ok none => rfl
  | .ok (some envelope) =>
    have hanswered : Except.mapError QueueError.store (.ok (some envelope)) = .ok (some envelope) := rfl
    cases hread : Job.codec.ofText envelope <;>
      (simp only [Program.bind, hanswered, ExceptT.bindCont, hread]; rfl)

theorem program_dating (envelope : String) (next : Job) (delay : Duration) :
    (dating envelope next delay).program config =
      .step .clock fun reading =>
        match dueFrom reading delay with
        | .ok due => (scheduling envelope next due).program config
        | .error p => .panic p := by
  refine congrArg (Program.step _) (funext fun reading => ?_)
  cases hread : Clock.recordTime reading with
  | error p => simp only [dueFrom, hread, Except.bind]; rfl
  | ok nanos =>
    cases hdue : dueAt (nanos / Time.nanosPerMilli) delay <;>
      (simp only [Program.bind, Program.ofExcept, ExceptT.bindCont, QueueAction.ofExcept, dueFrom,
        hread, Except.bind, hdue]; rfl)

theorem program_looking :
    looking.program config =
      .step .clock fun reading =>
        match Clock.recordTime reading with
        | .ok nanos => (listing (nanos / Time.nanosPerMilli)).program config
        | .error p => .panic p := by
  refine congrArg (Program.step _) (funext fun reading => ?_)
  cases hread : Clock.recordTime reading <;> (simp only [hread]; rfl)

theorem effect?_eq {stage : QueueStage} {e : Effect} {next : e.Answer → Program QueueOp.Result}
    (h : stage.program config = .step e next) : stage.effect? config = some e := by
  cases stage <;> cases h <;> rfl

/-- No effect of a queue panics. -/
theorem not_happens_error {failing : Prop} {world world' : World} {stage : QueueStage} {e : Effect}
    {p : Panic} (he : stage.effect? config = some e) : ¬ Happens failing world e world' (.error p) := by
  intro h
  cases e with
  | command site c =>
    cases stage <;> cases he <;> cases h.jobs_error.1
  | clock => cases h
  | process request => cases h
  | count metric => cases h

theorem program_eq_done {stage : QueueStage} {result : QueueOp.Result} :
    stage.program config = .done result ↔ stage = done result := by
  refine ⟨fun h => ?_, fun h => h ▸ rfl⟩
  cases stage <;> cases h
  rfl

theorem program_eq_panic {stage : QueueStage} {p : Panic} :
    stage.program config = .panic p ↔ stage = broken p := by
  refine ⟨fun h => ?_, fun h => h ▸ rfl⟩
  cases stage <;> cases h
  rfl

section

variable {failing : Prop} {world world' : World} {stage : QueueStage} {e : Effect}
  {next : e.Answer → Program QueueOp.Result} {a : e.Answer}

/-- The move of a command is told by what the command does when it is answered. -/
theorem exists_move_command {c : Command} {after : c.Result → Program QueueOp.Result}
    (hp : stage.program config = .step (.command .jobs c) after)
    (herror : ∀ error, after (.error error) = .done (.error (.store error)))
    (hok : ∀ a store, world.jobs.store.run world.elapsed c = .ok (a, store) →
      ∃ stage', after (.ok a) = stage'.program config ∧
        Move config world stage (.command .jobs c) (.ok a) store stage')
    (h : stage.program config = .step e next) (hh : Happens failing world e world' (.ok a)) :
    ∃ stage', next a = stage'.program config ∧
      Move config world stage e a world'.jobs.store stage' := by
  cases hp.symm.trans h
  obtain ⟨error, rfl, hs⟩ | ⟨a, store, rfl, hrun, rfl⟩ := hh.jobs
  · exact ⟨done (.error (.store error)), herror error,
      hs ▸ Move.refused stage c error (effect?_eq config h)⟩
  · exact hok a _ hrun

/-- A command that is answered in one way leads to one stage. -/
theorem exists_move_of_run {c : Command} {after : c.Result → Program QueueOp.Result} {r : c.Answer}
    {stage' : QueueStage} {store : Store}
    (hp : stage.program config = .step (.command .jobs c) after)
    (herror : ∀ error, after (.error error) = .done (.error (.store error)))
    (hrun : world.jobs.store.run world.elapsed c = .ok (r, store))
    (hnext : after (.ok r) = stage'.program config)
    (move : Move config world stage (.command .jobs c) (.ok r) store stage')
    (h : stage.program config = .step e next) (hh : Happens failing world e world' (.ok a)) :
    ∃ stage', next a = stage'.program config ∧
      Move config world stage e a world'.jobs.store stage' := by
  refine exists_move_command config hp herror (fun a store hsame => ?_) h hh
  cases hrun.symm.trans hsame
  exact ⟨stage', hnext, move⟩

/-- A dequeue finds nothing, a job, or an envelope that it cannot read. -/
theorem exists_move_popping (h : popping.program config = .step e next)
    (hh : Happens failing world e world' (.ok a)) :
    ∃ stage', next a = stage'.program config ∧
      Move config world popping e a world'.jobs.store stage' := by
  refine exists_move_command config (program_popping config) (fun _ => rfl)
    (fun a store hrun => ?_) h hh
  have hrotate := Except.ok.inj hrun
  have hfst : a = (config.waiting world.jobs.store).getLast? := by
    rw [QueueConfig.waiting, ← Store.rotate_fst _ _ config.activeKey, hrotate]
  have hsnd : store = (world.jobs.store.rotate config.waitKey config.activeKey).2 := by rw [hrotate]
  cases hlast : (config.waiting world.jobs.store).getLast? with
  | none =>
    have hsame : world.jobs.store.rotate config.waitKey config.activeKey = _ :=
      Store.rotate_of_none hlast
    rw [hfst, hlast, hsnd, hsame]
    exact ⟨done (.ok (.reserved none)), rfl, .nothing hlast⟩
  | some envelope =>
    rw [hfst, hlast, hsnd]
    cases hread : Job.codec.ofText envelope with
    | ok job =>
      exact ⟨done (.ok (.reserved (some ⟨job, envelope⟩))), by simp only [hread]; rfl,
        .reserved envelope job hlast hread⟩
    | error fault =>
      exact ⟨burying envelope fault, by simp only [hread], .unreadable envelope fault hlast hread⟩

/-- A retry that has read the clock knows when its job is due, or panics. -/
theorem exists_move_dating {envelope : String} {job : Job} {delay : Duration}
    (h : (dating envelope job delay).program config = .step e next)
    (hh : Happens failing world e world' (.ok a)) :
    ∃ stage', next a = stage'.program config ∧
      Move config world (dating envelope job delay) e a world'.jobs.store stage' := by
  cases (program_dating config envelope job delay).symm.trans h
  obtain ⟨rfl, hsame⟩ := hh.clock
  rw [hsame]
  cases hdue : dueFrom world.wall delay with
  | ok due =>
    exact ⟨scheduling envelope job due, by simp only [hdue], .dated envelope job delay due hdue⟩
  | error p => exact ⟨broken p, by simp only [hdue]; rfl, .undated envelope job delay p hdue⟩

/-- A promotion that has read the clock asks for the members that are due, or panics. -/
theorem exists_move_looking (h : looking.program config = .step e next)
    (hh : Happens failing world e world' (.ok a)) :
    ∃ stage', next a = stage'.program config ∧
      Move config world looking e a world'.jobs.store stage' := by
  cases (program_looking config).symm.trans h
  obtain ⟨rfl, hsame⟩ := hh.clock
  rw [hsame]
  cases hread : Clock.recordTime world.wall with
  | ok nanos =>
    exact ⟨listing (nanos / Time.nanosPerMilli), by simp only [hread], .looked nanos hread⟩
  | error p => exact ⟨broken p, by simp only [hread]; rfl, .blind p hread⟩

/-- A promotion puts back the member that it has removed, and passes over one that it has missed. -/
theorem exists_move_removing {now : Int} {envelope : String} {due : List String} {promoted : Nat}
    (h : (removing now envelope due promoted).program config = .step e next)
    (hh : Happens failing world e world' (.ok a)) :
    ∃ stage', next a = stage'.program config ∧
      Move config world (removing now envelope due promoted) e a world'.jobs.store stage' := by
  refine exists_move_command config rfl (fun _ => rfl) (fun a store hrun => ?_) h hh
  simp only [Store.run, Except.ok.injEq, Prod.mk.injEq] at hrun
  obtain ⟨ha, rfl⟩ := hrun
  by_cases hlt : ∃ score, (score, envelope) ∈ config.delayed world.jobs.store
  · obtain rfl : a = true := by rw [← ha, decide_eq_true_eq]; exact Store.length_withoutMember_lt.2 hlt
    exact ⟨requeuing now envelope due promoted, rfl, .removed now envelope due promoted hlt⟩
  · obtain rfl : a = false := by
      rw [← ha, decide_eq_false_iff_not]
      exact fun h => hlt (Store.length_withoutMember_lt.1 h)
    exact ⟨promoting now due promoted, (program_promoting ..).symm,
      .missed now envelope due promoted hlt⟩

/-- Whatever a call does next is a move of its stage. -/
theorem exists_move (h : stage.program config = .step e next)
    (hh : Happens failing world e world' (.ok a)) :
    ∃ stage', next a = stage'.program config ∧
      Move config world stage e a world'.jobs.store stage' := by
  cases stage with
  | popping => exact exists_move_popping config h hh
  | dating envelope job delay => exact exists_move_dating config h hh
  | looking => exact exists_move_looking config h hh
  | removing now envelope due promoted => exact exists_move_removing config h hh
  | done result => cases h
  | broken p => cases h
  -- The other stages have one way to go on when their command is answered.
  | pushing envelope => exact exists_move_of_run config rfl (fun _ => rfl) rfl rfl (.pushed envelope) h hh
  | burying envelope fault =>
    exact exists_move_of_run config rfl (fun _ => rfl) rfl rfl (.buried envelope fault) h hh
  | clearing envelope fault =>
    have hrun := config.run_lrem_activeKey world.jobs.store world.elapsed envelope
    exact exists_move_of_run config rfl (fun _ => rfl) hrun rfl (.cleared envelope fault _) h hh
  | archiving envelope =>
    exact exists_move_of_run config rfl (fun _ => rfl) rfl rfl (.archived envelope) h hh
  | keeping envelope => exact exists_move_of_run config rfl (fun _ => rfl) rfl rfl (.kept envelope) h hh
  | releasing envelope =>
    have hrun := config.run_lrem_activeKey world.jobs.store world.elapsed envelope
    exact exists_move_of_run config rfl (fun _ => rfl) hrun rfl (.released envelope _) h hh
  | scheduling envelope job due =>
    exact exists_move_of_run config rfl (fun _ => rfl) rfl rfl (.scheduled envelope job due) h hh
  | listing now =>
    exact exists_move_of_run config rfl (fun _ => rfl) rfl (program_promoting ..).symm
      (.listed now _ rfl) h hh
  | requeuing now envelope due promoted =>
    exact exists_move_of_run config rfl (fun _ => rfl) rfl (program_promoting ..).symm
      (.requeued now envelope due promoted) h hh

end

/-- Every move is one of the program. -/
theorem Move.exists_next {world : World} {stage stage' : QueueStage} {e : Effect} {a : e.Answer}
    {store : Store} (move : Move config world stage e a store stage') :
    ∃ next, stage.program config = .step e next ∧ next a = stage'.program config := by
  cases move with
  | reserved envelope job hlast hjob => exact ⟨_, program_popping config, by simp only [hjob]; rfl⟩
  | unreadable envelope fault hlast hfault => exact ⟨_, program_popping config, by simp only [hfault]⟩
  | dated envelope next delay due h => exact ⟨_, program_dating .., by simp only [h]⟩
  | undated envelope next delay p h => exact ⟨_, program_dating .., by simp only [h]; rfl⟩
  | looked nanos h => exact ⟨_, program_looking config, by simp only [h]⟩
  | blind p h => exact ⟨_, program_looking config, by simp only [h]; rfl⟩
  | listed now due h => exact ⟨_, rfl, (program_promoting ..).symm⟩
  | missed now envelope due promoted h => exact ⟨_, rfl, (program_promoting ..).symm⟩
  | requeued now envelope due promoted => exact ⟨_, rfl, (program_promoting ..).symm⟩
  | refused stage c error h => cases stage <;> cases h <;> exact ⟨_, rfl, rfl⟩
  | _ => exact ⟨_, rfl, rfl⟩

end QueueStage

end JobQueue
