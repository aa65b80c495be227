import JobQueue.Proofs.Queue.Effects
import JobQueue.Proofs.Queue.InTime
import JobQueue.Settlement

/-! What a settlement makes of a delivery. A settlement sends the delivery to the place that its outcome
prescribes and then releases it, so that an error on the way leaves the delivery where it was. -/

namespace JobQueue

open Time (Duration)

/-! ### Places -/

/-- Where a settlement sends a delivery. -/
inductive Place where
  | nowhere
  | completed
  | failed
  | delayed (due : Int) (next : Job)

namespace Place

/-- The place for an outcome: completed jobs are kept if the queue says so and failed ones unless it says
otherwise, and a failure that may pass is tried again later while attempts are left. -/
def ofOutcome (config : QueueConfig) (job : Job) (wall : Int) : Outcome → Place
  | .skipped | .success => if config.removeOnComplete = some false then completed else nowhere
  | .failure error =>
    if error.isRetryable ∧ job.attempt < config.maxAttempts then
      delayed (QueueConfig.dueTime wall (config.retryPolicy.interval job.attempt))
        { job with attempt := job.attempt + 1 }
    else if config.removeOnFail = some true then nowhere
    else failed

variable (envelope : String)

/-- What arrives at the end of the completed jobs. -/
def toCompleted : Place → List String
  | completed => [envelope]
  | _ => []

/-- What arrives at the end of the failed jobs. -/
def toFailed : Place → List String
  | failed => [envelope]
  | _ => []

/-- The delayed jobs after a delivery arrived: the next one is among them once, for its own time. -/
def withDelayed (set : List (Int × String)) : Place → List (Int × String)
  | delayed due next =>
    Store.insertScored (due, Job.codec.text next) (Store.withoutMember (Job.codec.text next) set)
  | _ => set

end Place

namespace QueueConfig

variable (config : QueueConfig)

def completed (store : Store) : List String := store.lists.get config.completedKey

/-- A delivery has arrived at a place, the active jobs are those of a list, and all else in the store is as
it was, the lists and sets of other queues included. -/
structure Arrived (envelope : String) (place : Place) (active : List String) (before after : Store) :
    Prop where
  active : config.active after = active
  completed : config.completed after = config.completed before ++ place.toCompleted envelope
  failed : config.failed after = config.failed before ++ place.toFailed envelope
  delayed : config.delayed after = place.withDelayed (config.delayed before)
  lists : ∀ key, key ≠ config.activeKey → key ≠ config.completedKey → key ≠ config.failedKey →
    after.lists.get key = before.lists.get key
  sets : ∀ key, key ≠ config.delayedKey → after.sortedSets.get key = before.sortedSets.get key
  values : after.values = before.values
  published : after.published = before.published

end QueueConfig

namespace QueueConfig.Arrived

variable {config : QueueConfig} {envelope : String} {place : Place} {active : List String}
  {before after : Store}

theorem waiting (h : config.Arrived envelope place active before after) :
    config.waiting after = config.waiting before :=
  h.lists config.waitKey (mt config.key_eq_iff.1 (by decide)) (mt config.key_eq_iff.1 (by decide))
    (mt config.key_eq_iff.1 (by decide))

theorem refl (config : QueueConfig) (envelope : String) (store : Store) :
    config.Arrived envelope .nowhere (config.active store) store store where
  active := rfl
  completed := (List.append_nil _).symm
  failed := (List.append_nil _).symm
  delayed := rfl
  lists _ _ _ _ := rfl
  sets _ _ := rfl
  values := rfl
  published := rfl

theorem archived (config : QueueConfig) (envelope : String) (store : Store) :
    config.Arrived envelope .completed (config.active store) store
      (store.pushBack config.completedKey envelope) where
  active := (config.holds_pushBack_completedKey store envelope).2.1
  completed := by simp [QueueConfig.completed, Place.toCompleted]
  failed := by simp [Place.toFailed]
  delayed := rfl
  lists _ _ hkey _ := Keyspace.get_put_of_ne _ _ hkey
  sets _ _ := rfl
  values := rfl
  published := rfl

theorem kept (config : QueueConfig) (envelope : String) (store : Store) :
    config.Arrived envelope .failed (config.active store) store
      (store.pushBack config.failedKey envelope) where
  active := (config.holds_pushBack_failedKey store envelope).2.1
  completed := by
    simp [QueueConfig.completed, Place.toCompleted, Keyspace.get_put, completedKey, failedKey, key_eq_iff]
  failed := (config.holds_pushBack_failedKey store envelope).2.2.1
  delayed := rfl
  lists _ _ _ hkey := Keyspace.get_put_of_ne _ _ hkey
  sets _ _ := rfl
  values := rfl
  published := rfl

theorem scheduled (config : QueueConfig) (envelope : String) (store : Store) (due : Int) (next : Job) :
    config.Arrived envelope (.delayed due next) (config.active store) store
      (store.setSorted config.delayedKey (Store.insertScored (due, Job.codec.text next)
        (Store.withoutMember (Job.codec.text next) (store.sortedSets.get config.delayedKey)))) where
  active := rfl
  completed := (List.append_nil _).symm
  failed := (List.append_nil _).symm
  delayed := (config.holds_setSorted_delayedKey store _).2.2.2
  lists _ _ _ _ := rfl
  sets _ hkey := Keyspace.get_put_of_ne _ _ hkey
  values := rfl
  published := rfl

theorem released (h : config.Arrived envelope place active before after) :
    config.Arrived envelope place (active.erase envelope) before
      (after.setList config.activeKey ((config.active after).erase envelope)) where
  active := by rw [(config.holds_setList_activeKey after _).2.1, h.active]
  completed := by
    rw [← h.completed]
    simp [QueueConfig.completed, Keyspace.get_put, completedKey, activeKey, key_eq_iff]
  failed := (config.holds_setList_activeKey after _).2.2.1.trans h.failed
  delayed := h.delayed
  lists key hactive hcompleted hfailed :=
    (Keyspace.get_put_of_ne _ _ hactive).trans (h.lists key hactive hcompleted hfailed)
  sets := h.sets
  values := h.values
  published := h.published

end QueueConfig.Arrived

/-! ### Actions that run at once -/

theorem Program.run_bind {α β : Type} (x : Program α) (f : α → Program β) (world : World) :
    (x.bind f).run world =
      match x.run world with
      | (after, .ok a) => (f a).run after
      | (after, .error p) => (after, .error p) := by
  induction x generalizing world with
  | done a => rfl
  | panic p => rfl
  | step e next ih =>
    rw [Program.bind, Program.run, Program.run]
    cases world.perform e with
    | mk after r =>
      cases r with
      | ok a => exact ih a after
      | error p => rfl

namespace QueueAction

variable {α β : Type}

/-- One action after another, unless the first one gives an error. -/
theorem run_bind (x : QueueAction α) (f : α → QueueAction β) :
    (x >>= f).run = x.run.bind fun r => match r with
      | .ok a => (f a).run
      | .error error => .done (.error error) := by
  refine congrArg x.run.bind (funext fun r => ?_)
  cases r <;> rfl

/-- What an action leaves and gives satisfies a predicate. -/
def Leaves (x : QueueAction α) (world : World) (P : World → Except Panic (Except QueueError α) → Prop) :
    Prop :=
  P (x.run.run world).1 (x.run.run world).2

variable {P : World → Except Panic (Except QueueError β) → Prop} {world : World}

theorem Leaves.mono {x : QueueAction β} {Q : World → Except Panic (Except QueueError β) → Prop}
    (hx : x.Leaves world P) (h : ∀ after r, P after r → Q after r) : x.Leaves world Q :=
  h _ _ hx

/-- What the second of two actions leaves after the first one. -/
def Continues (f : α → QueueAction β) (P : World → Except Panic (Except QueueError β) → Prop)
    (after : World) : Except Panic (Except QueueError α) → Prop
  | .ok (.ok a) => (f a).Leaves after P
  | .ok (.error error) => P after (.ok (.error error))
  | .error p => P after (.error p)

theorem Leaves.bind {x : QueueAction α} {f : α → QueueAction β} (h : x.Leaves world (Continues f P)) :
    (x >>= f).Leaves world P := by
  unfold Leaves at h ⊢
  rw [run_bind, Program.run_bind]
  revert h
  match x.run.run world with
  | (after, .ok (.ok a)) | (after, .ok (.error error)) | (after, .error p) => exact id

/-- A command either has done its work, or gives an error and has done nothing. -/
theorem Leaves.send_bind {c : Command} {f : c.Answer → QueueAction β}
    (hpanic : ∀ p, world.jobs.store.run world.elapsed c ≠ .error p)
    (herror : ∀ after error, after.jobs.store = world.jobs.store → P after (.ok (.error error)))
    (hok : ∀ after a store, world.jobs.store.run world.elapsed c = .ok (a, store) →
      after.jobs.store = store → (f a).Leaves after P) :
    (send c >>= f).Leaves world P := by
  refine .bind ?_
  have happened : Happens False world _ _ _ := .performed (.command .jobs c)
  unfold Leaves
  rw [send, ExceptT.run_mk, Program.run_bind, Program.send, Program.perform, Program.run]
  generalize world.perform (.command .jobs c) = result at happened ⊢
  obtain ⟨after, p | r⟩ := result
  · exact absurd happened.jobs_error.1 (hpanic p)
  · obtain ⟨error, rfl, hstore⟩ | ⟨a, store, rfl, hran, hstore⟩ := happened.jobs
    · exact herror after _ hstore
    · exact hok after a store hran hstore

theorem Leaves.ofExcept_bind {x : Except Panic α} {f : α → QueueAction β}
    (hpanic : ∀ p, x = .error p → P world (.error p)) (hok : ∀ a, x = .ok a → (f a).Leaves world P) :
    (QueueAction.ofExcept x >>= f).Leaves world P := by
  cases x with
  | ok a => exact hok a rfl
  | error p => exact hpanic p rfl

theorem Leaves.clockMillis_bind {f : Int → QueueAction β}
    (hpanic : ∀ p, Clock.recordTime world.wall = .error p → P world (.error p))
    (hok : ∀ nanos, Clock.recordTime world.wall = .ok nanos →
      (f (nanos / Time.nanosPerMilli)).Leaves world P) :
    (clockMillis >>= f).Leaves world P := by
  unfold Leaves
  rw [run_clockMillis_bind, Program.run]
  cases hread : Clock.recordTime world.wall with
  | ok nanos =>
    have hf := hok nanos hread
    unfold Leaves at hf
    simpa [World.perform, hread, Program.ofExcept, Program.bind] using hf
  | error p =>
    have hp := hpanic p hread
    simpa [World.perform, hread, Program.ofExcept, Program.bind, Program.run] using hp

end QueueAction

/-! ### Settlements -/

namespace Queue

open QueueAction

variable {config : QueueConfig} {reserved : ReservedJob} {place : Place} {before world : World}

/-- What a settlement that sends a delivery to a place leaves. If it gives an error, the delivery is still
active and may have arrived, and if it panics, nothing has changed. -/
def Settles (config : QueueConfig) (reserved : ReservedJob) (place : Place) (before after : World) :
    Except Panic (Except QueueError Unit) → Prop
  | .ok (.ok ()) => config.Arrived reserved.envelope place
      ((config.active before.jobs.store).erase reserved.envelope) before.jobs.store after.jobs.store
  | .ok (.error _) => ∃ reached, (reached = .nowhere ∨ reached = place) ∧
      config.Arrived reserved.envelope reached (config.active before.jobs.store) before.jobs.store
        after.jobs.store
  | .error p => after.jobs.store = before.jobs.store ∧ (∃ due next, place = .delayed due next) ∧
      (reserved.job.next = .error p ∨ Clock.recordTime before.wall = .error p)

/-- A delivery that has arrived is released, or stays active. -/
theorem release_leaves (h : config.Arrived reserved.envelope place (config.active before.jobs.store)
      before.jobs.store world.jobs.store) :
    (release config reserved.envelope).Leaves world (Settles config reserved place before) := by
  refine .send_bind nofun (fun after error hstore => ?_) fun after a store hran hstore => ?_
  · exact ⟨place, .inr rfl, hstore ▸ h⟩
  · change config.Arrived _ _ _ _ after.jobs.store
    obtain rfl : _ = store := (Prod.mk.inj (Except.ok.inj hran)).2
    have hreleased := h.released
    rw [← Store.removeFirst_one reserved.envelope (config.active world.jobs.store)] at hreleased
    rw [hstore]
    exact hreleased

/-- A command that fails changes nothing, so that nothing has arrived. -/
theorem settles_of_refused (after : World) (error : QueueError) (h : after.jobs.store = world.jobs.store) :
    Settles config reserved place world after (.ok (.error error)) :=
  ⟨.nowhere, .inl rfl, h ▸ .refl config reserved.envelope world.jobs.store⟩

/-- A delivery that is kept at the end of a list and then released. -/
theorem keep_leaves {key : String}
    (h : config.Arrived reserved.envelope place (config.active world.jobs.store) world.jobs.store
      (world.jobs.store.pushBack key reserved.envelope)) :
    (send (.rpush key reserved.envelope) >>= fun _ => release config reserved.envelope).Leaves world
      (Settles config reserved place world) := by
  refine .send_bind nofun settles_of_refused fun after a store hran hstore => ?_
  obtain rfl : _ = store := (Prod.mk.inj (Except.ok.inj hran)).2
  exact release_leaves (hstore ▸ h)

theorem complete_leaves : (complete config reserved).Leaves world
    (Settles config reserved (if config.removeOnComplete = some false then .completed else .nowhere)
      world) := by
  unfold complete
  by_cases hkeeps : config.removeOnComplete = some false
  · have hkeeps' : config.keepsCompleted = true := by simp [QueueConfig.keepsCompleted, hkeeps]
    rw [if_pos hkeeps, if_pos hkeeps']
    exact keep_leaves (.archived config reserved.envelope world.jobs.store)
  · have hkeeps' : config.keepsCompleted = false := by
      unfold QueueConfig.keepsCompleted
      match h : config.removeOnComplete with
      | none | some true => rfl
      | some false => exact absurd h hkeeps
    rw [if_neg hkeeps, if_neg (by simp [hkeeps'])]
    exact release_leaves (.refl config reserved.envelope world.jobs.store)

theorem fail_leaves : (fail config reserved).Leaves world
    (Settles config reserved (if config.removeOnFail = some true then .nowhere else .failed) world) := by
  unfold fail
  by_cases hremoves : config.removeOnFail = some true
  · have hkeeps : config.keepsFailed = false := by simp [QueueConfig.keepsFailed, hremoves]
    rw [if_pos hremoves, if_neg (by simp [hkeeps])]
    exact release_leaves (.refl config reserved.envelope world.jobs.store)
  · have hkeeps : config.keepsFailed = true := by
      unfold QueueConfig.keepsFailed
      match h : config.removeOnFail with
      | none | some false => rfl
      | some true => exact absurd h hremoves
    rw [if_neg hremoves, if_pos hkeeps]
    exact keep_leaves (.kept config reserved.envelope world.jobs.store)

/-- A retry whose time has a score schedules the next delivery for that time. -/
theorem retry_leaves {delay : Duration} (hdue : QueueConfig.dueTime world.wall delay ≤ Word.signedMax64) :
    (retry config reserved delay).Leaves world
      (Settles config reserved (.delayed (QueueConfig.dueTime world.wall delay)
        { reserved.job with attempt := reserved.job.attempt + 1 }) world) := by
  have hbroken : ∀ p, reserved.job.next = .error p ∨ Clock.recordTime world.wall = .error p →
      Settles config reserved (.delayed (QueueConfig.dueTime world.wall delay)
        { reserved.job with attempt := reserved.job.attempt + 1 }) world world (.error p) :=
    fun p hp => ⟨rfl, ⟨_, _, rfl⟩, hp⟩
  unfold retry
  refine .ofExcept_bind (fun p hp => hbroken p (.inl hp)) fun next hnext => ?_
  refine .clockMillis_bind (fun p hp => hbroken p (.inr hp)) fun nanos hread => ?_
  obtain ⟨rfl, hpos, hend⟩ := Clock.recordTime_eq_ok.1 hread
  have hmillis := (Clock.millis_range hread).1
  have hdelay : delay.signedMillis = delay.millis := by
    refine delay.signedMillis_eq_iff.2 ?_
    simp only [QueueConfig.dueTime] at hdue
    omega
  have hdated : dueAt (world.wall / Time.nanosPerMilli) delay =
      .ok (QueueConfig.dueTime world.wall delay) := by
    have hfrom := QueueStage.dueFrom_eq_ok.2 ⟨hpos, hend, rfl, by rwa [hdelay]⟩
    rw [QueueStage.dueFrom, hread, hdelay] at hfrom
    exact hfrom
  obtain rfl : { reserved.job with attempt := reserved.job.attempt + 1 } = next := by
    unfold Job.next at hnext
    split at hnext
    · exact Except.ok.inj hnext
    · cases hnext
  rw [hdated]
  refine .ofExcept_bind (fun p hp => by cases hp) fun due hdue' => ?_
  obtain rfl := Except.ok.inj hdue'
  refine .send_bind (fun p hp => by cases hp) settles_of_refused fun after a store hran hstore => ?_
  obtain rfl : _ = store := (Prod.mk.inj (Except.ok.inj hran)).2
  exact release_leaves (hstore ▸ .scheduled config reserved.envelope world.jobs.store _ _)

theorem settle_leaves (config : QueueConfig) (reserved : ReservedJob) (outcome : Outcome) (world : World)
    (hdue : ∀ due next, Place.ofOutcome config reserved.job world.wall outcome = .delayed due next →
      due ≤ Word.signedMax64) :
    (settle config reserved outcome).Leaves world
      (Settles config reserved (.ofOutcome config reserved.job world.wall outcome) world) := by
  match outcome with
  | .skipped | .success => exact complete_leaves
  | .failure error =>
    by_cases hretries : error.isRetryable = true ∧ reserved.job.attempt < config.maxAttempts
    · have hplace : Place.ofOutcome config reserved.job world.wall (.failure error) = .delayed _ _ :=
        if_pos hretries
      have hsettlement :
          Settlement.ofOutcome config reserved.job.attempt (.failure error) = .retry := by
        simp [Settlement.ofOutcome, hretries]
      have hretry : (retry config reserved _).Leaves world _ := retry_leaves (hdue _ _ hplace)
      rw [settle, hsettlement, hplace]
      refine .bind (hretry.mono fun after r h => ?_)
      -- The count that follows a retry changes nothing in the store.
      match r with
      | .ok (.ok _) | .ok (.error _) | .error _ => exact h
    · have hplace : Place.ofOutcome config reserved.job world.wall (.failure error) =
          if config.removeOnFail = some true then .nowhere else .failed := if_neg hretries
      rw [settle, hplace]
      by_cases hretryable : error.isRetryable = true
      · have hsettlement :
            Settlement.ofOutcome config reserved.job.attempt (.failure error) = .exhaust := by
          simp_all [Settlement.ofOutcome]
        rw [hsettlement]
        exact @fail_leaves config reserved { world with counts := _ :: world.counts }
      · have hsettlement : Settlement.ofOutcome config reserved.job.attempt (.failure error) = .fail := by
          simp [Settlement.ofOutcome, hretryable]
        rw [hsettlement]
        exact fail_leaves

/-- A settlement that gives no error has released one copy of the delivery and sent it to the place that its
outcome prescribes, and changed nothing else. One that gives an error leaves the delivery active, and none
panics as long as the clock shows a date and attempts can be counted. -/
theorem settle_moves (config : QueueConfig) (reserved : ReservedJob) (outcome : Outcome) (world : World)
    (hheld : reserved.envelope ∈ config.active world.jobs.store)
    (hdue : ∀ due next, Place.ofOutcome config reserved.job world.wall outcome = .delayed due next →
      due ≤ Word.signedMax64) :
    let place := Place.ofOutcome config reserved.job world.wall outcome
    let store := world.jobs.store
    ∀ after r, (settle config reserved outcome).run.run world = (after, r) →
      (r = .ok (.ok ()) →
        config.Arrived reserved.envelope place ((config.active store).erase reserved.envelope) store
          after.jobs.store ∧
        (config.active after.jobs.store).count reserved.envelope + 1 =
          (config.active store).count reserved.envelope) ∧
      (∀ error, r = .ok (.error error) →
        reserved.envelope ∈ config.active after.jobs.store ∧
        config.waiting after.jobs.store = config.waiting store ∧
        ∃ reached, (reached = .nowhere ∨ reached = place) ∧
          config.Arrived reserved.envelope reached (config.active store) store after.jobs.store) ∧
      ∀ p, r = .error p → after.jobs.store = store ∧ (∃ due next, place = .delayed due next) ∧
        (reserved.job.next = .error p ∨ Clock.recordTime world.wall = .error p) := by
  intro place store after r hrun
  have hsettles := settle_leaves config reserved outcome world hdue
  unfold Leaves at hsettles
  rw [hrun] at hsettles
  refine ⟨?_, ?_, ?_⟩
  · rintro rfl
    have harrived : config.Arrived reserved.envelope place
      ((config.active store).erase reserved.envelope) store after.jobs.store := hsettles
    have hpos : 0 < (config.active store).count reserved.envelope := List.count_pos_iff.2 hheld
    refine ⟨harrived, ?_⟩
    rw [harrived.active, List.count_erase_self]
    omega
  · rintro error rfl
    obtain ⟨reached, hreached, harrived⟩ := hsettles
    exact ⟨harrived.active ▸ hheld, harrived.waiting, reached, hreached, harrived⟩
  · rintro p rfl
    exact hsettles

/-- A queue that keeps the jobs that are completed. -/
def sampleKeeping : QueueConfig :=
  { QueueConfig.sample with removeOnComplete := some false }

/-- A worker holds the only delivery of a job, and settles it without an error. -/
def ArrivesAt (outcome : Outcome) (place : Place) : Prop :=
  let world := sampleKeeping.afterPop (sampleKeeping.worldWith (Job.codec.text .sample) 0)
  ∃ after, (settle sampleKeeping ⟨.sample, Job.codec.text .sample⟩ outcome).run.run world =
      (after, .ok (.ok ())) ∧
    sampleKeeping.Arrived (Job.codec.text .sample) place [] world.jobs.store after.jobs.store

/-- The first delivery is tried again a second later if it fails, unless the job is not valid, and is kept if it
succeeds. -/
theorem sample_rescheduled :
    ArrivesAt (.failure (.processing ⟨"boom"⟩)) (.delayed 1000 { Job.sample with attempt := 2 }) ∧
    ArrivesAt .success .completed ∧
    ArrivesAt (.failure (.validation Validation.Violation.queryEmpty.toError)) .failed := by
  let reserved : ReservedJob := ⟨.sample, Job.codec.text .sample⟩
  let world := sampleKeeping.afterPop (sampleKeeping.worldWith reserved.envelope 0)
  have hactive : sampleKeeping.active world.jobs.store = [reserved.envelope] :=
    (sampleKeeping.holds_afterPop _ (sampleKeeping.worldWith_waiting _ 0)).2.1
  have hheld : reserved.envelope ∈ sampleKeeping.active world.jobs.store := by
    rw [hactive]
    exact List.mem_singleton_self _
  have harrives : ∀ outcome place,
      ((settle sampleKeeping reserved outcome).run.run world).2.toOption.bind Except.toOption = some () →
      Place.ofOutcome sampleKeeping reserved.job world.wall outcome = place →
      (∀ due next, place = .delayed due next → due ≤ Word.signedMax64) → ArrivesAt outcome place := by
    rintro outcome _ hok rfl hdue
    cases hran : (settle sampleKeeping reserved outcome).run.run world with
    | mk after r =>
      rw [hran] at hok
      obtain p | error | ⟨⟩ := r
      · cases hok
      · cases hok
      · obtain ⟨harrived, -⟩ := (settle_moves sampleKeeping reserved outcome world hheld hdue after _ hran).1 rfl
        rw [hactive, List.erase_cons_head] at harrived
        exact ⟨after, hran, harrived⟩
  refine ⟨harrives _ _ (by decide +kernel) ?_ ?_, harrives _ _ (by decide +kernel) rfl nofun,
    harrives _ _ (by decide +kernel) rfl nofun⟩
  · have hdue : QueueConfig.dueTime 0 (sampleKeeping.retryPolicy.interval 1) = 1000 := by decide
    exact congrArg (Place.delayed · _) hdue
  · rintro due next ⟨⟩
    decide

end Queue

end JobQueue
