import JobQueue.Proofs.Queue.Flow
import JobQueue.Proofs.Queue.Passage
import JobQueue.Worker

/-! A poll of a queue in which no delayed job is due. It takes the oldest waiting text, and whether it gives a
job depends on whether that text can be read. -/

namespace JobQueue

/-- The delivery that an envelope stands for, if it can be read. -/
def ReservedJob.ofEnvelope? (envelope : String) : Option ReservedJob :=
  (Job.codec.ofText envelope).toOption.map fun job => ⟨job, envelope⟩

theorem ReservedJob.ofEnvelope?_eq_some {envelope : String} {reserved : ReservedJob} :
    ofEnvelope? envelope = some reserved ↔
      reserved.envelope = envelope ∧ Job.codec.ofText envelope = .ok reserved.job := by
  unfold ofEnvelope?
  obtain ⟨job, text⟩ := reserved
  cases Job.codec.ofText envelope with
  | ok job' => simp [Except.toOption, eq_comm, and_comm]
  | error fault => simp [Except.toOption]

theorem ReservedJob.ofEnvelope?_of_error {envelope : String} {fault : Json.Fault}
    (h : Job.codec.ofText envelope = .error fault) : ofEnvelope? envelope = none := by
  rw [ofEnvelope?, h]
  rfl

namespace QueueConfig

variable (config : QueueConfig)

/-- The places that a poll changes hold certain texts, and all else in the store is as it was. -/
structure Places (waiting active failed : List String) (before after : Store) : Prop where
  waiting : config.waiting after = waiting
  active : config.active after = active
  failed : config.failed after = failed
  lists : ∀ key, key ≠ config.waitKey → key ≠ config.activeKey → key ≠ config.failedKey →
    after.lists.get key = before.lists.get key
  sets : after.sortedSets = before.sortedSets
  values : after.values = before.values
  published : after.published = before.published

/-- What a poll makes of a store in which nothing is due, and what it gives. -/
inductive Polled (before after : Store) : Option ReservedJob → Prop where
  | empty (h : config.waiting before = []) (hafter : after = before) : Polled before after none
  | takes (rest : List String) (reserved : ReservedJob)
      (h : config.waiting before = rest ++ [reserved.envelope])
      (hread : ReservedJob.ofEnvelope? reserved.envelope = some reserved)
      (hafter : config.Places rest (reserved.envelope :: config.active before) (config.failed before) before after) :
      Polled before after (some reserved)
  | fails (rest : List String) (envelope : String)
      (h : config.waiting before = rest ++ [envelope])
      (hread : ReservedJob.ofEnvelope? envelope = none)
      (hafter : config.Places rest (config.active before) (config.failed before ++ [envelope]) before after) :
      Polled before after none

variable {config : QueueConfig} {world : World} {envelope : String} {rest : List String}

theorem places_afterPop (h : config.waiting world.jobs.store = rest ++ [envelope]) :
    config.Places rest (envelope :: config.active world.jobs.store) (config.failed world.jobs.store)
      world.jobs.store (config.afterPop world).jobs.store := by
  have hlast : (config.waiting world.jobs.store).getLast? = some envelope := by rw [h, List.getLast?_concat]
  obtain ⟨hwaiting, hactive, hfailed, -⟩ := config.holds_afterPop world hlast
  have hpopped : (config.afterPop world).jobs.store =
      (world.jobs.store.setList config.waitKey (config.waiting world.jobs.store).dropLast).pushFront
        config.activeKey envelope := Store.rotate_of_some hlast
  rw [h, List.dropLast_concat] at hwaiting
  refine ⟨hwaiting, hactive, hfailed, fun key hwait hactive _ => ?_, ?_, ?_, ?_⟩ <;> rw [hpopped]
  · exact (Keyspace.get_put_of_ne _ _ hactive).trans (Keyspace.get_put_of_ne _ _ hwait)
  all_goals rfl

theorem Places.refl (config : QueueConfig) (store : Store) :
    config.Places (config.waiting store) (config.active store) (config.failed store) store store :=
  ⟨rfl, rfl, rfl, fun _ _ _ _ => rfl, rfl, rfl, rfl⟩

theorem Places.trans {waiting active failed waiting' active' failed' : List String} {before between after : Store}
    (h : config.Places waiting active failed before between)
    (h' : config.Places waiting' active' failed' between after) :
    config.Places waiting' active' failed' before after :=
  ⟨h'.waiting, h'.active, h'.failed,
    fun key hwait hactive hfailed => (h'.lists key hwait hactive hfailed).trans (h.lists key hwait hactive hfailed),
    h'.sets.trans h.sets, h'.values.trans h.values, h'.published.trans h.published⟩

/-- The text that was taken arrives among the failed ones. -/
theorem Places.buried {waiting active failed active' : List String} {before between after : Store}
    (h : config.Places waiting active failed before between)
    (harrived : config.Arrived envelope .failed active' between after) :
    config.Places waiting active' (failed ++ [envelope]) before after := by
  refine ⟨harrived.waiting.trans h.waiting, harrived.active, ?_, fun key hwait hactive hfailed => ?_, ?_,
    harrived.values.trans h.values, harrived.published.trans h.published⟩
  · rw [harrived.failed, h.failed]
    rfl
  · refine Eq.trans ?_ (h.lists key hwait hactive hfailed)
    by_cases hcompleted : key = config.completedKey
    · exact hcompleted ▸ harrived.completed.trans (List.append_nil _)
    · exact harrived.lists key hactive hcompleted hfailed
  · refine Eq.trans (Keyspace.ext fun key => ?_) h.sets
    by_cases hdelayed : key = config.delayedKey
    · exact hdelayed ▸ harrived.delayed
    · exact harrived.sets key hdelayed

end QueueConfig

namespace QueueAction

variable {α : Type}

theorem run_tryCatch (x : QueueAction α) (handle : QueueError → QueueAction α) :
    (tryCatch x handle).run = x.run.bind fun r => match r with
      | .ok a => .done (.ok a)
      | .error error => (handle error).run := by
  refine congrArg x.run.bind (funext fun r => ?_)
  cases r <;> rfl

end QueueAction

namespace Queue

open QueueAction

variable {config : QueueConfig} {world : World}

theorem run_dequeue_none (h : world.jobs.Answers) (hempty : config.waiting world.jobs.store = []) :
    (dequeue config).run.run world =
      (world.did (.rpoplpush config.waitKey config.activeKey) world.jobs.store, .ok (.ok none)) := by
  have hnone : (world.jobs.store.lists.get config.waitKey).getLast? = none :=
    congrArg List.getLast? hempty
  have hrun : world.jobs.store.run world.elapsed (.rpoplpush config.waitKey config.activeKey) =
      .ok (none, world.jobs.store) := congrArg Except.ok (Store.rotate_of_none hnone)
  exact run_bind_of_ok _ (run_send h hrun)

/-- A promotion goes through what is due at its reading of the clock. -/
theorem run_promoteDue {now : Int} (h : world.jobs.Answers) (hread : Clock.recordTime world.wall = .ok now) :
    (promoteDue config).run.run world =
      (promoteAll config (Store.membersWithin Word.signedMin64 (now / Time.nanosPerMilli)
        (config.delayed world.jobs.store)) 0).run.run (config.afterListing world (now / Time.nanosPerMilli)) := by
  rw [promoteDue_run, Program.run, World.perform]
  dsimp only
  rw [hread, Program.ofExcept, Program.bind, Program.run,
    World.perform_of_answers h (config.run_zrangebyscore hread)]
  rfl

/-- A promotion to which nothing is due only looks. -/
theorem run_promoteDue_none {now : Int} (h : world.jobs.Answers) (hread : Clock.recordTime world.wall = .ok now)
    (hdue : ∀ x ∈ config.delayed world.jobs.store, now / Time.nanosPerMilli < x.1) :
    (promoteDue config).run.run world =
      (config.afterListing world (now / Time.nanosPerMilli), .ok (.ok 0)) := by
  have hnone : Store.membersWithin Word.signedMin64 (now / Time.nanosPerMilli)
      (config.delayed world.jobs.store) = [] := by
    rw [List.eq_nil_iff_forall_not_mem]
    intro member hmember
    obtain ⟨score, hscore, -, hle⟩ := Store.mem_membersWithin.1 hmember
    exact absurd (hdue _ hscore) (Int.not_lt.2 hle)
  rw [run_promoteDue h hread, hnone]
  rfl

/-- Without a date no promotion can tell what is due. -/
theorem run_promoteDue_of_error {p : Panic} (hread : Clock.recordTime world.wall = .error p) :
    (promoteDue config).run.run world = (world, .error p) := by
  rw [promoteDue_run, Program.run, World.perform]
  dsimp only
  rw [hread, Program.ofExcept, Program.bind, Program.run]

/-- Without a date no poll can tell what is due. -/
theorem run_poll_of_error {p : Panic} (hread : Clock.recordTime world.wall = .error p) :
    (poll config).run.run world = (world, .error p) := by
  rw [poll, run_bind, Program.run_bind, run_promoteDue_of_error hread]

/-- A poll to which nothing is due takes one text, if one is waiting, and never fails. -/
theorem polled (h : world.jobs.Answers) {now : Int} (hread : Clock.recordTime world.wall = .ok now)
    (hdue : ∀ x ∈ config.delayed world.jobs.store, now / Time.nanosPerMilli < x.1) :
    ∃ after result, (poll config).run.run world = (after, .ok (.ok result)) ∧ after.jobs.Answers ∧
      config.Polled world.jobs.store after.jobs.store result := by
  generalize hlisted : config.afterListing world (now / Time.nanosPerMilli) = listed
  have hanswers : listed.jobs.Answers := hlisted ▸ h
  have hstore : world.jobs.store = listed.jobs.store := hlisted ▸ rfl
  have hlooks := run_promoteDue_none h hread hdue
  rw [hlisted] at hlooks
  rw [poll, run_bind_of_ok _ hlooks, run_tryCatch, Program.run_bind, hstore]
  obtain hempty | ⟨rest, envelope, hwaiting⟩ := List.eq_nil_or_concat' (config.waiting listed.jobs.store)
  · rw [run_dequeue_none hanswers hempty]
    exact ⟨_, none, rfl, hanswers, .empty hempty rfl⟩
  · have hlast : (config.waiting listed.jobs.store).getLast? = some envelope := by
      rw [hwaiting, List.getLast?_concat]
    have hpopped := QueueConfig.places_afterPop hwaiting
    cases hjob : Job.codec.ofText envelope with
    | ok job =>
      rw [run_dequeue_readable hanswers hlast hjob]
      refine ⟨_, _, rfl, hanswers, .takes rest ⟨job, envelope⟩ hwaiting ?_ hpopped⟩
      exact ReservedJob.ofEnvelope?_eq_some.2 ⟨rfl, hjob⟩
    | error fault =>
      obtain ⟨after, hrun, hafter, harrived⟩ := run_dequeue_buried hanswers hlast hjob
      rw [hrun]
      exact ⟨after, none, rfl, hafter, .fails rest envelope hwaiting (ReservedJob.ofEnvelope?_of_error hjob)
        (hpopped.buried harrived)⟩

end Queue

end JobQueue
