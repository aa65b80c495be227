import JobQueue.Proofs.Job.ReadBack
import JobQueue.Proofs.Json.Depth
import JobQueue.Proofs.Queue.Settlement

/-! The passage of a job through its queue. The data of a job lies one level deep in its envelope, and any
data that can be written is put there; but an envelope whose data is as deep as a text may be cannot be
read, so that the job does not come back. -/

namespace JobQueue

open Json

/-! ### Envelopes -/

theorem Job.codec_deepens : Job.codec.Deepens :=
  Codec.record_deepens
    ⟨Codec.string_deepens, Codec.word_deepens _ _, Codec.any_deepens, trivial⟩

/-- The envelope of a job whose data can be read by itself is read as that job if the data can be read one
level deep, and is not read otherwise. -/
theorem Job.ofText_text_iff {job job' : Job} (hattempt : job.attempt ≤ Word.max32)
    (hfits : Fits nestingLimit job.data) (hfree : FloatFree job.data) :
    Job.codec.ofText (Job.codec.text job) = .ok job' ↔ job' = job ∧ Fits (nestingLimit - 1) job.data := by
  refine ⟨fun h => ?_, ?_⟩
  · obtain rfl := codec_deepens.eq_of_ofText_text (readsBack nestingLimit hattempt hfits hfree) h
    exact ⟨rfl, (fits_of_ofText h).2⟩
  · rintro ⟨rfl, hone⟩
    exact Codec.ReadsBack.ofText (readsBack (nestingLimit - 1) hattempt hone hfree)

/-! ### Operations without failures -/

namespace QueueAction

variable {α β : Type} {world after : World}

theorem run_bind_of_ok {x : QueueAction α} {a : α} (f : α → QueueAction β)
    (h : x.run.run world = (after, .ok (.ok a))) : (x >>= f).run.run world = (f a).run.run after := by
  rw [run_bind, Program.run_bind, h]

theorem run_send {c : Command} {a : c.Answer} {store : Store} (h : world.jobs.Answers)
    (hrun : world.jobs.store.run world.elapsed c = .ok (a, store)) :
    (send c).run.run world = (world.did c store, .ok (.ok a)) := by
  rw [send, ExceptT.run_mk, Program.run_bind, Program.send, Program.perform, Program.run,
    World.perform_of_answers h hrun]
  rfl

end QueueAction

namespace Queue

open QueueAction

variable {config : QueueConfig} {world : World} {envelope : String}

theorem run_enqueue (h : world.jobs.Answers) (job : Job) :
    (enqueue config job).run.run world = (config.afterPush world (Job.codec.text job), .ok (.ok ())) :=
  run_send h rfl

theorem run_release (h : world.jobs.Answers) (envelope : String) :
    (release config envelope).run.run world = (config.afterRelease world envelope, .ok (.ok ())) := by
  have hrun : world.jobs.store.run world.elapsed (.lrem config.activeKey 1 envelope) =
      .ok ((config.active world.jobs.store).length - ((config.active world.jobs.store).erase envelope).length,
        world.jobs.store.setList config.activeKey ((config.active world.jobs.store).erase envelope)) := by
    rw [Store.run, ← Store.removeFirst_one]
    rfl
  exact run_bind_of_ok _ (run_send h hrun)

/-- The oldest envelope becomes active, and what follows depends on whether it can be read. -/
theorem run_dequeue_eq (h : world.jobs.Answers) {envelope : String}
    (hlast : (config.waiting world.jobs.store).getLast? = some envelope) :
    (dequeue config).run.run world =
      (match Job.codec.ofText envelope with
        | .ok job => return some ⟨job, envelope⟩
        | .error fault => do
          send (.rpush config.failedKey envelope)
          release config envelope
          throw (.unreadable fault) : QueueAction (Option ReservedJob)).run.run (config.afterPop world) := by
  have hrun : world.jobs.store.run world.elapsed (.rpoplpush config.waitKey config.activeKey) =
      .ok (some envelope, (world.jobs.store.rotate config.waitKey config.activeKey).2) := by
    rw [Store.run, ← hlast, QueueConfig.waiting, ← Store.rotate_fst _ _ config.activeKey]
  exact run_bind_of_ok _ (run_send h hrun)

theorem run_dequeue_readable (h : world.jobs.Answers) {envelope : String} {job : Job}
    (hlast : (config.waiting world.jobs.store).getLast? = some envelope)
    (hread : Job.codec.ofText envelope = .ok job) :
    (dequeue config).run.run world = (config.afterPop world, .ok (.ok (some ⟨job, envelope⟩))) := by
  rw [run_dequeue_eq h hlast, hread]
  rfl

/-- An envelope that cannot be read arrives among the failed ones. -/
theorem run_dequeue_buried (h : world.jobs.Answers) {envelope : String} {fault : Fault}
    (hlast : (config.waiting world.jobs.store).getLast? = some envelope)
    (hread : Job.codec.ofText envelope = .error fault) :
    ∃ after, (dequeue config).run.run world = (after, .ok (.error (.unreadable fault))) ∧
      after.jobs.Answers ∧ config.Arrived envelope .failed (config.active world.jobs.store)
        (config.afterPop world).jobs.store after.jobs.store := by
  let popped := config.afterPop world
  let buried := popped.did (.rpush config.failedKey envelope)
    (popped.jobs.store.pushBack config.failedKey envelope)
  obtain ⟨-, hactive, -⟩ := config.holds_afterPop world hlast
  refine ⟨config.afterRelease buried envelope, ?_, h, ?_⟩
  · rw [run_dequeue_eq h hlast, hread]
    refine (run_bind_of_ok _ (run_send (show popped.jobs.Answers from h) rfl)).trans ?_
    exact run_bind_of_ok _ (run_release (show buried.jobs.Answers from h) envelope)
  · have hreleased := (QueueConfig.Arrived.kept config envelope popped.jobs.store).released
    rw [hactive, List.erase_cons_head] at hreleased
    exact hreleased

/-- An envelope that cannot be read ends among the failed ones. -/
theorem run_dequeue_unreadable (h : world.jobs.Answers) {envelope : String} {fault : Fault}
    (hlast : (config.waiting world.jobs.store).getLast? = some envelope)
    (hread : Job.codec.ofText envelope = .error fault) :
    ∃ after, (dequeue config).run.run world = (after, .ok (.error (.unreadable fault))) ∧
      config.waiting after.jobs.store = (config.waiting world.jobs.store).dropLast ∧
      config.active after.jobs.store = config.active world.jobs.store ∧
      config.failed after.jobs.store = config.failed world.jobs.store ++ [envelope] := by
  obtain ⟨hwaiting, -, hfailed, -⟩ := config.holds_afterPop world hlast
  obtain ⟨after, hrun, -, harrived⟩ := run_dequeue_buried h hlast hread
  refine ⟨after, hrun, harrived.waiting.trans hwaiting, harrived.active, ?_⟩
  rw [harrived.failed, hfailed]
  rfl

/-! ### From one end to the other -/

/-- What becomes of a job that goes through a queue in which no other one waits: it comes back as it was if
its data can be read one level deep, and is put to the failed jobs otherwise. -/
inductive Passes (config : QueueConfig) (job : Job) (before after : Store) :
    Except QueueError (Option ReservedJob) → Prop where
  | comesBack (hfits : Fits (nestingLimit - 1) job.data)
      (hactive : config.active after = Job.codec.text job :: config.active before)
      (hfailed : config.failed after = config.failed before) :
      Passes config job before after (.ok (some ⟨job, Job.codec.text job⟩))
  | isLost (fault : Fault) (hdeep : ¬ Fits (nestingLimit - 1) job.data)
      (hactive : config.active after = config.active before)
      (hfailed : config.failed after = config.failed before ++ [Job.codec.text job]) :
      Passes config job before after (.error (.unreadable fault))

/-- Whatever data can be read by itself is accepted by the queue, and a job with such data comes back as it
was exactly if the data can be read one level deep. -/
theorem dequeue_enqueued (h : world.jobs.Answers) (hempty : config.waiting world.jobs.store = []) {job : Job}
    (hattempt : job.attempt ≤ Word.max32) {t : String} (hdata : Json.ofText t = .ok job.data)
    (hfree : FloatFree job.data) :
    ∃ between after r, (enqueue config job).run.run world = (between, .ok (.ok ())) ∧
      (dequeue config).run.run between = (after, .ok r) ∧ config.waiting after.jobs.store = [] ∧
      Passes config job world.jobs.store after.jobs.store r := by
  let pushed := config.afterPush world (Job.codec.text job)
  have hpushed : pushed.jobs.Answers := h
  obtain ⟨hwaiting, hactive, hfailed, -⟩ := config.holds_afterPush world (Job.codec.text job)
  rw [hempty] at hwaiting
  have hlast : (config.waiting pushed.jobs.store).getLast? = some (Job.codec.text job) := by
    rw [hwaiting]
    rfl
  have hread := fun job' => @Job.ofText_text_iff job job' hattempt (Json.fits_of_ofText hdata) hfree
  cases hresult : Job.codec.ofText (Job.codec.text job) with
  | ok job' =>
    obtain ⟨rfl, hfits⟩ := (hread job').1 hresult
    obtain ⟨hwaiting', hactive', hfailed', -⟩ := config.holds_afterPop pushed hlast
    rw [hwaiting] at hwaiting'
    rw [hactive] at hactive'
    exact ⟨pushed, config.afterPop pushed, _, run_enqueue h job', run_dequeue_readable hpushed hlast hresult,
      hwaiting', .comesBack hfits hactive' (hfailed'.trans hfailed)⟩
  | error fault =>
    have hdeep : ¬ Fits (nestingLimit - 1) job.data := fun hfits => by
      cases hresult.symm.trans ((hread job).2 ⟨rfl, hfits⟩)
    obtain ⟨after, hrun, hwaiting', hactive', hfailed'⟩ := run_dequeue_unreadable hpushed hlast hresult
    rw [hwaiting] at hwaiting'
    rw [hfailed] at hfailed'
    exact ⟨pushed, after, _, run_enqueue h job, hrun, hwaiting',
      .isLost fault hdeep (hactive'.trans hactive) hfailed'⟩

/-- A job whose data is one level less deep than a text may be comes back as it was. -/
theorem sample_deep_comesBack :
    ∃ between after, (enqueue .sample (.first "j1" (nested 125))).run.run (.new [] false 0) =
        (between, .ok (.ok ())) ∧
      (dequeue .sample).run.run between = (after, .ok (.ok (some
        ⟨.first "j1" (nested 125), Job.codec.text (.first "j1" (nested 125))⟩))) := by
  obtain ⟨t, hdata⟩ := Json.exists_ofText (fits_nested_iff.2 (by decide)) (floatFree_nested 125)
  have hanswers : (World.new [] false 0).jobs.Answers := fun _ => ⟨rfl, rfl⟩
  obtain ⟨between, after, r, henqueue, hdequeue, -, hpasses⟩ :=
    @dequeue_enqueued .sample (.new [] false 0) hanswers rfl (.first "j1" (nested 125)) (by decide) t hdata
      (floatFree_nested 125)
  cases hpasses with
  | comesBack => exact ⟨between, after, henqueue, hdequeue⟩
  | isLost fault hdeep => exact absurd (fits_nested_iff.2 (by decide)) hdeep

/-- Data as deep as a text may be is accepted by the queue and does not come back. -/
theorem sample_deepest_lost :
    (∃ t, Json.ofText t = .ok (nested 126)) ∧ FloatFree (nested 126) ∧
      ∃ between after fault, (enqueue .sample (.first "j1" (nested 126))).run.run (.new [] false 0) =
          (between, .ok (.ok ())) ∧
        (dequeue .sample).run.run between = (after, .ok (.error (.unreadable fault))) := by
  have hfits : Fits nestingLimit (nested 126) := fits_nested_iff.2 (by decide)
  have hanswers : (World.new [] false 0).jobs.Answers := fun _ => ⟨rfl, rfl⟩
  refine ⟨Json.exists_ofText hfits (floatFree_nested 126), floatFree_nested 126, ?_⟩
  cases hresult : Job.codec.ofText (Job.codec.text (.first "j1" (nested 126))) with
  | ok job =>
    have hone := ((Job.ofText_text_iff (by decide) hfits (floatFree_nested 126)).1 hresult).2
    exact absurd (fits_nested_iff.1 hone) (by decide)
  | error fault =>
    obtain ⟨after, hrun, -⟩ := @run_dequeue_unreadable .sample
      (QueueConfig.sample.afterPush (.new [] false 0) _) hanswers _ fault rfl hresult
    exact ⟨_, after, fault, run_enqueue hanswers _, hrun⟩

end Queue

end JobQueue
