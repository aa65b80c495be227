import JobQueue.Proofs.Queue.Flow
import JobQueue.Proofs.Queue.Loss
import JobQueue.Proofs.Reliable

/-! What promotions let wait while others promote and schedule the same envelopes: every envelope once for
each time that it was scheduled, and exactly as many as they say. -/

namespace JobQueue

def QueueOp.isPromotion : QueueOp → Bool
  | promoteDue => true
  | _ => false

namespace QueueConfig

variable (config : QueueConfig)

/-- A promotion lets an envelope of a kind wait. -/
def promotes (p : String → Bool) : Event config.clients → Bool :=
  Event.does fun op d => op.isPromotion && d.puts config.waitKey p

/-- An envelope of a kind is scheduled. -/
def delays (p : String → Bool) : Event config.clients → Bool :=
  Event.does fun _ d => d.schedules config.delayedKey p

/-- What a promotion says at its end. -/
def promotedBy : Event config.clients → Nat
  | .ended _ .promoteDue (.ok (.promoted count)) => count
  | _ => 0

/-- The promotion of a number has said how many envelopes it let wait. -/
def reports (n : Nat) : Event config.clients → Bool
  | .ended m .promoteDue (.ok (.promoted _)) => m == n
  | _ => false

theorem program_promoteDue : QueueOp.promoteDue.program config =
    (Queue.promoteDue config).run.bind fun r => .done (r.map QueueReply.promoted) := by
  refine congrArg (Program.bind (Queue.promoteDue config).run) (funext fun r => ?_)
  cases r <;> rfl

variable {config}

/-- What a promotion has done so far. -/
theorem promotes_of_leads {deeds : List Deed} {q : Program QueueOp.Result}
    (h : (QueueOp.promoteDue.program config).Leads deeds q) :
    ∃ q', Queue.Promotes config 0 deeds q' ∧ q = q'.bind fun r => .done (r.map QueueReply.promoted) := by
  rw [program_promoteDue] at h
  obtain ⟨q', hleads, heq⟩ := h.of_map
  exact ⟨q', Queue.promoteDue_leads hleads, heq⟩

variable {K : Conditions} {world : World} {s : Scene config.clients}

/-- Whatever promotions let wait was delayed from the start or scheduled since. -/
theorem countP_promotes_le (h : Scene.Reachable K world s) (p : String → Bool) :
    s.history.countP (config.promotes p) ≤
      (config.delayed world.jobs.store).countP (fun x => p x.2) + s.history.countP (config.delays p) := by
  have htaken : s.history.countP (config.promotes p) ≤
      s.history.countP (Event.does fun _ d => d.removes config.delayedKey p) := by
    refine h.does_le_does fun op deeds q hleads => ?_
    cases op with
    | promoteDue =>
      obtain ⟨q', hpromotes, -⟩ := promotes_of_leads hleads
      exact hpromotes.paired.countP_le p
    | _ =>
      refine Nat.le_trans (Nat.le_of_eq (List.countP_eq_zero.2 fun d _ => ?_)) (Nat.zero_le _)
      simp [QueueOp.isPromotion]
  have haccount := h.account (Store.accounts_sortedSet config.delayedKey p)
  rw [← delayed, ← delayed] at haccount
  exact Nat.le_trans htaken (Nat.le_trans (Nat.le_add_left ..) haccount)

/-- What a promotion lets wait it has itself taken off just before. -/
theorem deeds_of_promotes (h : Scene.Reachable K world s) {later earlier : List (Event config.clients)}
    {n time : Nat} {op : QueueOp} {wall : Int} {e : Effect} {a : e.Answer} {envelope : String}
    (hhistory : s.history = later ++ .did n op time wall e a :: earlier)
    (hpromotes : config.promotes (· == envelope) (.did n op time wall e a) = true) :
    ∃ rest, Scene.deeds n earlier =
      ⟨.command .jobs (.zrem config.delayedKey envelope), .ok true⟩ :: rest := by
  have hdid : .did n op time wall e a ∈ s.history := by
    rw [hhistory]
    simp
  have hbegan := h.tracked.did _ _ _ _ _ _ hdid
  obtain ⟨op', q, hbegan', hleads⟩ := h.tracked.past n (h.tracked.began n op hbegan).1
  obtain rfl := (h.tracked.began n op hbegan).2 op' hbegan'
  simp only [promotes, Event.does, Bool.and_eq_true] at hpromotes
  cases op' with
  | promoteDue =>
    obtain ⟨q', hpromoted, -⟩ := promotes_of_leads hleads
    have hpaired := hpromoted.paired
    have hsplit : Scene.deeds n s.history = Scene.deeds n later ++ ⟨e, a⟩ :: Scene.deeds n earlier := by
      rw [hhistory, ← Scene.deeds_did_self n QueueOp.promoteDue earlier time wall]
      exact List.filterMap_append ..
    rw [hsplit] at hpaired
    exact hpaired.of_append.1 envelope hpromotes.2
  | _ => cases hpromotes.1

theorem exists_of_reports {n : Nat} {history : List (Event config.clients)}
    (h : history.any (config.reports n) = true) :
    ∃ count, .ended n QueueOp.promoteDue (.ok (.promoted count)) ∈ history := by
  obtain ⟨event, hevent, hreports⟩ := List.any_eq_true.1 h
  unfold reports at hreports
  split at hreports
  next m count =>
    obtain rfl := beq_iff_eq.1 hreports
    exact ⟨count, hevent⟩
  next => cases hreports

/-- Promotions that are over say how many envelopes they let wait. -/
theorem sum_promotedBy (h : Scene.Reachable K world s) :
    (s.history.map config.promotedBy).sum = s.history.countP fun event =>
      config.promotes (fun _ => true) event && s.history.any (config.reports event.number) := by
  rw [Scene.countP_eq_sum]
  refine Scene.sum_eq_of_calls fun n => ?_
  rw [← Scene.countP_eq_sum]
  have hnumber : ∀ event ∈ Scene.eventsOf n s.history, event.number = n :=
    fun event hevent => (Scene.mem_eventsOf.1 hevent).2
  cases hreports : s.history.any (config.reports n) with
  | true =>
    obtain ⟨count, hended⟩ := exists_of_reports hreports
    obtain ⟨hbegan, hleads, -⟩ := h.tracked.ended n _ _ hended
    obtain ⟨q', hpromotes, heq⟩ := promotes_of_leads hleads
    have hall : (Scene.eventsOf n s.history).countP (fun event =>
        config.promotes (fun _ => true) event && s.history.any (config.reports event.number)) =
          (Scene.eventsOf n s.history).countP (config.promotes fun _ => true) := by
      refine List.countP_congr fun event hevent => ?_
      rw [hnumber event hevent, hreports, Bool.and_true]
    have hsum := h.once.sum_eq config.promotedBy hended rfl fun event hover => by
      cases event <;> first | rfl | cases hover
    rw [hall, promotes, h.tracked.countP_does _ hbegan]
    refine hsum.trans ?_
    cases q' with
    | done r =>
      obtain error | count' := r
      · cases heq
      · cases heq
        have hcount := hpromotes.count count rfl
        rw [Nat.zero_add] at hcount
        exact hcount
    | panic | step => cases heq
  | false =>
    have hnone : (Scene.eventsOf n s.history).countP (fun event =>
        config.promotes (fun _ => true) event && s.history.any (config.reports event.number)) = 0 := by
      refine List.countP_eq_zero.2 fun event hevent => ?_
      rw [hnumber event hevent, hreports, Bool.and_false]
      exact Bool.false_ne_true
    rw [hnone]
    refine List.sum_eq_zero fun x hx => ?_
    obtain ⟨event, hevent, rfl⟩ := List.mem_map.1 hx
    unfold promotedBy
    split
    next m count =>
      obtain ⟨hended, rfl⟩ := Scene.mem_eventsOf.1 hevent
      have hany : s.history.any (config.reports m) = true :=
        List.any_eq_true.2 ⟨_, hended, beq_self_eq_true m⟩
      cases hreports.symm.trans hany
    next => rfl

/-- Where no command fails, every promotion that ends says how many envelopes it let wait. -/
theorem exists_of_ended (hK : ¬K.failing) (hanswers : world.jobs.Answers) (h : Scene.Reachable K world s)
    {n : Nat} {result : QueueOp.Result} (hended : .ended n QueueOp.promoteDue result ∈ s.history) :
    ∃ count, result = .ok (.promoted count) := by
  obtain ⟨-, hleads, -⟩ := h.tracked.ended n _ _ hended
  obtain ⟨q', hpromotes, heq⟩ := promotes_of_leads hleads
  cases q' with
  | done r =>
    obtain error | count := r
    · obtain ⟨d, hd, hrefused⟩ := hpromotes.error error rfl
      obtain ⟨op, time, wall, hdid⟩ := Scene.exists_of_mem_deeds hd
      exact absurd ((h.answered hK hanswers).did _ _ _ _ _ _ hdid) hrefused
    · cases heq
      exact ⟨count, rfl⟩
  | panic | step => cases heq

/-- Promotions let an envelope wait at most once for each time that it was scheduled, and only after they
have themselves taken it off; no envelope is delayed twice, and promotions say how many they let wait. -/
theorem promotes_once (h : Scene.Reachable K world s)
    (hdistinct : world.jobs.store.IsDistinct config.delayedKey) :
    (∀ envelope, s.history.countP (config.promotes (· == envelope)) ≤
      (config.delayed world.jobs.store).countP (fun x => x.2 == envelope) +
        s.history.countP (config.delays (· == envelope))) ∧
    (∀ later earlier n op time wall e a envelope,
      s.history = later ++ .did n op time wall e a :: earlier →
      config.promotes (· == envelope) (.did n op time wall e a) = true →
      ∃ rest, Scene.deeds n earlier =
        ⟨.command .jobs (.zrem config.delayedKey envelope), .ok true⟩ :: rest) ∧
    s.world.jobs.store.IsDistinct config.delayedKey ∧
    ((s.history.map config.promotedBy).sum = s.history.countP fun event =>
      config.promotes (fun _ => true) event && s.history.any (config.reports event.number)) ∧
    (¬K.failing → world.jobs.Answers → ∀ n result, .ended n QueueOp.promoteDue result ∈ s.history →
      ∃ count, result = .ok (.promoted count)) :=
  ⟨fun envelope => countP_promotes_le h (· == envelope),
    fun _ _ _ _ _ _ _ _ _ hhistory hpromotes => deeds_of_promotes h hhistory hpromotes,
    h.store_keeps (fun _ _ _ _ _ hrun hstore => Store.isDistinct_of_run _ hrun hstore) hdistinct,
    sum_promotedBy h, fun hK hanswers _ _ hended => exists_of_ended hK hanswers h hended⟩

/-- A world in which a delivery of the sample job is due. -/
def sampleDueWorld : World :=
  sample.afterSchedule (.new [] false 0) (Job.codec.text Job.sample) 0

/-- A promotion lets the delivery wait and says so. -/
theorem sample_promoted_once :
    ∃ s : Scene sample.clients, Scene.Reachable .reliable sampleDueWorld s ∧ s.calls = [] ∧
      s.history.countP (sample.promotes (· == Job.codec.text Job.sample)) = 1 ∧
      (s.history.map sample.promotedBy).sum = 1 := by
  have hdelayed : sample.delayed sampleDueWorld.jobs.store = [(0, Job.codec.text Job.sample)] := by
    rw [sampleDueWorld, (sample.holds_afterSchedule _ _ _).2.2.2]
    rfl
  have hanswers : sampleDueWorld.jobs.Answers := fun _ => ⟨rfl, rfl⟩
  have hclock : Clock.recordTime sampleDueWorld.wall = .ok 0 := rfl
  have hpromoting : QueueScene.Run .reliable (QueueScene.start sample sampleDueWorld) _ :=
    QueueScene.run_promoting hanswers hclock hdelayed (by decide) (by decide)
  have hpushed : QueueScene.Run .reliable (QueueScene.start sample sampleDueWorld) _ :=
    (hpromoting.tail (QueueScene.step_did hanswers rfl (.requeued ..))).tail (.ends _ _ _ [] [])
  have hrun := hpushed.scene
  have hdistinct : sampleDueWorld.jobs.store.IsDistinct sample.delayedKey := by
    rw [Store.IsDistinct, ← delayed, hdelayed]
    exact List.nodup_singleton _
  obtain ⟨-, -, -, hsum, -⟩ := promotes_once hrun hdistinct
  refine ⟨_, hrun, rfl, ?_, hsum.trans ?_⟩
  · simp [QueueScene.scene, promotes, Event.does, Deed.puts, QueueOp.isPromotion]
  · simp [QueueScene.scene, promotes, Event.does, Deed.puts, QueueOp.isPromotion, reports,
      Event.number]

end QueueConfig

end JobQueue
