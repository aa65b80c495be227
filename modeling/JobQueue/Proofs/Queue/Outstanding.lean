import JobQueue.Proofs.Queue.Alone
import JobQueue.Proofs.Queue.Holding

/-! Deliveries and their copies. Whatever texts wait and whatever fails, every delivery that is
outstanding has a copy of its own among the active ones; as long as nothing goes wrong, no other copies
are there. -/

namespace JobQueue

variable {config : QueueConfig}

/-! ### Runs with producers of any kind -/

/-- The world after a producer has let any text wait. -/
def World.feed (config : QueueConfig) (world : World) (text : String) : World :=
  { world with jobs := { world.jobs with store := world.jobs.store.pushFront config.waitKey text } }

namespace QueueConfig

/-- One step of the clients of a queue, or of a producer that lets any text wait. -/
inductive OpenStep (config : QueueConfig) (K : Conditions) :
    Scene config.clients → Scene config.clients → Prop where
  | runs {s s'} (h : Scene.Step K s s') : OpenStep config K s s'
  | feeds (s : Scene config.clients) (text : String) :
      OpenStep config K s { s with world := s.world.feed config text }

/-- What the clients of a queue and producers of any kind can lead to. -/
abbrev OpenReachable (config : QueueConfig) (K : Conditions) (world : World)
    (s : Scene config.clients) : Prop :=
  Relation.ReflTransGen (config.OpenStep K) (Scene.start world) s

/-! ### Outstanding deliveries -/

/-- The delivery that a call holds: the one that it has yet to settle, or the one that it hands over. -/
def delivery? (config : QueueConfig) (c : Call config.clients) : Option ReservedJob :=
  match c.rest with
  | .step _ _ => c.op.needs
  | .done result => c.op.gains result
  | .panic _ => none

/-- The deliveries that were taken off a queue and have not been settled. -/
def outstanding (config : QueueConfig) (s : Scene config.clients) : List ReservedJob :=
  s.hands ++ s.calls.flatMap fun c => (config.delivery? c).toList

/-- Something goes wrong: a command gives an error, or a call panics or is given up. -/
def isMishap (config : QueueConfig) : Event config.clients → Bool
  | .did _ _ _ _ (.command _ _) (.error _) => true
  | .panicked .. => true
  | .abandoned .. => true
  | _ => false

end QueueConfig

/-! ### What one move does -/

namespace QueueStage

/-- Only an attempt that cannot be counted breaks an operation at its start. It else holds what it needs. -/
theorem start_broken_or_held (config : QueueConfig) (op : QueueOp) :
    (∃ p, start config op = broken p) ∨
      (start config op).held? = op.needs.map ReservedJob.envelope := by
  cases op with
  | enqueue | dequeue | promoteDue => exact .inr rfl
  | complete reserved =>
    right
    cases hkeeps : config.keepsCompleted <;> simp [start, hkeeps, held?, QueueOp.needs]
  | fail reserved =>
    right
    cases hkeeps : config.keepsFailed <;> simp [start, hkeeps, held?, QueueOp.needs]
  | retry reserved delay =>
    cases hnext : reserved.job.next with
    | ok next => exact .inr (by simp [start, hnext, held?, QueueOp.needs])
    | error p => exact .inl ⟨p, by simp [start, hnext]⟩

/-- What a call holds is what its stage holds. -/
theorem delivery?_le_held? (config : QueueConfig) {c : QueueCall} (h : Fits c.op c.stage) (envelope : String) :
    ((config.delivery? (c.call config)).toList.map ReservedJob.envelope).count envelope ≤
      c.stage.held?.toList.count envelope := by
  obtain ⟨n, op, stage⟩ := c
  dsimp only at h ⊢
  cases hprogram : stage.program config with
  | panic p => simp [QueueConfig.delivery?, QueueCall.call, hprogram]
  | done result =>
    obtain rfl := (program_eq_done config).1 hprogram
    exact QueueScene.gains_count op result envelope
  | step e next =>
    have hheld : (op.needs.map ReservedJob.envelope).toList.count envelope ≤
        stage.held?.toList.count envelope := by
      cases stage with
      | done | broken => cases hprogram
      | _ => cases op <;> simp_all [Fits, QueueOp.needs, held?]
    simpa [QueueConfig.delivery?, QueueCall.call, hprogram, Option.toList_map] using hheld

namespace Move

variable {world : World} {stage stage' : QueueStage} {e : Effect} {a : e.Answer} {store : Store}

/-- Unless a command gives an error or the call breaks, a move puts among the active ones exactly what its
stage comes to hold and removes exactly what it no longer holds. -/
theorem active_count_eq (move : Move config world stage e a store stage') {n time : Nat} {op : QueueOp}
    {wall : Int} (hsmooth : config.isMishap (.did n op time wall e a) = false)
    (hbroken : ∀ p, stage' ≠ broken p) (envelope : String)
    (hheld : stage.held?.toList.count envelope ≤ (config.active world.jobs.store).count envelope) :
    (config.active store).count envelope + stage.held?.toList.count envelope =
      (config.active world.jobs.store).count envelope + stage'.held?.toList.count envelope := by
  cases move with
  | reserved envelope' job h =>
    rw [(config.holds_rotate _ h).2.1]
    simp [held?, List.count_cons]
  | unreadable envelope' fault h =>
    rw [(config.holds_rotate _ h).2.1]
    simp [held?, List.count_cons]
  | cleared envelope' fault n =>
    rw [(config.holds_setList_activeKey _ _).2.1, List.count_erase]
    simp [held?, List.count_cons] at hheld ⊢
    split at hheld <;> simp_all
  | released envelope' n =>
    rw [(config.holds_setList_activeKey _ _).2.1, List.count_erase]
    simp [held?, List.count_cons] at hheld ⊢
    split at hheld <;> simp_all
  | listed | missed | requeued =>
    rw [held?_promoting]
    simp [held?]
  | undated envelope next delay p h => exact absurd rfl (hbroken p)
  | refused => cases hsmooth
  | _ => simp [held?]

/-- Only copies of what a stage holds are removed from the active ones. -/
theorem held?_of_lrem {envelope : String} {r : Except StoreError Nat}
    (move : Move config world stage (.command .jobs (.lrem config.activeKey 1 envelope)) r store stage')
    (hok : ∀ error, r ≠ .error error) : stage.held? = some envelope := by
  cases move with
  | cleared | released => rfl
  | refused _ _ error => exact absurd rfl (hok error)

end Move

end QueueStage

/-- A command that removes one copy of a text which is there answers that it has removed one. -/
theorem Happens.lrem_one {failing : Prop} {world world' : World} {key envelope : String} {removed : Nat}
    (h : Happens failing world (.command .jobs (.lrem key 1 envelope)) world' (.ok (.ok removed)))
    (hmem : envelope ∈ world.jobs.store.lists.get key) : removed = 1 := by
  obtain ⟨error, heq, -⟩ | ⟨a, store, heq, hrun, -⟩ := h.jobs
  · cases heq
  have hpos : 0 < (world.jobs.store.lists.get key).length := List.length_pos_of_mem hmem
  have hkept : Store.removeFirst envelope 1 (world.jobs.store.lists.get key) =
      (world.jobs.store.lists.get key).erase envelope := Store.removeFirst_one ..
  have hlength := List.length_erase_of_mem hmem
  obtain rfl : removed = a := Except.ok.inj heq
  have hanswer := (Prod.mk.inj (Except.ok.inj hrun)).1
  change (world.jobs.store.lists.get key).length -
    (Store.removeFirst envelope 1 (world.jobs.store.lists.get key)).length = removed at hanswer
  rw [hkept] at hanswer
  omega

/-! ### Runs -/

namespace QueueScene

variable {K : Conditions} {t t' : QueueScene config} {before : List String}

/-- Unless something went wrong or a call is about to panic, the active ones are those that were there before
the run and one for each delivery that is held. -/
def Exact (before : List String) (t : QueueScene config) : Prop :=
  (∀ event ∈ t.history, config.isMishap event = false) →
    (∃ c ∈ t.calls, ∃ p, c.stage = .broken p) ∨
      ∀ envelope, (config.active t.store).count envelope = before.count envelope + t.held.count envelope

/-- Every removal from the active ones has removed one copy. -/
def Frugal (t : QueueScene config) : Prop :=
  ∀ n op time wall envelope removed, .did n op time wall
    (.command .jobs (.lrem config.activeKey 1 envelope)) (.ok removed) ∈ t.history → removed = 1

theorem exact_start (world : World) : (start config world).Exact (config.active world.jobs.store) :=
  fun _ => .inr fun _ => by simp [start, held]

/-- If one of several calls is about to panic, it is a certain one or it is among the others. -/
theorem broken_among {c : QueueCall} {left right : List QueueCall}
    (h : ∃ c' ∈ left ++ c :: right, ∃ p, c'.stage = .broken p) :
    (∃ p, c.stage = .broken p) ∨ ∃ c' ∈ left ++ right, ∃ p, c'.stage = .broken p := by
  obtain ⟨c', hmem, hbroken⟩ := h
  obtain hleft | hmem := List.mem_append.1 hmem
  · exact .inr ⟨c', List.mem_append_left right hleft, hbroken⟩
  · obtain rfl | hright := List.mem_cons.1 hmem
    · exact .inl hbroken
    · exact .inr ⟨c', List.mem_append_right left hright, hbroken⟩

theorem Exact.step (h : Step K t t') (hs : t.Sound) (hc : t.Covered) (he : t.Exact before) :
    t'.Exact before := by
  intro hsmooth
  have hearlier : ∀ event ∈ t.history, config.isMishap event = false := by
    obtain hsame | ⟨event, hadds⟩ := h.history
    · exact hsame ▸ hsmooth
    · rw [hadds] at hsmooth
      exact fun event hevent => hsmooth event (.tail _ hevent)
  have he := he hearlier
  cases h with
  | @begins world calls hands begun history op h =>
    obtain ⟨c, hc, hbroken⟩ | he := he
    · exact .inl ⟨c, .tail _ hc, hbroken⟩
    obtain ⟨p, hp⟩ | hheld := QueueStage.start_broken_or_held config op
    · exact .inl ⟨_, .head _, p, hp⟩
    · refine .inr fun envelope => ?_
      have he := he envelope
      simp [held, store, hheld, h] at he ⊢
      exact he
  | @takes world calls begun history op reserved left right h =>
    obtain ⟨c, hc, hbroken⟩ | he := he
    · exact .inl ⟨c, .tail _ hc, hbroken⟩
    obtain ⟨p, hp⟩ | hheld := QueueStage.start_broken_or_held config op
    · exact .inl ⟨_, .head _, p, hp⟩
    · refine .inr fun envelope => ?_
      have he := he envelope
      simp [held, store, hheld, h, List.count_cons] at he ⊢
      omega
  | acts n op stage stage' e a left right h move =>
    obtain hbroken | he := he
    · obtain ⟨p, hp⟩ | ⟨c, hmem, hbroken⟩ := broken_among hbroken
      · -- Nothing follows on a panic.
        obtain rfl : stage = .broken p := hp
        obtain ⟨next, hprogram, -⟩ := move.exists_next
        cases hprogram
      · exact .inl ⟨c, ((List.sublist_cons_self _ right).append_left left).mem hmem, hbroken⟩
    by_cases hbroken : ∃ p, stage' = .broken p
    · exact .inl ⟨⟨n, op, stage'⟩, by simp, hbroken⟩
    · refine .inr fun envelope => ?_
      have hcovered := hc envelope
      have he := he envelope
      simp only [held, store, List.count_append, List.flatMap_append, List.flatMap_cons] at hcovered he ⊢
      have hmove := move.active_count_eq (hsmooth _ (.head _)) (fun p hp => hbroken ⟨p, hp⟩)
        envelope (by omega)
      omega
  | ends n op result left right =>
    obtain hbroken | he := he
    · obtain ⟨p, hp⟩ | hbroken := broken_among hbroken
      · cases hp
      · exact .inl hbroken
    · refine .inr fun envelope => ?_
      have he := he envelope
      have hfits : QueueStage.Fits op (.done result) := hs.fits ⟨n, op, .done result⟩ (by simp)
      have hgains : (op.gains result).map ReservedJob.envelope = (QueueStage.done result).held? := by
        cases op <;> obtain _ | _ | ⟨_ | _⟩ | _ := result <;> first | rfl | cases hfits
      simp only [held, store, List.count_append, List.flatMap_append, List.flatMap_cons, List.map_append,
        ← hgains, Option.toList_map] at he ⊢
      omega
  | panics n op p left right => cases hsmooth _ (.head _)
  | abandons c left right => cases hsmooth _ (.head _)
  | drifts h =>
    cases h
    exact he

theorem Frugal.step (h : Step K t t') (hc : t.Covered) (hf : t.Frugal) : t'.Frugal := by
  intro n op time wall envelope removed hdid
  cases h with
  | acts n' op' stage stage' e a left right h move =>
    obtain heq | hold := List.mem_cons.1 hdid
    · cases heq
      have hheld := move.held?_of_lrem (fun error hr => by cases hr)
      have hcovered := hc envelope
      simp [held, store, hheld] at hcovered
      exact h.lrem_one (List.count_pos_iff.1 (show 0 < (config.active _).count envelope by omega))
    · exact hf n op time wall envelope removed hold
  | drifts h => exact hf n op time wall envelope removed hdid
  | _ =>
    obtain heq | hold := List.mem_cons.1 hdid
    · cases heq
    · exact hf n op time wall envelope removed hold

/-- What is true of the deliveries in a scene that the clients of a queue and producers of any kind have led
to. -/
structure Accounted (before : List String) (t : QueueScene config) : Prop where
  sound : t.Sound
  covered : t.Covered
  exactly : t.Exact before
  frugal : t.Frugal

theorem exists_accounted {world : World} {s : Scene config.clients} (h : config.OpenReachable K world s) :
    ∃ t : QueueScene config, t.scene = s ∧ t.Accounted (config.active world.jobs.store) := by
  induction h with
  | refl =>
    exact ⟨start config world, rfl, sound_start world, covered_start world, exact_start world, nofun⟩
  | tail _ hstep ih =>
    obtain ⟨t, rfl, hs, hc, he, hf⟩ := ih
    cases hstep with
    | runs hstep =>
      obtain ⟨t', rfl, hstaged⟩ := step_scene hstep
      exact ⟨t', rfl, hs.step hstaged, hc.step hstaged, he.step hstaged hs hc, hf.step hstaged hc⟩
    | feeds text =>
      have hactive : config.active (t.world.feed config text).jobs.store = config.active t.store :=
        (config.holds_pushFront_waitKey t.store text).2.1
      refine ⟨{ t with world := t.world.feed config text }, rfl, ⟨hs.fits, hs.called, hs.inHand⟩,
        fun envelope => ?_, fun hsmooth => ?_, hf⟩
      · rw [store, hactive]
        exact hc envelope
      · rw [store, hactive]
        exact he hsmooth

/-- What the calls of a scene hold is what their stages hold. -/
theorem outstanding_count_le (hs : t.Sound) (envelope : String) :
    ((config.outstanding t.scene).map ReservedJob.envelope).count envelope ≤
      t.held.count envelope := by
  have hcalls : ∀ calls : List QueueCall, (∀ c ∈ calls, QueueStage.Fits c.op c.stage) →
      (((calls.map (QueueCall.call config)).flatMap fun c =>
        (config.delivery? c).toList).map ReservedJob.envelope).count envelope ≤
      (calls.flatMap fun c => c.stage.held?.toList).count envelope := by
    intro calls hfits
    induction calls with
    | nil => exact Nat.le_refl _
    | cons c calls ih =>
      obtain ⟨hc, hcalls⟩ := List.forall_mem_cons.1 hfits
      have hhead := QueueStage.delivery?_le_held? config hc envelope
      have htail := ih hcalls
      simp only [List.map_cons, List.flatMap_cons, List.map_append, List.count_append]
      omega
  have hcalls := hcalls t.calls hs.fits
  simp only [QueueConfig.outstanding, held, scene, List.map_append, List.count_append]
  omega

end QueueScene

/-- However the clients of a queue take turns, whatever texts wait and whatever fails, there are at least as
many active copies of a text as outstanding deliveries of it, and a settlement removes one copy of its own.
If nothing has gone wrong and no call is midway, there are no other copies but those from before. -/
theorem QueueConfig.active_covers_outstanding {K : Conditions} {world : World}
    {s : Scene config.clients} (h : config.OpenReachable K world s) (envelope : String) :
    ((config.outstanding s).map ReservedJob.envelope).count envelope ≤
        (config.active s.world.jobs.store).count envelope ∧
    (∀ n op time wall removed, .did n op time wall
      (.command .jobs (.lrem config.activeKey 1 envelope)) (.ok removed) ∈ s.history → removed = 1) ∧
    ((∀ event ∈ s.history, config.isMishap event = false) → s.calls = [] →
      (config.active s.world.jobs.store).count envelope =
        (config.active world.jobs.store).count envelope +
          ((config.outstanding s).map ReservedJob.envelope).count envelope) := by
  obtain ⟨t, rfl, hs, hc, he, hf⟩ := QueueScene.exists_accounted h
  have hcovered := hc envelope
  have hheld := QueueScene.outstanding_count_le hs envelope
  refine ⟨Nat.le_trans hheld hcovered, fun n op time wall removed hdid => hf n op time wall _ _ hdid,
    fun hsmooth hcalls => ?_⟩
  have hnone : t.calls = [] := List.map_eq_nil_iff.1 hcalls
  obtain ⟨c, hmem, -⟩ | he := he hsmooth
  · rw [hnone] at hmem
    cases hmem
  · have he := he envelope
    simp only [QueueScene.held, hnone, List.flatMap_nil, List.append_nil] at he
    simpa [outstanding, QueueScene.scene, hnone] using he

/-! ### Fixed inputs -/

/-- Two deliveries of one text are taken off a queue, and one of them is completed. -/
theorem QueueScene.exists_run_completed (config : QueueConfig) (K : Conditions) (world : World)
    {envelope : String} {job : Job} (h : world.jobs.Answers)
    (hread : Job.codec.ofText envelope = .ok job)
    (hwaiting : config.waiting world.jobs.store = [envelope, envelope]) (hkeeps : config.keepsCompleted = false) :
    ∃ t : QueueScene config, Run K (start config world) t ∧ t.calls = [] ∧
      t.hands = [⟨job, envelope⟩] ∧ ∀ event ∈ t.history, config.isMishap event = false := by
  have hlast : (config.waiting world.jobs.store).getLast? = some envelope := by
    rw [hwaiting]
    rfl
  have hpopped := (config.holds_afterPop world hlast).1
  have hlast' : (config.waiting (config.afterPop world).jobs.store).getLast? = some envelope := by
    rw [hpopped, hwaiting]
    rfl
  have hanswers : (config.afterPop world).jobs.Answers := h
  have hanswers' : (config.afterPop (config.afterPop world)).jobs.Answers := h
  have hfirst : Run K (start config world) _ := run_dequeue h hlast hread
  have hdelivered := hfirst.trans (run_dequeue hanswers hlast' hread)
  obtain ⟨removed, hcompleted⟩ := run_complete hanswers' ⟨job, envelope⟩ hkeeps
  exact ⟨_, hdelivered.trans hcompleted, rfl, rfl, by simp [QueueConfig.isMishap]⟩

/-- Two deliveries of one text, which producers of another kind have let wait twice: when the first one is
completed, the copy of the second one stays. -/
theorem QueueConfig.sample_copy_stays :
    ∃ s : Scene QueueConfig.sample.clients,
      QueueConfig.sample.OpenReachable .reliable (.new [] false 0) s ∧
      (QueueConfig.sample.outstanding s).map ReservedJob.envelope = [Job.codec.text .sample] ∧
      (QueueConfig.sample.active s.world.jobs.store).count (Job.codec.text .sample) = 1 := by
  let text := Job.codec.text Job.sample
  let fed := ((World.new [] false 0).feed .sample text).feed .sample text
  have hfed : QueueConfig.sample.OpenReachable .reliable (.new [] false 0) (Scene.start fed) :=
    (Relation.ReflTransGen.single (.feeds _ text)).tail (.feeds _ text)
  obtain ⟨t, hrun, hcalls, hhands, hsmooth⟩ :=
    QueueScene.exists_run_completed .sample .reliable fed (fun _ => ⟨rfl, rfl⟩) Job.sample_isRead rfl rfl
  have hreachable := hfed.trans
    (Relation.ReflTransGen.mono (fun _ _ h => QueueConfig.OpenStep.runs h) _ _ hrun.scene)
  have houtstanding : (QueueConfig.sample.outstanding t.scene).map ReservedJob.envelope = [text] := by
    simp [QueueConfig.outstanding, QueueScene.scene, hcalls, hhands, text]
  obtain ⟨-, -, hexact⟩ := QueueConfig.active_covers_outstanding hreachable text
  refine ⟨t.scene, hreachable, houtstanding, ?_⟩
  rw [hexact hsmooth (by simp [QueueScene.scene, hcalls]), houtstanding, List.count_singleton_self]
  rfl

end JobQueue
