import JobQueue.Proofs.Job.Envelope
import JobQueue.Proofs.Queue.Holding

/-! What becomes of the jobs that were enqueued. A job stays in the structures of its queue until it is
settled for good, but for the copies that a promotion has taken off the delayed ones and not put
back. -/

namespace JobQueue

variable {config : QueueConfig}

/-! ### What happens to a job -/

namespace QueueConfig

/-- An enqueue has pushed a job of the given id. -/
def pushes (config : QueueConfig) (id : String) : Event config.clients → Bool
  | .did _ (.enqueue job) _ _ (.command _ (.lpush ..)) (.ok _) => job.id == id
  | _ => false

/-- A delivery of the given id is completed, or failed without being kept. -/
def settles (config : QueueConfig) (id : String) : Event config.clients → Bool
  | .began _ (.complete reserved) => reserved.job.id == id
  | .began _ (.fail reserved) => !config.keepsFailed && reserved.job.id == id
  | _ => false

/-- A promotion has taken an envelope off the delayed ones. -/
def takesOff (config : QueueConfig) (envelope : String) : Event config.clients → Bool
  | .did _ .promoteDue _ _ (.command _ (.zrem _ member)) (.ok true) => member == envelope
  | _ => false

/-- A promotion has let an envelope wait again. -/
def putsBack (config : QueueConfig) (envelope : String) : Event config.clients → Bool
  | .did _ .promoteDue _ _ (.command _ (.lpush _ value)) (.ok _) => value == envelope
  | _ => false

theorem putsBack_eq_false {envelope : String} {event : Event config.clients}
    (h : config.takesOff envelope event = true) : config.putsBack envelope event = false := by
  unfold takesOff at h
  split at h
  · rfl
  · cases h

/-- Whether a job was enqueued and has not been settled for good since then. -/
def Owes (config : QueueConfig) (id : String) : List (Event config.clients) → Prop
  | [] => False
  | event :: history => config.pushes id event ∨ (config.Owes id history ∧ ¬ config.settles id event)

/-- Some envelope of a job was taken off by promotions more often than it was put back. -/
def Drops (config : QueueConfig) (id : String) (history : List (Event config.clients)) : Prop :=
  ∃ envelope, Job.IsEnvelope id envelope ∧
    history.countP (config.putsBack envelope) < history.countP (config.takesOff envelope)

/-- Whether an envelope waits, is delayed, or is kept as failed. -/
def Stores (config : QueueConfig) (store : Store) (envelope : String) : Prop :=
  envelope ∈ config.waiting store ∨ (∃ score, (score, envelope) ∈ config.delayed store) ∨
    envelope ∈ config.failed store

theorem stores_schedule (config : QueueConfig) (store : Store) (envelope : String) (due : Int) :
    config.Stores (store.setSorted config.delayedKey (Store.insertScored (due, envelope)
      (Store.withoutMember envelope (config.delayed store)))) envelope := by
  simp only [Stores, holds_setSorted_delayedKey, Store.mem_insertScored]
  exact .inr (.inl ⟨due, .inl rfl⟩)

/-- The last waiting envelope becomes active, and nothing else is moved. -/
theorem stores_rotate (config : QueueConfig) {store : Store} {last envelope : String}
    (hlast : (config.waiting store).getLast? = some last) (h : config.Stores store envelope) :
    config.Stores (store.rotate config.waitKey config.activeKey).2 envelope ∨
    (config.active (store.rotate config.waitKey config.activeKey).2).count envelope =
      (config.active store).count envelope + 1 := by
  obtain ⟨hwaiting, hactive, hfailed, hdelayed⟩ := config.holds_rotate store hlast
  rw [Stores, hwaiting, hactive, hfailed, hdelayed]
  obtain ⟨front, hfront⟩ := List.getLast?_eq_some_iff.1 hlast
  obtain h | h | h := h
  · rw [hfront] at h ⊢
    simp only [List.mem_append, List.mem_singleton] at h
    obtain h | rfl := h
    · simp [h]
    · simp
  · simp [h]
  · simp [h]

/-- Whether a job has an envelope in one of the structures of a queue. -/
def Holds (config : QueueConfig) (id : String) (store : Store) : Prop :=
  ∃ envelope, Job.IsEnvelope id envelope ∧
    (envelope ∈ config.active store ∨ config.Stores store envelope)

end QueueConfig

/-! ### What one move does -/

namespace QueueConfig

variable (n time : Nat) (wall : Int) (op : QueueOp) (site : Site) (c : Command) (error : StoreError)

/-! A command that gives an error has done none of this. -/

@[simp] theorem pushes_refused (id : String) :
    config.pushes id (.did n op time wall (.command site c) (.error error)) = false := by
  cases op <;> cases c <;> rfl

@[simp] theorem takesOff_refused (envelope : String) :
    config.takesOff envelope (.did n op time wall (.command site c) (.error error)) = false := by
  cases op <;> cases c <;> rfl

@[simp] theorem putsBack_refused (envelope : String) :
    config.putsBack envelope (.did n op time wall (.command site c) (.error error)) = false := by
  cases op <;> cases c <;> rfl

end QueueConfig

namespace QueueStage

/-- The envelope of which a stage is about to remove the copy that is active, with no other one put
in its place since the delivery was settled. -/
def doomed? : QueueStage → Option String
  | clearing envelope _ => some envelope
  | archiving envelope => some envelope
  | releasing envelope => some envelope
  | _ => none

/-- The envelope that a stage has taken off the delayed ones and is about to put back. -/
def requeued? : QueueStage → Option String
  | requeuing _ envelope _ _ => some envelope
  | _ => none

@[simp] theorem doomed?_promoting (now : Int) (due : List String) (promoted : Nat) :
    (promoting now due promoted).doomed? = none := by
  cases due <;> rfl

@[simp] theorem requeued?_promoting (now : Int) (due : List String) (promoted : Nat) :
    (promoting now due promoted).requeued? = none := by
  cases due <;> rfl

theorem doomed?_le_held? (stage : QueueStage) (envelope : String) :
    stage.doomed?.toList.count envelope ≤ stage.held?.toList.count envelope := by
  cases stage <;> simp [doomed?, held?]

theorem requeued?_start (config : QueueConfig) (op : QueueOp) : (start config op).requeued? = none := by
  cases op with
  | complete reserved => cases hkeeps : config.keepsCompleted <;> simp [start, hkeeps, requeued?]
  | fail reserved => cases hkeeps : config.keepsFailed <;> simp [start, hkeeps, requeued?]
  | retry reserved delay => cases hnext : reserved.job.next <;> simp [start, hnext, requeued?]
  | _ => rfl

/-- Only the settlements of a job doom a copy of it. -/
theorem doomed?_start {op : QueueOp} {envelope : String}
    (h : (start config op).doomed? = some envelope) (n : Nat) :
    ∃ reserved, op.needs = some reserved ∧ reserved.envelope = envelope ∧
      config.settles reserved.job.id (.began n op) := by
  cases op with
  | complete reserved =>
    cases hkeeps : config.keepsCompleted <;>
      simp_all [start, doomed?, QueueOp.needs, QueueConfig.settles]
  | fail reserved =>
    cases hkeeps : config.keepsFailed <;>
      simp_all [start, doomed?, QueueOp.needs, QueueConfig.settles]
  | retry reserved delay =>
    cases hnext : reserved.job.next <;> simp [start, hnext, doomed?] at h
  | _ => cases h

namespace Move

variable {world : World} {op : QueueOp} {stage stage' : QueueStage} {e : Effect} {a : e.Answer}
  {store : Store}

/-- What a promotion is about to put back it has taken off. -/
theorem requeued_count (move : Move config world stage e a store stage') (hfits : Fits op stage)
    (n time : Nat) (wall : Int) (envelope : String) :
    (if config.putsBack envelope (.did n op time wall e a) then 1 else 0) +
        stage'.requeued?.toList.count envelope ≤
      (if config.takesOff envelope (.did n op time wall e a) then 1 else 0) +
        stage.requeued?.toList.count envelope := by
  cases move with
  | refused stage c error h => simp [requeued?]
  | listed now due =>
    obtain rfl := fits_listing.1 hfits
    rw [requeued?_promoting]
    simp [QueueConfig.putsBack]
  | missed now envelope' due promoted =>
    obtain rfl := fits_removing.1 hfits
    rw [requeued?_promoting]
    simp [QueueConfig.putsBack]
  | removed now envelope' due promoted =>
    obtain rfl := fits_removing.1 hfits
    simp [requeued?, QueueConfig.putsBack, QueueConfig.takesOff, List.count_cons]
  | requeued now envelope' due promoted =>
    obtain rfl := fits_requeuing.1 hfits
    rw [requeued?_promoting]
    simp [requeued?, QueueConfig.putsBack, List.count_cons]
  | _ => cases op <;> simp_all [Fits, requeued?, QueueConfig.putsBack, QueueConfig.takesOff]

/-- An envelope that is stored stays so, unless it becomes active or a promotion takes it off. -/
theorem stores (move : Move config world stage e a store stage') (hfits : Fits op stage)
    (n time : Nat) (wall : Int) {envelope : String} (h : config.Stores world.jobs.store envelope) :
    config.Stores store envelope ∨
    (config.active store).count envelope = (config.active world.jobs.store).count envelope + 1 ∧
      stage'.doomed? = none ∨
    config.takesOff envelope (.did n op time wall e a) := by
  cases move with
  | reserved envelope' job hlast =>
    obtain h | hsame := config.stores_rotate hlast h
    · exact .inl h
    · exact .inr (.inl ⟨hsame, rfl⟩)
  | unreadable envelope' fault hlast =>
    obtain h | hsame := config.stores_rotate hlast h
    · exact .inl h
    · exact .inr (.inl ⟨hsame, rfl⟩)
  | removed now envelope' due promoted =>
    obtain rfl := fits_removing.1 hfits
    by_cases hsame : envelope = envelope'
    · exact .inr (.inr (by simp [QueueConfig.takesOff, hsame]))
    · left
      obtain h | h | h := h <;> simp [QueueConfig.Stores, Store.mem_withoutMember, hsame, h]
  | missed now envelope' due promoted habsent =>
    left
    obtain h | ⟨score, h⟩ | h := h
    · simp [QueueConfig.Stores, h]
    · have hne : envelope ≠ envelope' := fun hsame => habsent ⟨score, hsame ▸ h⟩
      simp only [QueueConfig.Stores, QueueConfig.holds_setSorted_delayedKey, Store.mem_withoutMember]
      exact .inr (.inl ⟨score, h, hne⟩)
    · simp [QueueConfig.Stores, h]
  | scheduled envelope' next due =>
    left
    by_cases hsame : envelope = Job.codec.text next
    · exact hsame ▸ config.stores_schedule ..
    · obtain h | h | h := h <;>
        simp [QueueConfig.Stores, Store.mem_insertScored, Store.mem_withoutMember, hsame, h]
  | _ =>
    left
    obtain h | h | h := h <;> simp [QueueConfig.Stores, h]

/-- Every copy that is doomed is a copy of what is stored. -/
theorem doomed_count (move : Move config world stage e a store stage') (envelope : String) :
    (config.active world.jobs.store).count envelope + stage'.doomed?.toList.count envelope ≤
      (config.active store).count envelope + stage.doomed?.toList.count envelope ∨
    config.Stores store envelope ∨
    ∃ next due, stage = scheduling envelope next due ∧ config.Stores store (Job.codec.text next) := by
  cases move with
  | reserved envelope' job hlast =>
    rw [(config.holds_rotate _ hlast).2.1]
    simp [doomed?, List.count_cons]
  | unreadable envelope' fault hlast =>
    rw [(config.holds_rotate _ hlast).2.1]
    simp [doomed?, List.count_cons]
  | buried envelope' fault =>
    by_cases hsame : envelope = envelope'
    · exact .inr (.inl (by simp [QueueConfig.Stores, hsame]))
    · left
      simp [doomed?, Ne.symm hsame]
  | kept envelope' =>
    by_cases hsame : envelope = envelope'
    · exact .inr (.inl (by simp [QueueConfig.Stores, hsame]))
    · left
      simp [doomed?, Ne.symm hsame]
  | cleared envelope' fault n =>
    rw [(config.holds_setList_activeKey _ _).2.1, List.count_erase]
    simp [doomed?, List.count_cons]
    omega
  | released envelope' n =>
    rw [(config.holds_setList_activeKey _ _).2.1, List.count_erase]
    simp [doomed?, List.count_cons]
    omega
  | scheduled envelope' next due =>
    by_cases hsame : envelope = envelope'
    · exact .inr (.inr ⟨next, due, by rw [hsame], config.stores_schedule ..⟩)
    · left
      simp [doomed?, Ne.symm hsame]
  | listed | missed | requeued =>
    rw [doomed?_promoting]
    simp [doomed?]
  | _ => simp [doomed?]

/-- What a promotion puts back is stored. -/
theorem stores_of_putsBack (move : Move config world stage e a store stage') (hfits : Fits op stage)
    {n time : Nat} {wall : Int} {envelope : String}
    (h : config.putsBack envelope (.did n op time wall e a)) :
    config.Stores store envelope := by
  cases move with
  | requeued now envelope' due promoted =>
    obtain rfl := fits_requeuing.1 hfits
    obtain rfl : envelope' = envelope := by simpa [QueueConfig.putsBack] using h
    simp [QueueConfig.Stores]
  | refused => simp at h
  | _ => cases op <;> simp_all [Fits, QueueConfig.putsBack]

/-- What an enqueue pushes is stored. -/
theorem stores_of_pushes (move : Move config world stage e a store stage') (hfits : Fits op stage)
    {n time : Nat} {wall : Int} {id : String}
    (h : config.pushes id (.did n op time wall e a)) :
    ∃ envelope, Job.IsEnvelope id envelope ∧ config.Stores store envelope := by
  cases op with
  | enqueue job =>
    cases move with
    | pushed envelope =>
      obtain rfl : job.id = id := by simpa [QueueConfig.pushes] using h
      obtain rfl : envelope = Job.codec.text job := hfits
      exact ⟨_, Job.isEnvelope_text job, by simp [QueueConfig.Stores]⟩
    | refused => simp at h
    | _ => exact absurd hfits (by simp [Fits])
  | _ => cases h

end Move

end QueueStage

/-! ### Runs -/

namespace QueueScene

variable {K : Conditions} {t t' : QueueScene config} {id : String}

/-- The envelopes of which a call is about to remove the copy that is active. -/
def doomed (t : QueueScene config) : List String :=
  t.calls.flatMap fun c => c.stage.doomed?.toList

/-- The envelopes that a call is about to put back. -/
def requeued (t : QueueScene config) : List String :=
  t.calls.flatMap fun c => c.stage.requeued?.toList

/-- Promotions put back nothing but what they have taken off. -/
def Balanced (t : QueueScene config) : Prop :=
  ∀ envelope, t.history.countP (config.putsBack envelope) + t.requeued.count envelope ≤
    t.history.countP (config.takesOff envelope)

/-- An envelope of the job is stored, or has an active copy that is not doomed, or was dropped. -/
def Keeps (t : QueueScene config) (id : String) : Prop :=
  ∃ envelope, Job.IsEnvelope id envelope ∧ (config.Stores t.store envelope ∨
    t.doomed.count envelope < (config.active t.store).count envelope ∨
    t.history.countP (config.putsBack envelope) < t.history.countP (config.takesOff envelope))

theorem Balanced.step (h : Step K t t') (hs : t.Sound) (hb : t.Balanced) : t'.Balanced := by
  intro envelope
  have hb := hb envelope
  cases h with
  | begins op h =>
    simpa [requeued, QueueStage.requeued?_start, List.countP_cons, QueueConfig.putsBack,
      QueueConfig.takesOff] using hb
  | takes op reserved left right h =>
    simpa [requeued, QueueStage.requeued?_start, List.countP_cons, QueueConfig.putsBack,
      QueueConfig.takesOff] using hb
  | @acts world hands begun history world' n op stage stage' e a left right h move =>
    have hfits : QueueStage.Fits op stage := hs.fits ⟨n, op, stage⟩ (by simp)
    have hmove := move.requeued_count hfits n world.elapsed world.wall envelope
    simp only [requeued, List.flatMap_append, List.flatMap_cons, List.count_append,
      List.countP_cons] at hb ⊢
    omega
  | ends n op result left right =>
    simp [requeued, QueueConfig.putsBack, QueueConfig.takesOff] at hb ⊢
    omega
  | panics n op p left right =>
    simp [requeued, QueueConfig.putsBack, QueueConfig.takesOff] at hb ⊢
    omega
  | abandons c left right =>
    simp [requeued, QueueConfig.putsBack, QueueConfig.takesOff] at hb ⊢
    omega
  | drifts h => exact hb

theorem doomed_le_held (t : QueueScene config) (envelope : String) :
    t.doomed.count envelope ≤ t.held.count envelope := by
  rw [held, List.count_append, doomed]
  refine Nat.le_add_left_of_le ?_
  induction t.calls with
  | nil => exact Nat.le_refl _
  | cons c calls ih =>
    have hcall := c.stage.doomed?_le_held? envelope
    simp only [List.flatMap_cons, List.count_append]
    omega

/-! What becomes of an envelope of the job, step by step. -/

section

variable {world world' : World} {calls left right : List QueueCall} {hands : List ReservedJob}
  {begun n : Nat} {history : List (Event config.clients)} {op : QueueOp} {stage stage' : QueueStage}
  {e : Effect} {a : e.Answer} {envelope : String}

/-- A call dooms no envelope of the job as it begins, unless it settles the job. -/
theorem Keeps.begin {hands' : List ReservedJob}
    (hstart : ∀ envelope, Job.IsEnvelope id envelope →
      (QueueStage.start config op).doomed? ≠ some envelope)
    (hk : Keeps (⟨world, calls, hands, begun, history⟩ : QueueScene config) id) :
    Keeps (⟨world, ⟨begun, op, .start config op⟩ :: calls, hands', begun + 1,
      .began begun op :: history⟩ : QueueScene config) id := by
  obtain ⟨envelope, hid, hkept⟩ := hk
  refine ⟨envelope, hid, ?_⟩
  have hcount : (QueueStage.start config op).doomed?.toList.count envelope = 0 := by
    rw [List.count_eq_zero, Option.mem_toList]
    exact hstart envelope hid
  simp [doomed, store, hcount, QueueConfig.putsBack, QueueConfig.takesOff] at hkept ⊢
  exact hkept

/-- A call that goes dooms nothing any more. -/
theorem Keeps.leave {c : QueueCall} {hands' : List ReservedJob} {event : Event config.clients}
    (hputs : ∀ envelope, config.putsBack envelope event = false)
    (htakes : ∀ envelope, config.takesOff envelope event = false)
    (hk : Keeps (⟨world, left ++ c :: right, hands, begun, history⟩ : QueueScene config) id) :
    Keeps (⟨world, left ++ right, hands', begun, event :: history⟩ : QueueScene config) id := by
  obtain ⟨envelope, hid, hkept⟩ := hk
  refine ⟨envelope, hid, ?_⟩
  simp [doomed, store, hputs, htakes] at hkept ⊢
  obtain hstored | hactive | hdropped := hkept
  · exact .inl hstored
  · exact .inr (.inl (by omega))
  · exact .inr (.inr hdropped)

/-- What was stored stays so, or becomes active, or is taken off by a promotion. -/
theorem Keeps.of_stored (move : stage.Move config world e a world'.jobs.store stage')
    (hfits : QueueStage.Fits op stage)
    (hc : Covered (⟨world, left ++ ⟨n, op, stage⟩ :: right, hands, begun, history⟩ : QueueScene config))
    (hb : Balanced (⟨world, left ++ ⟨n, op, stage⟩ :: right, hands, begun, history⟩ : QueueScene config))
    (hid : Job.IsEnvelope id envelope) (hstored : config.Stores world.jobs.store envelope) :
    Keeps (⟨world', left ++ ⟨n, op, stage'⟩ :: right, hands, begun,
      .did n op world.elapsed world.wall e a :: history⟩ : QueueScene config) id := by
  obtain hstored | ⟨hactive, hdoomed⟩ | htaken :=
    move.stores hfits n world.elapsed world.wall hstored
  · exact ⟨envelope, hid, .inl hstored⟩
  · have hheld :=
      doomed_le_held ⟨world, left ++ ⟨n, op, stage⟩ :: right, hands, begun, history⟩ envelope
    have hcovered := hc envelope
    refine ⟨envelope, hid, .inr (.inl ?_)⟩
    simp [doomed, store, hdoomed] at hheld hcovered hactive ⊢
    omega
  · have hbalanced := hb envelope
    have hput := QueueConfig.putsBack_eq_false htaken
    refine ⟨envelope, hid, .inr (.inr ?_)⟩
    simp only [List.countP_cons, htaken, hput] at hbalanced ⊢
    simp
    omega

/-- A copy that was not doomed is still active, or it is a settlement that replaces it, by an envelope
of the same job. -/
theorem Keeps.of_active (move : stage.Move config world e a world'.jobs.store stage')
    (hs : Sound (⟨world, left ++ ⟨n, op, stage⟩ :: right, hands, begun, history⟩ : QueueScene config))
    (hid : Job.IsEnvelope id envelope)
    (hactive : (doomed (⟨world, left ++ ⟨n, op, stage⟩ :: right, hands, begun, history⟩ :
      QueueScene config)).count envelope < (config.active world.jobs.store).count envelope) :
    Keeps (⟨world', left ++ ⟨n, op, stage'⟩ :: right, hands, begun,
      .did n op world.elapsed world.wall e a :: history⟩ : QueueScene config) id := by
  obtain hcount | hstored | ⟨next, due, rfl, hstored⟩ := move.doomed_count envelope
  · refine ⟨envelope, hid, .inr (.inl ?_)⟩
    simp [doomed, store] at hactive hcount ⊢
    omega
  · exact ⟨envelope, hid, .inl hstored⟩
  · have hfits := hs.fits ⟨n, op, .scheduling envelope next due⟩ (by simp)
    obtain ⟨reserved, delay, rfl, rfl, hnext⟩ := QueueStage.fits_scheduling.1 hfits
    have hread : reserved.IsRead :=
      hs.called ⟨n, .retry reserved delay, .scheduling reserved.envelope next due⟩ (by simp) _ rfl
    exact ⟨_, ⟨next, (Job.next_id hnext).trans (hid.id_eq hread), rfl⟩, .inl hstored⟩

/-- What was dropped stays so, until a promotion puts it back. -/
theorem Keeps.of_dropped (move : stage.Move config world e a world'.jobs.store stage')
    (hfits : QueueStage.Fits op stage) (hid : Job.IsEnvelope id envelope)
    (hdropped : history.countP (config.putsBack envelope) <
      history.countP (config.takesOff envelope)) :
    Keeps (⟨world', left ++ ⟨n, op, stage'⟩ :: right, hands, begun,
      .did n op world.elapsed world.wall e a :: history⟩ : QueueScene config) id := by
  by_cases hput : config.putsBack envelope (.did n op world.elapsed world.wall e a) = true
  · exact ⟨envelope, hid, .inl (move.stores_of_putsBack hfits hput)⟩
  · refine ⟨envelope, hid, .inr (.inr ?_)⟩
    simp only [List.countP_cons, hput]
    simp
    omega

end

theorem Keeps.step (h : Step K t t') (hs : t.Sound) (hc : t.Covered) (hb : t.Balanced)
    (hk : config.Owes id t.history → t.Keeps id) (howes : config.Owes id t'.history) : t'.Keeps id := by
  cases h with
  | begins op h =>
    obtain ⟨howes, -⟩ := howes.resolve_left (by simp [QueueConfig.pushes])
    refine Keeps.begin (fun envelope _ hdoomed => ?_) (hk howes)
    obtain ⟨reserved, hneeds, -⟩ := QueueStage.doomed?_start hdoomed 0
    cases h.symm.trans hneeds
  | @takes world calls begun history op reserved left right h =>
    obtain ⟨howes, hsettles⟩ := howes.resolve_left (by simp [QueueConfig.pushes])
    refine Keeps.begin (fun envelope hid hdoomed => ?_) (hk howes)
    -- What the call dooms is not an envelope of the job, or the call would settle the job.
    obtain ⟨reserved', hneeds, rfl, hsettled⟩ := QueueStage.doomed?_start hdoomed begun
    obtain rfl : reserved = reserved' := Option.some.inj (h.symm.trans hneeds)
    have hread : reserved.IsRead := hs.inHand reserved (by simp)
    exact hsettles (hid.id_eq hread ▸ hsettled)
  | @acts world hands begun history world' n op stage stage' e a left right h move =>
    have hfits : QueueStage.Fits op stage := hs.fits ⟨n, op, stage⟩ (by simp)
    obtain hpushes | ⟨howes, -⟩ := howes
    · obtain ⟨envelope, hid, hstored⟩ := move.stores_of_pushes hfits hpushes
      exact ⟨envelope, hid, .inl hstored⟩
    obtain ⟨envelope, hid, hstored | hactive | hdropped⟩ := hk howes
    · exact .of_stored move hfits hc hb hid hstored
    · exact .of_active move hs hid hactive
    · exact .of_dropped move hfits hid hdropped
  | ends n op result left right =>
    obtain ⟨howes, -⟩ := howes.resolve_left (by simp [QueueConfig.pushes])
    exact .leave (fun _ => rfl) (fun _ => rfl) (hk howes)
  | panics n op p left right =>
    obtain ⟨howes, -⟩ := howes.resolve_left (by simp [QueueConfig.pushes])
    exact .leave (fun _ => rfl) (fun _ => rfl) (hk howes)
  | abandons c left right =>
    obtain ⟨howes, -⟩ := howes.resolve_left (by simp [QueueConfig.pushes])
    exact .leave (fun _ => rfl) (fun _ => rfl) (hk howes)
  | drifts h =>
    cases h
    exact hk howes

/-- What a run from a fresh scene of a queue keeps. -/
theorem Run.keeps {world : World} (h : Run K (start config world) t) :
    t.Balanced ∧ ∀ id, config.Owes id t.history → t.Keeps id := by
  induction h with
  | refl => exact ⟨by simp [Balanced, start, requeued], fun _ h => h.elim⟩
  | tail hrun hstep ih =>
    obtain ⟨hs, hc⟩ := Run.invariant hrun
    exact ⟨ih.1.step hstep hs, fun id => Keeps.step hstep hs hc ih.1 (ih.2 id)⟩

end QueueScene

/-- A job that was enqueued and is not settled for good has an envelope in its queue, or promotions have
taken off one of its envelopes more often than they have put it back. -/
theorem QueueConfig.holds_or_drops {K : Conditions} {world : World} {s : Scene config.clients}
    (h : Scene.Reachable K world s) {id : String} (howes : config.Owes id s.history) :
    config.Holds id s.world.jobs.store ∨ config.Drops id s.history := by
  obtain ⟨t, rfl, hrun⟩ := QueueScene.exists_run h
  obtain ⟨envelope, hid, hstored | hactive | hdropped⟩ := (QueueScene.Run.keeps hrun).2 id howes
  · exact .inl ⟨envelope, hid, .inr hstored⟩
  · exact .inl ⟨envelope, hid, .inl (List.count_pos_iff.1 (Nat.zero_lt_of_lt hactive))⟩
  · exact .inr ⟨envelope, hid, hdropped⟩

end JobQueue
