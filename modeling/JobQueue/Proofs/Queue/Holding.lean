import JobQueue.Proofs.Queue.Staged

/-! What the calls on a queue hold: every delivery that is in hand, or that a call has yet to release,
has a copy of its own among the active ones. -/

namespace JobQueue

open Time (Duration)

variable {config : QueueConfig}

namespace ReservedJob

/-- A delivery as it was taken off a queue: its job is what its envelope says. -/
def IsRead (reserved : ReservedJob) : Prop :=
  Job.codec.ofText reserved.envelope = .ok reserved.job

end ReservedJob

namespace QueueStage

/-- The stages that an operation can go through. -/
def Fits : QueueOp → QueueStage → Prop
  | .enqueue job, pushing envelope => envelope = Job.codec.text job
  | .dequeue, popping => True
  | .dequeue, burying _ _ => True
  | .dequeue, clearing _ _ => True
  | .dequeue, done (.ok (.reserved (some reserved))) => reserved.IsRead
  | .complete reserved, archiving envelope => envelope = reserved.envelope
  | .complete reserved, releasing envelope => envelope = reserved.envelope
  | .fail reserved, keeping envelope => envelope = reserved.envelope
  | .fail reserved, releasing envelope => envelope = reserved.envelope
  | .retry reserved delay, dating envelope next delay' =>
    envelope = reserved.envelope ∧ reserved.job.next = .ok next ∧ delay' = delay
  | .retry reserved _, scheduling envelope next _ =>
    envelope = reserved.envelope ∧ reserved.job.next = .ok next
  | .retry reserved _, releasing envelope => envelope = reserved.envelope
  | .retry _ _, broken _ => True
  | .promoteDue, looking => True
  | .promoteDue, listing _ => True
  | .promoteDue, removing .. => True
  | .promoteDue, requeuing .. => True
  | .promoteDue, broken _ => True
  | .promoteDue, done (.ok (.promoted _)) => True
  | _, done (.ok .nothing) => True
  | _, done (.ok (.reserved none)) => True
  | _, done (.error _) => True
  | _, _ => False

theorem fits_start (op : QueueOp) : Fits op (start config op) := by
  cases op with
  | enqueue job => rfl
  | dequeue => trivial
  | complete reserved =>
    cases hkeeps : config.keepsCompleted <;> simp [start, hkeeps, Fits]
  | fail reserved =>
    cases hkeeps : config.keepsFailed <;> simp [start, hkeeps, Fits]
  | retry reserved delay =>
    cases hnext : reserved.job.next <;> simp [start, hnext, Fits]
  | promoteDue => trivial

theorem fits_done_error (op : QueueOp) (error : QueueError) : Fits op (done (.error error)) := by
  cases op <;> trivial

theorem fits_promoting (now : Int) (due : List String) (promoted : Nat) :
    Fits .promoteDue (promoting now due promoted) := by
  cases due <;> trivial

theorem fits_listing {op : QueueOp} {now : Int} : Fits op (listing now) ↔ op = .promoteDue := by
  cases op <;> simp [Fits]

theorem fits_removing {op : QueueOp} {now : Int} {envelope : String} {due : List String}
    {promoted : Nat} : Fits op (removing now envelope due promoted) ↔ op = .promoteDue := by
  cases op <;> simp [Fits]

theorem fits_requeuing {op : QueueOp} {now : Int} {envelope : String} {due : List String}
    {promoted : Nat} : Fits op (requeuing now envelope due promoted) ↔ op = .promoteDue := by
  cases op <;> simp [Fits]

theorem fits_scheduling {op : QueueOp} {envelope : String} {next : Job} {due : Int} :
    Fits op (scheduling envelope next due) ↔
      ∃ reserved delay, op = .retry reserved delay ∧ envelope = reserved.envelope ∧
        reserved.job.next = .ok next := by
  cases op <;> simp [Fits]

/-- A move leads to a stage of the same operation. -/
theorem Move.fits {world : World} {op : QueueOp} {stage stage' : QueueStage} {e : Effect}
    {a : e.Answer} {store : Store} (move : Move config world stage e a store stage')
    (h : Fits op stage) : Fits op stage' := by
  cases move with
  | refused _ _ error => exact fits_done_error op (.store error)
  | reserved _ _ _ hjob =>
    cases op with
    | dequeue => exact hjob
    | _ => simp [Fits] at h
  | listed now due =>
    obtain rfl := fits_listing.1 h
    exact fits_promoting ..
  | missed now envelope due promoted =>
    obtain rfl := fits_removing.1 h
    exact fits_promoting ..
  | requeued now envelope due promoted =>
    obtain rfl := fits_requeuing.1 h
    exact fits_promoting ..
  | _ => cases op <;> simp_all [Fits]

/-- The envelope of which a stage has yet to release a copy, or is about to hand one over. -/
def held? : QueueStage → Option String
  | burying envelope _ => some envelope
  | clearing envelope _ => some envelope
  | archiving envelope => some envelope
  | keeping envelope => some envelope
  | releasing envelope => some envelope
  | dating envelope _ _ => some envelope
  | scheduling envelope _ _ => some envelope
  | done (.ok (.reserved (some reserved))) => some reserved.envelope
  | _ => none

@[simp] theorem held?_promoting (now : Int) (due : List String) (promoted : Nat) :
    (promoting now due promoted).held? = none := by
  cases due <;> rfl

/-- What a stage comes to hold is put among the active ones, and only what it held is removed. -/
theorem Move.active_count {world : World} {stage stage' : QueueStage} {e : Effect}
    {a : e.Answer} {store : Store} (move : Move config world stage e a store stage')
    (envelope : String) :
    (config.active world.jobs.store).count envelope + stage'.held?.toList.count envelope ≤
      (config.active store).count envelope + stage.held?.toList.count envelope := by
  cases move with
  | reserved envelope' job h =>
    rw [(config.holds_rotate _ h).2.1]
    simp [held?, List.count_cons]
  | unreadable envelope' fault h =>
    rw [(config.holds_rotate _ h).2.1]
    simp [held?, List.count_cons]
  | cleared envelope' fault n =>
    rw [(config.holds_setList_activeKey _ _).2.1, List.count_erase]
    simp [held?, List.count_cons]
    omega
  | released envelope' n =>
    rw [(config.holds_setList_activeKey _ _).2.1, List.count_erase]
    simp [held?, List.count_cons]
    omega
  | listed | missed | requeued =>
    rw [held?_promoting]
    simp [held?]
  | _ => simp [held?]

theorem held?_start (config : QueueConfig) (op : QueueOp) (envelope : String) :
    (start config op).held?.toList.count envelope ≤
      (op.needs.map ReservedJob.envelope).toList.count envelope := by
  cases op with
  | enqueue job => simp [start, held?]
  | dequeue => simp [start, held?]
  | complete reserved => cases hkeeps : config.keepsCompleted <;> simp [start, hkeeps, held?, QueueOp.needs]
  | fail reserved => cases hkeeps : config.keepsFailed <;> simp [start, hkeeps, held?, QueueOp.needs]
  | retry reserved delay => cases hnext : reserved.job.next <;> simp [start, hnext, held?, QueueOp.needs]
  | promoteDue => simp [start, held?]

end QueueStage

namespace QueueScene

variable {K : Conditions} {t t' : QueueScene config}

/-- Every call stands at a stage of its operation, and deliveries are as they were taken off. -/
structure Sound (t : QueueScene config) : Prop where
  fits : ∀ c ∈ t.calls, QueueStage.Fits c.op c.stage
  called : ∀ c ∈ t.calls, ∀ reserved, c.op.needs = some reserved → reserved.IsRead
  inHand : ∀ reserved ∈ t.hands, reserved.IsRead

theorem sound_start (world : World) : (start config world).Sound :=
  ⟨by simp [start], by simp [start], by simp [start]⟩

/-- The delivery that the end of a call puts in hand. -/
theorem Sound.gains {op : QueueOp} {result : QueueOp.Result} (h : QueueStage.Fits op (.done result))
    {reserved : ReservedJob} (hgains : op.gains result = some reserved) : reserved.IsRead := by
  cases op with
  | dequeue =>
    obtain _ | _ | ⟨_ | _⟩ | _ := result <;> cases hgains
    exact h
  | _ => cases hgains

theorem Sound.step (h : Step K t t') (hs : t.Sound) : t'.Sound := by
  obtain ⟨hfits, hcalled, hhands⟩ := hs
  refine ⟨fun c hc => ?_, fun c hc reserved hneeds => ?_, ?_⟩
  · obtain hold | ⟨hnew, -⟩ | ⟨stage, e, a, hold, -, move, -⟩ := h.of_mem_calls hc
    · exact hfits c hold
    · rw [hnew]
      exact QueueStage.fits_start c.op
    · exact move.fits (hfits _ hold)
  · obtain hold | ⟨-, -, hnew⟩ | ⟨stage, e, a, hold, -⟩ := h.of_mem_calls hc
    · exact hcalled c hold reserved hneeds
    · exact hhands reserved (hnew reserved hneeds)
    · exact hcalled _ hold reserved hneeds
  · cases h with
    | takes op reserved left right h =>
      simp only [List.forall_mem_append, List.forall_mem_cons] at hhands ⊢
      exact ⟨hhands.1, hhands.2.2⟩
    | ends n op result left right =>
      simp only [List.forall_mem_append, Option.mem_toList]
      exact ⟨fun _ h => Sound.gains (hfits ⟨n, op, .done result⟩ (by simp)) h, hhands⟩
    | _ => exact hhands

/-- The envelopes of the deliveries in hand, and of those that calls have yet to release. -/
def held (t : QueueScene config) : List String :=
  t.hands.map ReservedJob.envelope ++ t.calls.flatMap fun c => c.stage.held?.toList

/-- Every delivery that is held has a copy of its own among the active ones. -/
def Covered (t : QueueScene config) : Prop :=
  ∀ envelope, t.held.count envelope ≤ (config.active t.store).count envelope

theorem covered_start (world : World) : (start config world).Covered := by
  simp [Covered, start, held]

theorem gains_count (op : QueueOp) (result : QueueOp.Result) (envelope : String) :
    ((op.gains result).toList.map ReservedJob.envelope).count envelope ≤
      (QueueStage.done result).held?.toList.count envelope := by
  cases op with
  | dequeue => obtain _ | _ | ⟨_ | _⟩ | _ := result <;> simp [QueueOp.gains, QueueStage.held?]
  | _ => simp [QueueOp.gains]

theorem Covered.step (h : Step K t t') (hc : t.Covered) : t'.Covered := by
  intro envelope
  have hc := hc envelope
  cases h with
  | begins op h =>
    have hstart := QueueStage.held?_start config op envelope
    simp [held, store, h, List.count_append] at hc hstart ⊢
    omega
  | takes op reserved left right h =>
    have hstart := QueueStage.held?_start config op envelope
    simp [held, store, h, List.count_append, List.count_cons] at hc hstart ⊢
    omega
  | acts n op stage stage' e a left right h move =>
    have hmove := move.active_count envelope
    simp [held, store, List.count_append] at hc ⊢
    omega
  | ends n op result left right =>
    have hgains := gains_count op result envelope
    simp [held, store, List.count_append] at hc hgains ⊢
    omega
  | panics n op p left right =>
    simp [held, store, List.count_append] at hc ⊢
    omega
  | abandons c left right =>
    simp [held, store, List.count_append] at hc ⊢
    omega
  | drifts h =>
    cases h
    exact hc

/-- What a run from a fresh scene of a queue leads to. -/
theorem Run.invariant {world : World} (h : Run K (start config world) t) : t.Sound ∧ t.Covered := by
  induction h with
  | refl => exact ⟨sound_start world, covered_start world⟩
  | tail _ hstep ih => exact ⟨ih.1.step hstep, ih.2.step hstep⟩

end QueueScene

end JobQueue
