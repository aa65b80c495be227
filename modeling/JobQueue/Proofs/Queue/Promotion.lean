import JobQueue.Proofs.Queue.Alone

/-! How promotions wait: one that begins after an envelope is scheduled takes it off only once its time
has come, even if other calls schedule the envelope again for that time or a later one. -/

namespace JobQueue

variable {config : QueueConfig}

/-- An envelope is scheduled for less than a given time. -/
def QueueConfig.schedulesBefore (config : QueueConfig) (envelope : String) (due : Int) :
    Event config.clients → Bool
  | .did _ _ _ _ (.command _ (.zadd _ member score)) (.ok _) => member == envelope && score < due
  | _ => false

namespace QueueStage

/-- The last reading of the clock that a record can have, in milliseconds, is less than this. -/
def clockEnd : Int := Clock.calendarEnd / Time.nanosPerMilli

/-- A promotion at this stage takes an envelope off only if the clock, which shows `wall`, has come to
a certain time. -/
def Withholds (envelope : String) (least wall : Int) : QueueStage → Prop
  | listing now => 0 ≤ now ∧ now < clockEnd ∧ now ≤ wall / Time.nanosPerMilli
  | removing _ next due _ => envelope ∈ next :: due → least < clockEnd ∧ least ≤ wall / Time.nanosPerMilli
  | requeuing _ _ due _ => envelope ∈ due → least < clockEnd ∧ least ≤ wall / Time.nanosPerMilli
  | _ => True

variable {world : World} {stage stage' : QueueStage} {e : Effect} {a : e.Answer} {store : Store}
  {envelope : String} {least due : Int}

theorem withholds_start (config : QueueConfig) (op : QueueOp) (wall : Int) :
    (start config op).Withholds envelope least wall := by
  cases op with
  | complete reserved => cases hkeeps : config.keepsCompleted <;> simp [start, hkeeps, Withholds]
  | fail reserved => cases hkeeps : config.keepsFailed <;> simp [start, hkeeps, Withholds]
  | retry reserved delay => cases hnext : reserved.job.next <;> simp [start, hnext, Withholds]
  | _ => trivial

theorem withholds_promoting {now wall : Int} {envelopes : List String} {promoted : Nat}
    (h : envelope ∈ envelopes → least < clockEnd ∧ least ≤ wall / Time.nanosPerMilli) :
    (promoting now envelopes promoted).Withholds envelope least wall := by
  cases envelopes with
  | nil => trivial
  | cons next envelopes => exact h

/-- The clock may go on. -/
theorem Withholds.mono {wall wall' : Int} (hle : wall ≤ wall')
    (h : stage.Withholds envelope least wall) : stage.Withholds envelope least wall' := by
  have hmillis : wall / Time.nanosPerMilli ≤ wall' / Time.nanosPerMilli :=
    Int.ediv_le_ediv (by decide) hle
  cases stage with
  | listing now => exact ⟨h.1, h.2.1, Int.le_trans h.2.2 hmillis⟩
  | removing now next envelopes promoted =>
    exact fun hmem => ⟨(h hmem).1, Int.le_trans (h hmem).2 hmillis⟩
  | requeuing now next envelopes promoted =>
    exact fun hmem => ⟨(h hmem).1, Int.le_trans (h hmem).2 hmillis⟩
  | _ => trivial

theorem Move.withholds (move : Move config world stage e a store stage')
    (hdelayed : ∀ score, (score, envelope) ∈ config.delayed world.jobs.store → least ≤ score)
    (h : stage.Withholds envelope least world.wall) : stage'.Withholds envelope least world.wall := by
  cases move with
  | looked nanos hread =>
    obtain ⟨hwall, hpos, hend⟩ := Clock.recordTime_eq_ok.1 hread
    rw [Withholds, hwall]
    simp only [clockEnd, Clock.calendarEnd, Time.nanosPerSecond, Time.nanosPerMilli] at *
    omega
  | listed now envelopes hlisted =>
    obtain ⟨hpos, hend, hwall⟩ := h
    have hlimit : now ≤ Word.signedMax64 := by
      simp only [clockEnd, Clock.calendarEnd, Time.nanosPerSecond, Time.nanosPerMilli,
        Word.signedMax64] at *
      omega
    rw [Store.boundScore_intDigits (Int.le_trans (by decide) hpos) hlimit] at hlisted
    refine withholds_promoting fun hmem => ?_
    obtain ⟨score, hscore, -, hdue⟩ := Store.mem_membersWithin.1 (hlisted ▸ hmem)
    have hleast := hdelayed score hscore
    omega
  | removed now next envelopes promoted hpresent => exact fun hmem => h (.tail _ hmem)
  | missed now next envelopes promoted habsent => exact withholds_promoting fun hmem => h (.tail _ hmem)
  | requeued now next envelopes promoted => exact withholds_promoting h
  | _ => trivial

/-- What is delayed was delayed before, or it has just been scheduled. -/
theorem Move.of_mem_delayed (move : Move config world stage e a store stage') {score : Int}
    (h : (score, envelope) ∈ config.delayed store) (n time : Nat) (op : QueueOp) (wall : Int) :
    (score, envelope) ∈ config.delayed world.jobs.store ∨
      (.did n op time wall e a : Event config.clients) =
          .did n op time wall (.command .jobs (.zadd config.delayedKey envelope score)) (.ok ()) ∧
        ∃ held next, stage = scheduling held next score := by
  cases move with
  | reserved envelope' job hlast | unreadable envelope' fault hlast =>
    rw [(config.holds_rotate _ hlast).2.2.2] at h
    exact .inl h
  | scheduled held next due =>
    rw [(config.holds_setSorted_delayedKey _ _).2.2.2, Store.mem_insertScored,
      Store.mem_withoutMember] at h
    obtain hnew | ⟨hold, -⟩ := h
    · obtain ⟨rfl, rfl⟩ := Prod.mk.inj hnew
      exact .inr ⟨rfl, held, next, rfl⟩
    · exact .inl hold
  | removed now next envelopes promoted hpresent | missed now next envelopes promoted habsent =>
    rw [(config.holds_setSorted_delayedKey _ _).2.2.2, Store.mem_withoutMember] at h
    exact .inl h.1
  | _ => exact .inl (by simpa using h)

/-- Nothing is scheduled for less than a time unless an event says so. -/
theorem Move.delayed (move : Move config world stage e a store stage') (hle : least ≤ due)
    {n time : Nat} {op : QueueOp} {wall : Int}
    (hevent : config.schedulesBefore envelope due (.did n op time wall e a) = false)
    (hdelayed : ∀ score, (score, envelope) ∈ config.delayed world.jobs.store → least ≤ score) :
    ∀ score, (score, envelope) ∈ config.delayed store → least ≤ score := by
  intro score hscore
  obtain hold | ⟨hadds, -⟩ := move.of_mem_delayed hscore n time op wall
  · exact hdelayed score hold
  · have hlate : due ≤ score := by simpa [hadds, QueueConfig.schedulesBefore] using hevent
    exact Int.le_trans hle hlate

/-- What is scheduled is delayed for that time and for no other one. -/
theorem Move.scheduled_only (move : Move config world stage e a store stage') {n time : Nat} {op : QueueOp}
    {wall score : Int}
    (hevent : (.did n op time wall e a : Event config.clients) =
      .did n op time wall (.command .jobs (.zadd config.delayedKey envelope score)) (.ok ())) :
    (∃ held next, stage = scheduling held next score) ∧
      ∀ score', (score', envelope) ∈ config.delayed store → score' = score := by
  cases move with
  | scheduled held next due =>
    cases hevent
    refine ⟨⟨held, next, rfl⟩, fun score' hmem => ?_⟩
    rw [(config.holds_setSorted_delayedKey _ _).2.2.2, Store.mem_insertScored,
      Store.mem_withoutMember] at hmem
    obtain hnew | ⟨-, hne⟩ := hmem
    · exact (Prod.mk.inj hnew).1
    · exact absurd rfl hne
  | _ => cases hevent

/-- What is taken off is what the stage was to take off. -/
theorem Move.withheld (move : Move config world stage e a store stage')
    (h : stage.Withholds envelope least world.wall) {n m time time' : Nat} {op : QueueOp} {wall : Int}
    (hevent : (.did n op time wall e a : Event config.clients) =
      .did m .promoteDue time' world.wall (.command .jobs (.zrem config.delayedKey envelope)) (.ok true)) :
    least < clockEnd ∧ least ≤ world.wall / Time.nanosPerMilli := by
  cases move with
  | removed now next envelopes promoted hpresent =>
    obtain rfl : next = envelope := by cases hevent; rfl
    exact h (.head _)
  | _ => cases hevent

end QueueStage

namespace QueueScene

open QueueStage (clockEnd)

variable {K : Conditions} {t t' : QueueScene config} {envelope : String} {least due : Int} {first : Nat}

/-- From a certain call on, promotions take an envelope off only once the clock has come to a certain
time. -/
structure Withholds (t : QueueScene config) (envelope : String) (least : Int) (first : Nat) : Prop where
  delayed : ∀ score, (score, envelope) ∈ config.delayed t.store → least ≤ score
  calls : ∀ c ∈ t.calls, first ≤ c.number → c.stage.Withholds envelope least t.world.wall
  begun : first ≤ t.begun

/-- What has happened since then. -/
structure Withheld (config : QueueConfig) (envelope : String) (least : Int) (first : Nat)
    (events : List (Event config.clients)) : Prop where
  began : ∀ n op, .began n op ∈ events → first ≤ n
  taken : ∀ n time wall, first ≤ n →
    .did n .promoteDue time wall (.command .jobs (.zrem config.delayedKey envelope)) (.ok true) ∈ events →
      least < clockEnd ∧ least ≤ wall / Time.nanosPerMilli

theorem Step.wall_le (hforward : ∀ before nanos after, K.clock before nanos after → before ≤ after)
    (h : Step K t t') : t.world.wall ≤ t'.world.wall := by
  cases h with
  | acts n op stage stage' e a left right h move => exact Int.le_of_eq h.clocks.1.symm
  | drifts h =>
    obtain ⟨wall, nanos, rules, h⟩ := h
    exact hforward _ _ _ h
  | _ => exact Int.le_refl _

theorem Withholds.step (hforward : ∀ before nanos after, K.clock before nanos after → before ≤ after)
    (h : Step K t t') (hle : least ≤ due)
    (hevents : ∀ event, t'.history = event :: t.history → config.schedulesBefore envelope due event = false)
    (hw : t.Withholds envelope least first) : t'.Withholds envelope least first := by
  refine ⟨?_, fun c hc hfirst => ?_, Nat.le_trans hw.begun h.begun_le⟩
  · cases h with
    | acts n op stage stage' e a left right h move =>
      exact move.delayed hle (hevents _ rfl) hw.delayed
    | drifts h =>
      cases h
      exact hw.delayed
    | _ => exact hw.delayed
  · refine QueueStage.Withholds.mono (h.wall_le hforward) ?_
    obtain hold | ⟨hnew, -⟩ | ⟨stage, e, a, hold, -, move, -⟩ := h.of_mem_calls hc
    · exact hw.calls c hold hfirst
    · rw [hnew]
      exact QueueStage.withholds_start config c.op t.world.wall
    · exact move.withholds hw.delayed (hw.calls ⟨c.number, c.op, stage⟩ hold hfirst)

theorem Withheld.step (h : Step K t t') (hw : t.Withholds envelope least first)
    {events : List (Event config.clients)} (hh : Withheld config envelope least first events)
    {event : Event config.clients} (hevent : t'.history = event :: t.history) :
    Withheld config envelope least first (event :: events) := by
  refine ⟨fun n op hmem => ?_, fun n time wall hfirst hmem => ?_⟩
  · obtain rfl | hmem := List.mem_cons.1 hmem
    · cases h with
      | begins op h | takes op reserved left right h =>
        cases hevent
        exact hw.begun
      | drifts => exact absurd hevent.symm (List.cons_ne_self _ _)
      | _ => cases hevent
    · exact hh.began n op hmem
  · obtain rfl | hmem := List.mem_cons.1 hmem
    · cases h with
      | acts n' op stage stage' e a left right h move =>
        obtain ⟨rfl, rfl, rfl, rfl, -⟩ := Event.did.inj (List.cons.inj hevent).1
        exact move.withheld (hw.calls ⟨n', .promoteDue, stage⟩ (by simp) hfirst) (List.cons.inj hevent).1
      | drifts => exact absurd hevent.symm (List.cons_ne_self _ _)
      | _ => cases hevent
    · exact hh.taken n time wall hfirst hmem

/-- Promotions that begin after an envelope is scheduled wait for its time. -/
theorem Run.withheld (hforward : ∀ before nanos after, K.clock before nanos after → before ≤ after)
    (h : Run K t t') (hle : least ≤ due) (hw : t.Withholds envelope least first) :
    ∃ later, t'.history = later ++ t.history ∧
      ((∀ event ∈ later, config.schedulesBefore envelope due event = false) →
        t'.Withholds envelope least first ∧ Withheld config envelope least first later) := by
  induction h with
  | refl => exact ⟨[], rfl, fun _ => ⟨hw, by simp, by simp⟩⟩
  | @tail s s' _ hstep ih =>
    obtain ⟨later, hlater, ih⟩ := ih
    obtain hsame | ⟨event, hadds⟩ := hstep.history
    · refine ⟨later, hsame.trans hlater, fun hevents => ?_⟩
      obtain ⟨hwithholds, hwithheld⟩ := ih hevents
      refine ⟨hwithholds.step hforward hstep hle (fun event hevent => ?_), hwithheld⟩
      exact absurd (hsame.symm.trans hevent).symm (List.cons_ne_self _ _)
    · refine ⟨event :: later, by rw [hadds, hlater, List.cons_append], fun hevents => ?_⟩
      rw [List.forall_mem_cons] at hevents
      obtain ⟨hwithholds, hwithheld⟩ := ih hevents.2
      refine ⟨hwithholds.step hforward hstep hle (fun event' hevent => ?_),
        hwithheld.step hstep hwithholds hadds⟩
      obtain rfl := (List.cons.inj (hadds.symm.trans hevent)).1
      exact hevents.1

end QueueScene

end JobQueue
