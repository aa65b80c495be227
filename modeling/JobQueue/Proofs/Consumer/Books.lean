import JobQueue.Proofs.Consumer.Users
import JobQueue.Proofs.Queue.Alone
import JobQueue.Proofs.Solo
import JobQueue.Proofs.Weight

/-! The books of a queue: what is counted of its deliveries agrees with what becomes of them. Every effect
of a delivery is an entry in some accounts, and the entries of a delivery that has ended cancel out in each
of them. Whenever no delivery is on its way, all accounts are even. -/

namespace JobQueue

open Time (Duration)

/-! ### Accounts -/

namespace Deed

/-- The dedup gate could not be asked. -/
def refuses : Deed → Bool
  | ⟨.command .jobs (.set _ _ _), .error _⟩ => true
  | _ => false

/-- A request was processed without success. -/
def fails : Deed → Bool
  | ⟨.process _, .error _⟩ => true
  | _ => false

end Deed

namespace Scene

variable {C : Clients}

/-- How often the dedup gate could not be asked. -/
def refusals (history : List (Event C)) : Nat :=
  history.countP (Event.does fun _ d => d.refuses)

/-- How often a request was processed without success. -/
def failures (history : List (Event C)) : Nat :=
  history.countP (Event.does fun _ d => d.fails)

end Scene

/-- What is to be even. -/
inductive Account where
  | deliveries | requests | completions | failures | letters | messages

/-- The entry that a deed makes in an account. -/
def Account.entry (config : QueueConfig) (account : Account) (d : Deed) : ℤ :=
  let counted (kind : JobMetric) : ℤ := (d.metric?.any (· = .job kind config.name)).toNat
  let handed : ℤ := (d.request?.any fun _ => true).toNat
  let recorded : ℤ := ((config.letter? d).any fun _ => true).toNat
  let told : ℤ := (d.message?.any fun _ => true).toNat
  let refused : ℤ := d.refuses.toNat
  let failed : ℤ := d.fails.toNat
  match account with
  | deliveries =>
    counted .delivered - counted .skipped - counted .completed - counted .rejected - counted .failed
  | requests => handed - counted .processed
  | completions => handed - counted .completed - failed
  | failures => counted .failed - refused - failed
  | letters => recorded + counted .unrecorded - counted .rejected - failed
  | messages => told + counted .unpublished - counted .rejected

namespace Account

/-- What a failure enters that is recorded, or counted as missing. -/
def ofLetter : Account → ℤ
  | letters => 1
  | _ => 0

/-- What a rejection enters that is told, or counted as missing. -/
def ofMessage : Account → ℤ
  | messages => 1
  | _ => 0

/-- What a delivery has yet to enter once it was counted itself. -/
def due : Account → ℤ
  | deliveries => -1
  | _ => 0

end Account

section

/-! What every deed of a delivery enters can be read off. -/

attribute [local simp] Account.entry Account.ofLetter Account.ofMessage Account.due Deed.metric?
  Deed.request? Deed.message? Deed.refuses Deed.fails QueueConfig.letter?

/-- The operations of a queue make no entries. -/
theorem Account.entry_of_own (config : QueueConfig) (account : Account) {e : Effect} (h : e.IsOwn config)
    (a : e.Answer) : account.entry config ⟨e, a⟩ = 0 := by
  cases h with
  | clock => cases account <;> rfl
  | count kind h => obtain rfl | rfl := h <;> cases account <;> simp
  | command c hset hpublish hlist =>
    cases c <;> first | exact absurd rfl hset | exact absurd rfl hpublish | cases account <;> rfl

namespace Consumer

open Program

variable (consumer : Consumer) (job : Job) (account : Account)

theorem count_weighs (kind : JobMetric) : (consumer.count kind).Weighs (account.entry consumer.queue)
    (account.entry consumer.queue ⟨.count (.job kind consumer.queue.name), ()⟩) :=
  fun _ => sub_self _

/-- A failure is recorded, or it is counted that it was not. -/
theorem deadLetter_weighs (reason : String) :
    (consumer.deadLetter job reason).Weighs (account.entry consumer.queue) account.ofLetter := by
  intro reading
  cases hread : Clock.recordTime reading with
  | error panic =>
    simp only [hread]
    trivial
  | ok nanos =>
    simp only [hread]
    intro written
    cases written with
    | ok _ =>
      show _ = _
      cases account <;> simp
    | error _ =>
      intro _
      show _ = _
      cases account <;> simp

theorem publishRejection_weighs (error : ValidationError) :
    (consumer.publishRejection job error).Weighs (account.entry consumer.queue) account.ofMessage := by
  intro told
  cases told with
  | ok _ =>
    show _ = _
    cases account <;> simp
  | error _ =>
    intro _
    show _ = _
    cases account <;> simp

theorem reject_weighs (error : ValidationError) :
    (consumer.reject job error).Weighs (account.entry consumer.queue) account.due := by
  refine ((consumer.publishRejection_weighs job account error).bind fun _ =>
    (consumer.deadLetter_weighs job account error.error).bind fun _ =>
      (consumer.count_weighs account .rejected).bind fun _ => weighs_done _).of_eq ?_
  cases account <;> simp

theorem process_weighs (request : JobRequest) :
    (consumer.process job request).Weighs (account.entry consumer.queue) account.due := by
  rw [process_eq]
  intro result
  cases result with
  | ok _ =>
    refine ((consumer.count_weighs account .processed).bind fun _ =>
      (consumer.count_weighs account .completed).bind fun _ => weighs_done _).of_eq ?_
    cases account <;> simp
  | error error =>
    refine ((consumer.count_weighs account .processed).bind fun _ =>
      (consumer.deadLetter_weighs job account error.message).bind fun _ =>
        (consumer.count_weighs account .failed).bind fun _ => weighs_done _).of_eq ?_
    cases account <;> simp

/-- Whatever the dedup gate answers, a delivery that is counted enters what it owes. -/
theorem proceed_weighs (r : Except StoreError Bool) :
    (consumer.proceed job r).Weighs (account.entry consumer.queue)
      (account.due - account.entry consumer.queue ⟨consumer.asks job, r⟩) := by
  match r with
  | .error error =>
    refine ((consumer.count_weighs account .failed).bind fun _ => weighs_done _).of_eq ?_
    cases account <;> simp
  | .ok false =>
    refine ((consumer.count_weighs account .skipped).bind fun _ => weighs_done _).of_eq ?_
    cases account <;> simp
  | .ok true =>
    have hdue : account.due - account.entry consumer.queue ⟨consumer.asks job, .ok true⟩ = account.due := by
      cases account <;> simp
    rw [hdue, proceed]
    cases Validation.validate consumer.maxQueryLength job with
    | error error => exact consumer.reject_weighs job account error
    | ok request => exact consumer.process_weighs job account request

/-- The entries of a delivery cancel out in every account. -/
theorem handle_weighs : (consumer.handle job).Weighs (account.entry consumer.queue) 0 := by
  rw [handle_eq]
  refine fun _ r => (consumer.proceed_weighs job account r).of_eq ?_
  have hcounted : account.entry consumer.queue ⟨.count (.job .delivered consumer.queue.name), ()⟩ =
      -account.due := by
    cases account <;> simp
  rw [hcounted, zero_sub, neg_neg]

end Consumer

end

/-! ### Balances -/

/-- How far a measure of the world has gone up. -/
def World.rise (measure : World → Nat) (before after : World) : ℤ :=
  measure after - measure before

namespace QueueConfig

variable (config : QueueConfig)

/-- How often something of the jobs of a queue was counted. -/
def tally (kind : JobMetric) (world : World) : Nat :=
  world.counts.countP (· = .job kind config.name)

/-- The books of a queue from one moment to another balance, if so many times the dedup gate could not be
asked, and so many times a request was processed without success. -/
structure Books (before after : World) (refused failed : Nat) : Prop where
  deliveries : World.rise (config.tally .delivered) before after =
    World.rise (config.tally .skipped) before after + World.rise (config.tally .completed) before after +
      World.rise (config.tally .rejected) before after + World.rise (config.tally .failed) before after
  requests : World.rise (config.tally .processed) before after =
    World.rise (·.requests.length) before after
  completions : World.rise (·.requests.length) before after =
    World.rise (config.tally .completed) before after + failed
  failures : World.rise (config.tally .failed) before after = refused + failed
  letters : World.rise (config.letters · |>.length) before after +
      World.rise (config.tally .unrecorded) before after =
    World.rise (config.tally .rejected) before after + failed
  messages : World.rise (·.jobs.store.published.length) before after +
      World.rise (config.tally .unpublished) before after =
    World.rise (config.tally .rejected) before after

variable {config} {K : Conditions} {world : World} {s : Scene config.users}

open Scene

/-- No delivery is on its way, and none has panicked or was given up. -/
def AllHandled (history : List (Event config.users)) : Prop :=
  ∀ n window maxQueryLength job, .began n (.handle window maxQueryLength job) ∈ history →
    ∃ reply, .ended n (.handle window maxQueryLength job) reply ∈ history

/-- Operations that run one after another leave no delivery on its way. -/
theorem allHandled_alone {s : Scene config.users} (h : AllHandled s.history) (ops : List UserOp) :
    AllHandled (ops.foldl alone s).history := by
  induction ops generalizing s with
  | nil => exact h
  | cons op ops ih =>
    refine ih ?_
    obtain hsame | ⟨reply, hended, hold, hnew⟩ := history_alone s op
    · rwa [hsame]
    intro n window maxQueryLength job hbegan
    obtain hbegan | ⟨rfl, rfl⟩ := hnew n _ hbegan
    · obtain ⟨reply', hended'⟩ := h n window maxQueryLength job hbegan
      exact ⟨reply', hold hended'⟩
    · exact ⟨reply, hended⟩

/-- Where all deliveries have ended, all accounts are even. -/
theorem account_even (h : Reachable K world s) (hall : AllHandled s.history) (account : Account) :
    total (fun d => account.entry config d) s.history = 0 := by
  refine h.total_eq_zero fun n op hbegan => ?_
  obtain ⟨q, hleads⟩ := h.tracked.exists_leads hbegan
  have hway : (op.program config).Leads (deeds n s.history) q := hleads
  cases op with
  | queue | settle =>
    have hown := UserOp.deeds_own config (by nofun) hway
    refine List.sum_eq_zero fun x hx => ?_
    obtain ⟨d, hd, rfl⟩ := List.mem_map.1 hx
    exact account.entry_of_own config (hown d hd) d.a
  | handle window maxQueryLength job =>
    obtain ⟨reply, hended⟩ := hall n window maxQueryLength job hbegan
    obtain ⟨-, hover, -⟩ := h.tracked.ended n _ reply hended
    obtain ⟨outcome, hhandle, -⟩ := hover.of_map_done
    exact hhandle.sum_eq (Consumer.handle_weighs ⟨config, window, maxQueryLength⟩ job account)

/-- Whenever all deliveries have ended, the books of a queue balance. -/
theorem books_balance (h : Reachable K world s) (hall : AllHandled s.history) :
    config.Books world s.world (refusals s.history) (failures s.history) := by
  have htally (kind : JobMetric) : World.rise (config.tally kind) world s.world =
      total (fun d => (d.metric?.any (· = .job kind config.name)).toNat) s.history := by
    rw [← h.grown World.shows_counts (UserOp.program_use config)]
    simp [World.rise, tally]
  have hrequests : World.rise (·.requests.length) world s.world =
      total (fun d => (d.request?.any fun _ => true).toNat) s.history := by
    rw [← h.grown World.shows_requests (UserOp.program_use config)]
    simp [World.rise]
  have hletters : World.rise (config.letters · |>.length) world s.world =
      total (fun d => ((config.letter? d).any fun _ => true).toNat) s.history := by
    rw [← h.grown shows_letters (UserOp.program_use config)]
    simp [World.rise]
  have hmessages : World.rise (·.jobs.store.published.length) world s.world =
      total (fun d => (d.message?.any fun _ => true).toNat) s.history := by
    rw [← h.grown (World.shows_messages config) (UserOp.program_use config)]
    simp [World.rise]
  have hrefused : total (fun d => d.refuses.toNat) s.history = refusals s.history :=
    total_toNat Deed.refuses s.history
  have hfailed : total (fun d => d.fails.toNat) s.history = failures s.history :=
    total_toNat Deed.fails s.history
  have heven := account_even h hall
  have hdeliveries := heven .deliveries
  have hprocessed := heven .requests
  have hcompletions := heven .completions
  have hfailures := heven .failures
  have hrecorded := heven .letters
  have htold := heven .messages
  simp only [Account.entry, total_sub, total_add, ← htally, ← hrequests, ← hletters, ← hmessages,
    hrefused, hfailed] at hdeliveries hprocessed hcompletions hfailures hrecorded htold
  constructor <;> omega

/-! ### Fixed inputs -/

/-- A world in which the dedup gate fails once, processing gives an error, and no message is published. -/
def sampleBooksWorld : World :=
  { World.new [⟨"q", 0, some "boom"⟩] false 0 with jobs := (Client.empty.stall .set 1).refuse .publish }

/-- A job is delivered three times, and one without a payload once. -/
def sampleDeliveries : List UserOp :=
  [.sample, .sample, .sample, .first "j2" .null].map
    (.handle (.ofSeconds 60) Validation.defaultMaxQueryLength)

/-- What the deliveries lead to, one after another. -/
def sampleHandled : Scene QueueConfig.sample.users :=
  sampleDeliveries.foldl alone (start sampleBooksWorld)

/-- Of four deliveries, one is skipped, one is rejected, and two fail, of which one could not ask the gate. -/
theorem sample_books_balance : Reachable .reliable sampleBooksWorld sampleHandled ∧
    AllHandled sampleHandled.history ∧ QueueConfig.sample.tally .delivered sampleHandled.world = 4 ∧
    QueueConfig.sample.Books sampleBooksWorld sampleHandled.world 1 1 := by
  have hrun : Reachable .reliable sampleBooksWorld sampleHandled := run_of_all_alone fun _ _ => rfl
  have hall : AllHandled sampleHandled.history := allHandled_alone (fun _ _ _ _ h => by cases h) _
  have hrefused : refusals sampleHandled.history = 1 := by decide +kernel
  have hfailed : failures sampleHandled.history = 1 := by decide +kernel
  have hbooks := books_balance hrun hall
  rw [hrefused, hfailed] at hbooks
  exact ⟨hrun, hall, by decide +kernel, hbooks⟩

end QueueConfig

end JobQueue
