import JobQueue.Proofs.View
import JobQueue.Proofs.Worker.Deliveries

/-! All that is done with one queue: its operations, in any order and with any deliveries, and deliveries that
are handled by consumers with settings of their own. What this leaves is kept in four places, to each of
which only one kind of effect adds anything: the requests, the counts, the messages, and the dead letters. -/

namespace JobQueue

open Time (Duration)

/-! ### The users of a queue -/

inductive UserOp where
  | queue (op : QueueOp)
  | handle (window : Duration) (maxQueryLength : Nat) (job : Job)
  | settle (reserved : ReservedJob) (outcome : Outcome)

inductive UserReply where
  | did (result : QueueOp.Result)
  | handled (outcome : Outcome)
  | settled (result : Except QueueError Unit)

def UserOp.program (config : QueueConfig) : UserOp → Program UserReply
  | queue op => (op.program config).bind fun r => .done (.did r)
  | handle window maxQueryLength job =>
    (Consumer.handle ⟨config, window, maxQueryLength⟩ job).bind fun outcome => .done (.handled outcome)
  | settle reserved outcome => (Queue.settle config reserved outcome).run.bind fun r => .done (.settled r)

/-- Clients that use a queue in any way. Nothing has to be in hand for any operation. -/
abbrev QueueConfig.users (config : QueueConfig) : Clients where
  Op := UserOp
  Reply := UserReply
  Thing := Empty
  program := UserOp.program config
  needs _ := none
  gains _ _ := none

/-! ### Effects -/

/-- What the operations of a queue do. They set no value, publish nothing, and leave the dead letters as
they are. -/
inductive Effect.IsOwn (config : QueueConfig) : Effect → Prop where
  | clock : IsOwn config .clock
  | count (kind : JobMetric) (h : kind = .retried ∨ kind = .exhausted) :
      IsOwn config (.count (.job kind config.name))
  | command (c : Command) (hset : c.verb ≠ .set) (hpublish : c.verb ≠ .publish)
      (hlist : c.changesList config.deadLetterKey = false) : IsOwn config (.command .jobs c)

/-- What is done with a queue by any of its users. -/
inductive Effect.IsUse (config : QueueConfig) : Effect → Prop where
  | own {e : Effect} (h : e.IsOwn config) : IsUse config e
  | aside {e : Effect} (h : e.IsAside config) : IsUse config e
  | ask (key value : String) (seconds : Nat) : IsUse config (.command .jobs (.set key value seconds))
  | process (request : JobRequest) : IsUse config (.process request)

theorem QueueAction.each_map {α β : Type} {P : Effect → Prop} {x : QueueAction α} (f : α → β)
    (h : x.run.Each P) : (f <$> x).run.Each P :=
  Program.Each.bind h fun r => by cases r <;> trivial

/-- What holds of every single effect of a queue holds of all its operations. -/
theorem QueueOp.program_each {config : QueueConfig} {P : Effect → Prop} (hquiet : Queue.Quiet config P)
    (hpush : ∀ envelope, P (.command .jobs (.lpush config.waitKey envelope)))
    (hschedule : ∀ envelope due, P (.command .jobs (.zadd config.delayedKey envelope due)))
    (hlist : ∀ now : Int,
      P (.command .jobs (.zrangebyscore config.delayedKey "-inf" (String.ofList (Text.intDigits now)))))
    (hremove : ∀ envelope, P (.command .jobs (.zrem config.delayedKey envelope))) (op : QueueOp) :
    (op.program config).Each P := by
  cases op with
  | enqueue job => exact QueueAction.each_map _ (Queue.enqueue_each config job (hpush _))
  | dequeue => exact QueueAction.each_map _ hquiet.dequeue_each
  | complete reserved => exact QueueAction.each_map _ (hquiet.complete_each reserved)
  | fail reserved => exact QueueAction.each_map _ (hquiet.fail_each reserved)
  | retry reserved delay =>
    exact QueueAction.each_map _ (hquiet.retry_each reserved delay fun _ _ => hschedule _ _)
  | promoteDue =>
    exact QueueAction.each_map _ (Queue.promoteDue_each config hquiet.clock hlist hremove hpush)

section

variable (config : QueueConfig)

theorem Queue.own_quiet : Quiet config (Effect.IsOwn config) where
  clock := .clock
  count kind h := .count kind h
  pop := by
    refine .command _ nofun nofun ?_
    simp [Command.changesList, QueueConfig.waitKey, QueueConfig.activeKey, QueueConfig.deadLetterKey,
      QueueConfig.key_eq_iff]
  archive _ := .command _ nofun nofun (config.key_beq_false (by decide))
  bury _ := .command _ nofun nofun (config.key_beq_false (by decide))
  release _ := .command _ nofun nofun (config.key_beq_false (by decide))

theorem Queue.own_lpush (envelope : String) :
    Effect.IsOwn config (.command .jobs (.lpush config.waitKey envelope)) :=
  .command _ nofun nofun (config.key_beq_false (by decide))

theorem Queue.own_zadd (envelope : String) (due : Int) :
    Effect.IsOwn config (.command .jobs (.zadd config.delayedKey envelope due)) :=
  .command _ nofun nofun rfl

theorem QueueOp.program_own (op : QueueOp) : (op.program config).Each (Effect.IsOwn config) :=
  program_each (Queue.own_quiet config) (Queue.own_lpush config) (Queue.own_zadd config)
    (fun _ => .command _ nofun nofun rfl) (fun _ => .command _ nofun nofun rfl) op

theorem Queue.settle_own (reserved : ReservedJob) (outcome : Outcome) :
    (settle config reserved outcome).run.Each (Effect.IsOwn config) :=
  Settlement.perform_each config reserved (own_quiet config) _ fun _ _ _ => own_zadd config _ _

/-- Whoever does not handle a delivery does what the operations of a queue do. -/
theorem UserOp.program_own {op : UserOp}
    (hop : ∀ window maxQueryLength job, op ≠ .handle window maxQueryLength job) :
    (op.program config).Each (Effect.IsOwn config) := by
  cases op with
  | queue op => exact (op.program_own config).bind fun _ => trivial
  | handle window maxQueryLength job => exact absurd rfl (hop window maxQueryLength job)
  | settle reserved outcome => exact (Queue.settle_own config reserved outcome).bind fun _ => trivial

theorem UserOp.deeds_own {op : UserOp}
    (hop : ∀ window maxQueryLength job, op ≠ .handle window maxQueryLength job) {deeds : List Deed}
    {q : Program UserReply} (h : (op.program config).Leads deeds q) : ∀ d ∈ deeds, d.e.IsOwn config :=
  (h.each (program_own config hop)).2

theorem UserOp.program_use (op : UserOp) : (op.program config).Each (Effect.IsUse config) := by
  cases op with
  | handle window maxQueryLength job =>
    exact (Consumer.handle_each ⟨config, window, maxQueryLength⟩ job (fun _ => .aside) (.ask _ _ _)
      .process).bind fun _ => trivial
  | queue | settle => exact Program.Each.mono (fun _ => .own) (program_own config (by nofun))

end

/-! ### Messages and dead letters -/

/-- A message that is published. -/
def Deed.message? : Deed → Option (String × String)
  | ⟨.command .jobs (.publish channel message), .ok _⟩ => some (channel, message)
  | _ => none

theorem Effect.IsUse.messages_or_spares {config : QueueConfig} {e : Effect} (h : e.IsUse config) :
    (∃ channel message, e = .command .jobs (.publish channel message)) ∨
      ∀ site c, e = .command site c → c.verb ≠ .publish := by
  cases h with
  | own h =>
    right
    rintro site c rfl
    cases h
    assumption
  | aside h =>
    cases h with
    | publish channel message => exact .inl ⟨channel, message, rfl⟩
    | record entry => exact .inr fun site c heq => by cases heq; nofun
    | count | clock => exact .inr nofun
  | ask => exact .inr fun site c heq => by cases heq; nofun
  | process => exact .inr nofun

theorem Deed.message?_of_verb {e : Effect} (hverb : ∀ site c, e = .command site c → c.verb ≠ .publish)
    (a : e.Answer) : message? ⟨e, a⟩ = none := by
  cases e with
  | command site c =>
    cases c with
    | publish channel message => exact absurd rfl (hverb _ _ rfl)
    | _ => cases site <;> rfl
  | _ => rfl

/-- The messages that were published are those of the deeds. -/
theorem World.shows_messages (config : QueueConfig) :
    Shows (Effect.IsUse config) (fun world => world.jobs.store.published) Deed.message? where
  acts {failing world world' e a} he happened := by
    obtain ⟨channel, message, rfl⟩ | hverb := he.messages_or_spares
    · obtain ⟨error, rfl, hsame⟩ | ⟨a, store, rfl, hrun, rfl⟩ := happened.jobs
      · simp [hsame, Deed.message?]
      · simp [Deed.message?, ← (Prod.mk.inj (Except.ok.inj hrun)).2]
    · have hsame : world'.jobs.store.published = world.jobs.store.published :=
        happened.published_eq .jobs hverb
      simp [hsame, Deed.message?_of_verb hverb a]
  breaks _ happened := congrArg Store.published (happened.client_store_of_error .jobs)
  drifts h := by
    cases h
    rfl

namespace QueueConfig

variable (config : QueueConfig)

/-- The texts of the dead letters, the oldest first. -/
def letters (world : World) : List String :=
  (world.client .deadLetters).store.lists.get config.deadLetterKey

/-- A text that is put to the dead letters. -/
def letter? : Deed → Option String
  | ⟨.command .deadLetters (.rpush key text), .ok _⟩ => if key = config.deadLetterKey then some text else none
  | _ => none

variable {config}

theorem records_or_spares {e : Effect} (h : e.IsUse config) :
    (∃ text, e = .command .deadLetters (.rpush config.deadLetterKey text)) ∨
      ∀ site c, e = .command site c → c.changesList config.deadLetterKey = false := by
  cases h with
  | own h =>
    right
    rintro site c rfl
    cases h
    assumption
  | aside h =>
    cases h with
    | record entry => exact .inl ⟨entry, rfl⟩
    | publish channel message => exact .inr fun site c heq => by cases heq; rfl
    | count | clock => exact .inr nofun
  | ask => exact .inr fun site c heq => by cases heq; rfl
  | process => exact .inr nofun

theorem letter?_of_list {e : Effect} (hkey : ∀ site c, e = .command site c →
    c.changesList config.deadLetterKey = false) (a : e.Answer) : config.letter? ⟨e, a⟩ = none := by
  cases e with
  | command site c =>
    cases site with
    | jobs => rfl
    | deadLetters =>
      cases c with
      | rpush key text =>
        cases a with
        | ok _ =>
          have hne := hkey _ _ rfl
          exact if_neg (by simpa [Command.changesList] using hne)
        | error _ => rfl
      | _ => rfl
  | _ => rfl

/-- The dead letters are those that deeds have put there, if nothing else changes their list. -/
theorem shows_letters_of {P : Effect → Prop}
    (h : ∀ e, P e → (∃ text, e = .command .deadLetters (.rpush config.deadLetterKey text)) ∨
      ∀ site c, e = .command site c → c.changesList config.deadLetterKey = false) :
    World.Shows P config.letters config.letter? where
  acts {failing world world' e a} he happened := by
    obtain ⟨text, rfl⟩ | hkey := h e he
    · obtain ⟨error, rfl, hsame⟩ | ⟨a, rfl, hrun⟩ := happened.ran
      · simp [letters, hsame, letter?]
      · simp [letters, letter?, ← (Prod.mk.inj (Except.ok.inj hrun)).2]
    · simp [letters, happened.list_eq .deadLetters hkey, letter?_of_list hkey a]
  breaks _ happened :=
    congrArg (·.lists.get config.deadLetterKey) (happened.client_store_of_error .deadLetters)
  drifts h := by
    cases h
    rfl

theorem shows_letters : World.Shows (Effect.IsUse config) config.letters config.letter? :=
  shows_letters_of fun _ => records_or_spares

end QueueConfig

end JobQueue
