import JobQueue.DeadLetter.Log
import JobQueue.Dedup
import JobQueue.Proofs.Consumer.Users
import JobQueue.Proofs.Queue.Alone
import JobQueue.Proofs.Store.Agreement

/-! Whether the commands of a program go to a server or are carried out in memory makes no difference, as long as the
server refuses none of them and none sets a value at the key of a list or a sorted set. -/

namespace JobQueue

open Time (Duration)

/-! ### Operations -/

/-- What is done with a store on behalf of queues. -/
inductive StoreOp where
  | claim (window : Duration) (jobId : String)
  | queue (config : QueueConfig) (op : QueueOp)
  | record (config : QueueConfig) (entry : DeadLetterEntry)
  | entries (config : QueueConfig) (start stop : Int)
  | count (config : QueueConfig)
  | publish (channel : String) (response : JobResponse)

namespace StoreOp

abbrev Result : StoreOp → Type
  | claim .. => Except StoreError Bool
  | queue .. => QueueOp.Result
  | record .. => Except StoreError Unit
  | entries .. => Except StoreError (List DeadLetterEntry)
  | count .. => Except StoreError Nat
  | publish .. => Except StoreError Unit

def program : (op : StoreOp) → Program op.Result
  | claim window jobId => Dedup.claim window jobId
  | queue config op => op.program config
  | record config entry => DeadLetterLog.record config entry
  | entries config start stop => DeadLetterLog.entries config start stop
  | count config => DeadLetterLog.count config
  | publish channel response => response.publish channel

end StoreOp

/-- What operations have to do with a store. -/
inductive Effect.IsStoring : Effect → Prop where
  | clock : IsStoring .clock
  | count (metric : Metric) : IsStoring (.count metric)
  | command (site : Site) (c : Command) (h : c.IsUsed) : IsStoring (.command site c)

theorem Queue.storing_quiet (config : QueueConfig) : Quiet config Effect.IsStoring where
  clock := .clock
  count _ _ := .count _
  pop := .command _ _ (.rpoplpush _ _)
  archive _ := .command _ _ (.rpush _ _)
  bury _ := .command _ _ (.rpush _ _)
  release _ := .command _ _ (.lrem _ _)

theorem QueueOp.program_storing (config : QueueConfig) (op : QueueOp) :
    (op.program config).Each Effect.IsStoring :=
  program_each (Queue.storing_quiet config) (fun _ => .command _ _ (.lpush _ _))
    (fun _ _ => .command _ _ (.zadd _ _ _)) (fun _ => .command _ _ (.zrangebyscore _ _))
    (fun _ => .command _ _ (.zrem _ _)) op

theorem StoreOp.program_storing (op : StoreOp) : op.program.Each Effect.IsStoring := by
  cases op with
  | claim window jobId => exact ⟨.command _ _ (.set _ _ _), fun _ => trivial⟩
  | queue config op => exact op.program_storing config
  | record config entry => exact ⟨.command _ _ (.rpush _ _), fun _ => trivial⟩
  | entries config start stop => exact ⟨.command _ _ (.lrange _ _ _), fun _ => trivial⟩
  | count config => exact ⟨.command _ _ (.llen _), fun _ => trivial⟩
  | publish channel response => exact ⟨.command _ _ (.publish _ _), fun _ => trivial⟩

/-! ### Runs through time -/

/-- A state to which time passes before each of the next effects, in nanoseconds. -/
structure Timed (σ : Type) where
  state : σ
  ticks : List Nat

/-- Something that performs effects and to which time passes. -/
structure Performer (σ : Type) where
  perform : σ → (e : Effect) → σ × Except Panic e.Answer
  advance : σ → Nat → σ

namespace Performer

variable {σ : Type} (performer : Performer σ)

def performTimed (s : Timed σ) (e : Effect) : Timed σ × Except Panic e.Answer :=
  let (state, answer) := performer.perform (performer.advance s.state (s.ticks.headD 0)) e
  (⟨state, s.ticks.tail⟩, answer)

/-- Carries out operations one after the other, and gives what comes of them. -/
def runAll : List StoreOp → Timed σ → Timed σ × List (Σ op : StoreOp, Except Panic op.Result)
  | [], s => (s, [])
  | op :: ops, s =>
    let (after, result) := op.program.runOn performer.performTimed s
    let (last, results) := runAll ops after
    (last, ⟨op, result⟩ :: results)

end Performer

/-- A world, which keeps its stores in memory. -/
def World.performer : Performer World :=
  ⟨World.perform, World.advance⟩

/-- If no time passes, programs run as they do in a world. -/
theorem World.runOn_performTimed {α : Type} (p : Program α) (world : World) :
    p.runOn World.performer.performTimed ⟨world, []⟩ = (⟨(p.run world).1, []⟩, (p.run world).2) := by
  induction p generalizing world with
  | done | panic => rfl
  | step e next ih =>
    have hadvance : world.advance 0 = world := by simp [World.advance]
    have hperform : World.performer.performTimed ⟨world, []⟩ e = (⟨(world.perform e).1, []⟩, (world.perform e).2) := by
      conv_rhs => rw [← hadvance]
      rfl
    rw [Program.runOn, Program.run, hperform]
    obtain ⟨after, p | a⟩ := world.perform e
    · rfl
    · exact ih a after

/-! ### A client of a server -/

/-- A command that was sent: what there was under the key that it names first, its arguments, and the reply. -/
structure Sent where
  held : Option StoreServer.Entry
  arguments : List String
  reply : Except RedisFault Reply

/-- The command was not refused, and did not set a value where there is a list or a sorted set. -/
def Sent.isPlain (sent : Sent) : Bool :=
  sent.reply.isOk && !(sent.arguments.head? == some "SET" && sent.held.any (·.isCollection))

/-- A client of a server, and what it has sent, the last command first. -/
structure Remote where
  server : StoreServer
  log : List Sent
  /-- The clocks and the rest of the world. Its stores are not used. -/
  around : World

namespace Remote

def perform (remote : Remote) : (e : Effect) → Remote × Except Panic e.Answer
  | .command _ c =>
    let now := remote.around.elapsed
    let (server, reply) := remote.server.respond now c.arguments
    ({ remote with server, log := ⟨remote.server.held now c.key, c.arguments, reply⟩ :: remote.log },
      .ok (c.resultOf (some reply)))
  | e =>
    let (around, answer) := remote.around.perform e
    ({ remote with around }, answer)

def performer : Performer Remote :=
  ⟨perform, fun remote nanos => { remote with around := remote.around.advance nanos }⟩

/-- A client of a server and one of a store in memory stand at the same point. -/
structure Agrees (remote : Remote) (world : World) : Prop where
  stores : remote.server.Agrees world.elapsed world.jobs.store
  wall : remote.around.wall = world.wall
  elapsed : remote.around.elapsed = world.elapsed
  /-- All commands in memory go to one store, which carries them out. -/
  together : world.deadLetters = none
  answers : world.jobs.Answers
  /-- One command was sent for each that the client in memory was called for. -/
  calls : remote.log.map (fun sent => sent.arguments.take 2) =
    world.jobs.calls.map fun (verb, key) => [verb.name, key]

theorem agrees_new (listeners : String → Nat) (rules : List ServiceRule) (wall : Int) :
    Agrees ⟨.empty listeners, [], .new rules false wall⟩ (.new rules false wall) where
  stores := StoreServer.agrees_empty _ _
  wall := rfl
  elapsed := rfl
  together := rfl
  answers _ := ⟨rfl, rfl⟩
  calls := rfl

variable {remote : Remote} {world : World}

theorem Agrees.advance (h : remote.Agrees world) (nanos : Nat) :
    Agrees (performer.advance remote nanos) (world.advance nanos) where
  stores := h.stores.later (Nat.le_add_right _ _)
  wall := congrArg (· + (nanos : Int)) h.wall
  elapsed := congrArg (· + nanos) h.elapsed
  together := h.together
  answers := h.answers
  calls := h.calls

/-- A command that clashes is not plain, and neither is one that is refused. -/
theorem exists_of_isPlain {now : Nat} {server : StoreServer} {c : Command}
    (h : Sent.isPlain ⟨server.held now c.key, c.arguments, (server.respond now c.arguments).2⟩ = true) :
    ¬server.Clashes now c ∧ ∃ reply after, server.execute now c.arguments = .ok (reply, after) := by
  obtain ⟨hok, hfree⟩ := Bool.and_eq_true_iff.1 h
  refine ⟨?_, ?_⟩
  · rintro ⟨hverb, entry, hheld, hcollection⟩
    have hname : c.arguments.head? = some "SET" := by
      cases c <;> cases hverb
      rfl
    simp [hname, hheld, hcollection] at hfree
  · cases hexecute : server.execute now c.arguments with
    | ok result => exact ⟨result.1, result.2, rfl⟩
    | error fault =>
      rw [StoreServer.respond, hexecute] at hok
      cases hok

/-- What an effect sends, and what was sent before. -/
theorem log_perform (remote : Remote) (e : Effect) : remote.log <:+ (remote.perform e).1.log := by
  cases e with
  | command => exact List.suffix_cons _ _
  | clock | process | count => exact List.suffix_refl _

theorem arguments_take (c : Command) : c.arguments.take 2 = [c.verb.name, c.key] := by
  cases c <;> rfl

theorem perform_of_together {site : Site} {c : Command} {a : c.Answer} {store : Store}
    (htogether : world.deadLetters = none) (hanswers : world.jobs.Answers)
    (hrun : world.jobs.store.run world.elapsed c = .ok (a, store)) :
    world.perform (.command site c) = (world.did c store, .ok (.ok a)) := by
  cases site with
  | jobs => exact World.perform_of_answers hanswers hrun
  | deadLetters =>
    have hclient : world.client .deadLetters = world.jobs := by rw [World.client, htogether]; rfl
    rw [World.perform, hclient, hanswers.run hrun]
    simp only [World.setClient, World.did, htogether]

/-- An effect has the same answer for both clients. -/
theorem Agrees.perform {e : Effect} (he : e.IsStoring) (h : remote.Agrees world)
    (hplain : ∀ sent ∈ (remote.perform e).1.log, sent.isPlain = true) :
    (remote.perform e).2 = (world.perform e).2 ∧ Agrees (remote.perform e).1 (world.perform e).1 := by
  cases he with
  | clock => exact ⟨congrArg Except.ok h.wall, ⟨h.stores, h.wall, h.elapsed, h.together, h.answers, h.calls⟩⟩
  | count metric => exact ⟨rfl, ⟨h.stores, h.wall, h.elapsed, h.together, h.answers, h.calls⟩⟩
  | command site c hc =>
    obtain ⟨hclash, reply, after, hexecute⟩ := exists_of_isPlain (hplain _ (.head _))
    rw [h.elapsed] at hclash hexecute
    obtain ⟨a, store, hrun, hanswer, hstores⟩ := h.stores.execute hc hclash hexecute
    have hrespond : remote.server.respond world.elapsed c.arguments = (after, .ok reply) := by
      rw [StoreServer.respond, hexecute]
    have hresult : c.resultOf (some (.ok reply)) = .ok a := by
      rw [Command.resultOf, hanswer]
      rfl
    rw [perform_of_together h.together h.answers hrun, Remote.perform, h.elapsed, hrespond]
    refine ⟨congrArg Except.ok hresult, hstores, h.wall, h.elapsed, h.together, h.answers, ?_⟩
    exact congr (congrArg List.cons (arguments_take c)) h.calls

end Remote

/-! ### Runs of both clients -/

namespace Performer

/-- What was sent in a run, and what was sent before. -/
theorem log_runOn {α : Type} (p : Program α) (s : Timed Remote) :
    s.state.log <:+ (p.runOn Remote.performer.performTimed s).1.state.log := by
  induction p generalizing s with
  | done | panic => exact List.suffix_refl _
  | step e next ih =>
    have hperform : s.state.log <:+ (Remote.performer.performTimed s e).1.state.log :=
      Remote.log_perform (Remote.performer.advance s.state (s.ticks.headD 0)) e
    rw [Program.runOn]
    generalize Remote.performer.performTimed s e = result at hperform ⊢
    obtain ⟨after, p | a⟩ := result
    · exact hperform
    · exact hperform.trans (ih a after)

theorem log_runAll (ops : List StoreOp) (s : Timed Remote) :
    s.state.log <:+ (Remote.performer.runAll ops s).1.state.log := by
  induction ops generalizing s with
  | nil => exact List.suffix_refl _
  | cons op ops ih => exact (log_runOn op.program s).trans (ih _)

variable {s : Timed Remote} {t : Timed World}

/-- Both clients stand at the same point, and as much time is about to pass to both. -/
structure Together (s : Timed Remote) (t : Timed World) : Prop where
  states : s.state.Agrees t.state
  ticks : s.ticks = t.ticks

theorem Together.performTimed {e : Effect} (he : e.IsStoring) (h : Together s t)
    (hplain : ∀ sent ∈ (Remote.performer.performTimed s e).1.state.log, sent.isPlain = true) :
    (Remote.performer.performTimed s e).2 = (World.performer.performTimed t e).2 ∧
      Together (Remote.performer.performTimed s e).1 (World.performer.performTimed t e).1 := by
  obtain ⟨remote, ticks⟩ := s
  obtain ⟨world, ticks'⟩ := t
  obtain ⟨hstates, rfl⟩ := h
  obtain ⟨hanswer, hafter⟩ := (hstates.advance (ticks.headD 0)).perform he hplain
  exact ⟨hanswer, hafter, rfl⟩

/-- A program ends in the same way with both clients. -/
theorem Together.runOn {α : Type} {p : Program α} (hp : p.Each Effect.IsStoring) (h : Together s t)
    (hplain : ∀ sent ∈ (p.runOn Remote.performer.performTimed s).1.state.log, sent.isPlain = true) :
    (p.runOn Remote.performer.performTimed s).2 = (p.runOn World.performer.performTimed t).2 ∧
      Together (p.runOn Remote.performer.performTimed s).1 (p.runOn World.performer.performTimed t).1 := by
  induction p generalizing s t with
  | done | panic => exact ⟨rfl, h⟩
  | step e next ih =>
    obtain ⟨he, hnext⟩ := hp
    have hearlier : ∀ sent ∈ (Remote.performer.performTimed s e).1.state.log, sent.isPlain = true := by
      intro sent hsent
      refine hplain sent ?_
      rw [Program.runOn]
      generalize Remote.performer.performTimed s e = result at hsent ⊢
      obtain ⟨after, p | a⟩ := result
      · exact hsent
      · exact (log_runOn (next a) after).subset hsent
    obtain ⟨hanswer, hafter⟩ := h.performTimed he hearlier
    rw [Program.runOn, Program.runOn]
    rw [Program.runOn] at hplain
    generalize Remote.performer.performTimed s e = result at hplain hanswer hafter ⊢
    generalize World.performer.performTimed t e = result' at hanswer hafter ⊢
    obtain ⟨after, p | a⟩ := result <;> obtain ⟨after', p' | a'⟩ := result' <;> cases hanswer
    · exact ⟨rfl, hafter⟩
    · exact ih a (hnext a) hafter hplain

/-- Operations give the same results with both clients. -/
theorem Together.runAll (ops : List StoreOp) (h : Together s t)
    (hplain : ∀ sent ∈ (Remote.performer.runAll ops s).1.state.log, sent.isPlain = true) :
    (Remote.performer.runAll ops s).2 = (World.performer.runAll ops t).2 ∧
      Together (Remote.performer.runAll ops s).1 (World.performer.runAll ops t).1 := by
  induction ops generalizing s t with
  | nil => exact ⟨rfl, h⟩
  | cons op ops ih =>
    obtain ⟨hresult, hafter⟩ := h.runOn op.program_storing fun sent hsent =>
      hplain sent ((log_runAll ops _).subset hsent)
    obtain ⟨hresults, hlast⟩ := ih hafter hplain
    refine ⟨?_, hlast⟩
    simp only [Performer.runAll]
    rw [hresult, hresults]

end Performer

namespace Remote

/-- Operations have the same results over a server as in memory, and leave the same; one command is sent for each
that is called for in memory. This is so unless the server refuses a command, or a value is set at the key of a list
or a sorted set. -/
theorem runAll_agrees {remote : Remote} {world : World} (h : remote.Agrees world) (ticks : List Nat)
    (ops : List StoreOp)
    (hplain : ∀ sent ∈ (performer.runAll ops ⟨remote, ticks⟩).1.state.log, sent.isPlain = true) :
    (performer.runAll ops ⟨remote, ticks⟩).2 = (World.performer.runAll ops ⟨world, ticks⟩).2 ∧
      Agrees (performer.runAll ops ⟨remote, ticks⟩).1.state (World.performer.runAll ops ⟨world, ticks⟩).1.state := by
  obtain ⟨hresults, hlast⟩ := Performer.Together.runAll ops (s := ⟨remote, ticks⟩) (t := ⟨world, ticks⟩) ⟨h, rfl⟩ hplain
  exact ⟨hresults, hlast.states⟩

/-! ### Fixed inputs -/

/-- A client of a server that holds nothing. -/
def sample : Remote :=
  ⟨.empty fun _ => 0, [], .new [] false 0⟩

/-- A job is enqueued, claimed twice within a minute and once after it, taken off the queue, tried again and
promoted, and its failure is recorded. -/
def sampleOps : List StoreOp :=
  let reserved : ReservedJob := ⟨.sample, Job.codec.text .sample⟩
  [.queue .sample (.enqueue .sample), .claim (.ofSeconds 60) "j1", .claim (.ofSeconds 60) "j1",
    .claim (.ofSeconds 60) "j1", .queue .sample .dequeue, .queue .sample (.retry reserved (.ofSeconds 0)),
    .queue .sample .promoteDue, .record .sample (.ofJob "jobs" .sample "boom" (.ofEpochNanos 0)),
    .entries .sample 0 (-1), .count .sample,
    .publish "responses" (.rejection .sample ⟨"query must not be empty", some "query"⟩)]

/-- Whether a claim was granted. -/
def granted? : (Σ op : StoreOp, Except Panic op.Result) → Option Bool
  | ⟨.claim _ _, .ok (.ok granted)⟩ => some granted
  | _ => none

theorem sample_runAll_agrees :
    let ticks := [0, 0, 0, 60 * Time.nanosPerSecond]
    (∀ sent ∈ (performer.runAll sampleOps ⟨sample, ticks⟩).1.state.log, sent.isPlain = true) ∧
      (performer.runAll sampleOps ⟨sample, ticks⟩).2 =
        (World.performer.runAll sampleOps ⟨.new [] false 0, ticks⟩).2 ∧
      (performer.runAll sampleOps ⟨sample, ticks⟩).2.filterMap granted? = [true, false, true] := by
  intro ticks
  have hplain : ∀ sent ∈ (performer.runAll sampleOps ⟨sample, ticks⟩).1.state.log, sent.isPlain = true :=
    List.all_eq_true.1 (by decide +kernel)
  have hagrees : sample.Agrees (.new [] false 0) := agrees_new _ _ _
  exact ⟨hplain, (runAll_agrees hagrees ticks sampleOps hplain).1, by decide +kernel⟩

/-- A queue whose lists have keys like those of claims. -/
def sampleClash : List StoreOp :=
  [.queue (.named "x" "processed") (.enqueue .sample), .claim (.ofSeconds 60) "x:wait"]

/-- The server refuses nothing, and finds a list where it is to set a value; in memory there is room for both. -/
theorem sample_claim_clashes : (performer.runAll sampleClash ⟨sample, []⟩).1.state.log.all (·.reply.isOk) = true ∧
    (performer.runAll sampleClash ⟨sample, []⟩).2 ≠ (World.performer.runAll sampleClash ⟨.new [] false 0, []⟩).2 := by
  refine ⟨by decide +kernel, fun heq => ?_⟩
  have hgranted := congrArg (List.filterMap granted?) heq
  revert hgranted
  decide +kernel

end Remote

end JobQueue
