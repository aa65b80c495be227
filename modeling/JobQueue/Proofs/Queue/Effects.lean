import JobQueue.Proofs.Dedup.Window
import JobQueue.Proofs.Queue.Stage

/-! The effects of the operations of a queue. None of them sets a value, and none of them takes anything off
the failed jobs. -/

namespace JobQueue

open Time (Duration)

/-! ### Taking from lists -/

/-- A command may take something off a list. -/
def Command.takesFrom (key : String) : Command → Bool
  | .lrem k _ _ => k == key
  | .rpoplpush source _ => source == key
  | _ => false

def Effect.takesFrom (key : String) : Effect → Bool
  | .command _ c => c.takesFrom key
  | _ => false

theorem Store.mem_of_run {now : Nat} {store store' : Store} {c : Command} {a : c.Answer}
    {key value : String} (hkey : c.takesFrom key = false) (h : store.run now c = .ok (a, store'))
    (hvalue : value ∈ store.lists.get key) : value ∈ store'.lists.get key := by
  have hput : ∀ (k : String) (items : List String), (k = key → value ∈ items) →
      value ∈ (store.lists.put k items).get key := by
    intro k items hitems
    rw [Keyspace.get_put]
    split
    next heq => exact hitems heq.symm
    next => exact hvalue
  cases c with
  | set k v seconds =>
    simp only [Store.run, Store.set] at h
    split at h
    · cases h; exact hvalue
    · split at h
      · cases h; exact hvalue
      · cases h
  | lpush k v =>
    cases h
    exact hput k _ fun hk => .tail _ (hk ▸ hvalue)
  | rpush k v =>
    cases h
    exact hput k _ fun hk => List.mem_append_left _ (hk ▸ hvalue)
  | lrem k count v =>
    cases h
    exact hput k _ fun hk => by simp [Command.takesFrom, hk] at hkey
  | rpoplpush source target =>
    obtain rfl : (store.rotate source target).2 = store' := by rw [Except.ok.inj h]
    cases hlast : (store.lists.get source).getLast? with
    | none => rwa [Store.rotate_of_none hlast]
    | some moved =>
      rw [Store.rotate_of_some hlast, Store.lists_pushFront, Store.lists_setList]
      have hsource : key ≠ source := by
        rintro rfl
        simp [Command.takesFrom] at hkey
      have hkept : value ∈ ((store.lists.put source (store.lists.get source).dropLast)).get key := by
        rwa [Keyspace.get_put_of_ne _ _ hsource]
      rw [Keyspace.get_put]
      split
      next heq => exact .tail _ (heq ▸ hkept)
      next => exact hkept
  | _ =>
    cases h
    exact hvalue

/-- What is on a list stays there as long as nothing is taken off it. -/
theorem Happens.mem {failing : Prop} {world world' : World} {e : Effect} {r : Except Panic e.Answer}
    {key value : String} (h : Happens failing world e world' r) (hkey : e.takesFrom key = false)
    (hvalue : value ∈ world.jobs.store.lists.get key) : value ∈ world'.jobs.store.lists.get key := by
  refine h.keeps (P := fun store => value ∈ store.lists.get key) ?_ hvalue
  rintro site c now store a store' rfl hrun hmem
  exact Store.mem_of_run hkey hrun hmem

/-- What was pushed to a list from which no program takes anything is still there. -/
theorem Scene.Reachable.mem_of_pushed {C : Clients} {K : Conditions} {world : World} {s : Scene C}
    {key : String} (h : Reachable K world s)
    (heach : ∀ op, (C.program op).Each fun e => e.takesFrom key = false) (n : Nat) (op : C.Op) (time : Nat)
    (wall : Int) (value : String)
    (hdid : .did n op time wall (.command .jobs (.rpush key value)) (.ok ()) ∈ s.history) :
    value ∈ s.world.jobs.store.lists.get key := by
  induction h with
  | refl => simp [start] at hdid
  | tail hrun hstep ih =>
    have ht := Reachable.tracked hrun
    cases hstep with
    | acts m op' e next a left right happened =>
      have hkey := ht.each (List.mem_append_right left (.head right)) (heach op')
      obtain heq | hold := List.mem_cons.1 hdid
      · cases heq
        obtain ⟨error, hr, -⟩ | ⟨a, store, -, hstore, rfl⟩ := happened.jobs
        · cases hr
        · rw [← (Prod.mk.inj (Except.ok.inj hstore)).2]
          simp
      · exact happened.mem hkey (ih hold)
    | breaks m op' e next p left right happened =>
      have hkey := ht.each (List.mem_append_right left (.head right)) (heach op')
      exact happened.mem hkey (ih hdid)
    | drifts h =>
      cases h
      exact ih hdid
    | _ => exact ih (by simpa using hdid)

/-! ### Actions -/

namespace QueueAction

variable {α β : Type} {P : Effect → Prop}

theorem each_bind {x : QueueAction α} {f : α → QueueAction β} (hx : x.run.Each P)
    (hf : ∀ a, (f a).run.Each P) : (x >>= f).run.Each P := by
  refine Program.Each.bind hx fun r => ?_
  cases r with
  | ok a => exact hf a
  | error error => trivial

theorem each_send {c : Command} (h : P (.command .jobs c)) : (send c).run.Each P :=
  ⟨h, fun _ => trivial⟩

theorem each_clockMillis (h : P .clock) : clockMillis.run.Each P :=
  ⟨h, fun reading => (Program.each_ofExcept (Clock.recordTime reading)).bind fun _ => trivial⟩

theorem each_ofExcept (x : Except Panic α) : (QueueAction.ofExcept x).run.Each P :=
  (Program.each_ofExcept x).bind fun _ => trivial

/-- An action gives what all of its continuations give, unless it gives an error. -/
theorem gives_bind {R : Except QueueError β → Prop} {x : QueueAction α} {f : α → QueueAction β}
    (herror : ∀ error, R (.error error)) (hf : ∀ a, (f a).run.Gives R) : (x >>= f).run.Gives R := by
  refine Program.Gives.bind (fun r => ?_) x.run
  cases r with
  | ok a => exact hf a
  | error error => exact herror error

theorem leads_send {c : Command} {deeds : List Deed} {r : Except QueueError c.Answer}
    (h : (send c).run.Leads deeds (.done r)) :
    ∃ r' : c.Result, deeds = [⟨.command .jobs c, r'⟩] ∧ r = r'.mapError .store := by
  obtain ⟨r', later, rfl, hlater⟩ := Program.leads_step_done h
  obtain ⟨rfl, heq⟩ := Program.leads_done hlater
  cases heq
  exact ⟨r', rfl, rfl⟩

/-! Actions as programs. -/

theorem run_ofExcept_bind (x : Except Panic α) (f : α → QueueAction β) :
    (QueueAction.ofExcept x >>= f).run = (Program.ofExcept x).bind fun a => (f a).run := by
  cases x <;> rfl

theorem run_clockMillis_bind (f : Int → QueueAction α) :
    (clockMillis >>= f).run = .step .clock fun reading =>
      (Program.ofExcept (Clock.recordTime reading)).bind fun nanos =>
        (f (nanos / Time.nanosPerMilli)).run := by
  refine congrArg (Program.step _) (funext fun reading => ?_)
  dsimp only
  cases Clock.recordTime reading <;> rfl

end QueueAction

namespace Queue

open QueueAction

variable (config : QueueConfig)

/-- Holds of all that the operations of a queue do, but for what lets envelopes wait or delays them. -/
structure Quiet (P : Effect → Prop) : Prop where
  clock : P .clock
  /-- Settlements count the deliveries that are tried again and those that were the last ones. -/
  count : ∀ kind, kind = .retried ∨ kind = .exhausted → P (.count (.job kind config.name))
  pop : P (.command .jobs (.rpoplpush config.waitKey config.activeKey))
  archive : ∀ envelope, P (.command .jobs (.rpush config.completedKey envelope))
  bury : ∀ envelope, P (.command .jobs (.rpush config.failedKey envelope))
  release : ∀ envelope, P (.command .jobs (.lrem config.activeKey 1 envelope))

section

variable {config} {P : Effect → Prop} (h : Quiet config P)

include h

theorem Quiet.mono {Q : Effect → Prop} (hPQ : ∀ e, P e → Q e) : Quiet config Q where
  clock := hPQ _ h.clock
  count kind hkind := hPQ _ (h.count kind hkind)
  pop := hPQ _ h.pop
  archive envelope := hPQ _ (h.archive envelope)
  bury envelope := hPQ _ (h.bury envelope)
  release envelope := hPQ _ (h.release envelope)

theorem Quiet.release_each (envelope : String) : (Queue.release config envelope).run.Each P :=
  each_bind (each_send (h.release envelope)) fun _ => trivial

theorem Quiet.dequeue_each : (dequeue config).run.Each P := by
  refine each_bind (each_send h.pop) fun r => ?_
  cases r with
  | none => trivial
  | some envelope =>
    dsimp only
    cases Job.codec.ofText envelope with
    | ok job => trivial
    | error fault =>
      exact each_bind (each_send (h.bury envelope)) fun _ =>
        each_bind (h.release_each envelope) fun _ => trivial

theorem Quiet.complete_each (reserved : ReservedJob) : (complete config reserved).run.Each P := by
  unfold complete
  split
  · exact each_bind (each_send (h.archive _)) fun _ => h.release_each reserved.envelope
  · exact h.release_each reserved.envelope

theorem Quiet.fail_each (reserved : ReservedJob) : (fail config reserved).run.Each P := by
  unfold fail
  split
  · exact each_bind (each_send (h.bury _)) fun _ => h.release_each reserved.envelope
  · exact h.release_each reserved.envelope

theorem Quiet.retry_each (reserved : ReservedJob) (delay : Duration)
    (hschedule : ∀ next due, P (.command .jobs (.zadd config.delayedKey (Job.codec.text next) due))) :
    (retry config reserved delay).run.Each P :=
  each_bind (each_ofExcept reserved.job.next) fun next =>
    each_bind (each_clockMillis h.clock) fun now =>
      each_bind (each_ofExcept (dueAt now delay)) fun due =>
        each_bind (each_send (hschedule next due)) fun _ => h.release_each reserved.envelope

end

theorem enqueue_each {P : Effect → Prop} (job : Job)
    (hpush : P (.command .jobs (.lpush config.waitKey (Job.codec.text job)))) :
    (enqueue config job).run.Each P :=
  each_send hpush

theorem promoteAll_each {P : Effect → Prop}
    (hremove : ∀ envelope, P (.command .jobs (.zrem config.delayedKey envelope)))
    (hpush : ∀ envelope, P (.command .jobs (.lpush config.waitKey envelope)))
    (due : List String) (promoted : Nat) : (promoteAll config due promoted).run.Each P := by
  induction due generalizing promoted with
  | nil => trivial
  | cons envelope due ih =>
    refine each_bind (each_send (hremove envelope)) fun removed => ?_
    cases removed with
    | true => exact each_bind (each_send (hpush envelope)) fun _ => ih (promoted + 1)
    | false => exact ih promoted

theorem promoteDue_each {P : Effect → Prop} (hclock : P .clock)
    (hlist : ∀ now : Int,
      P (.command .jobs (.zrangebyscore config.delayedKey "-inf" (String.ofList (Text.intDigits now)))))
    (hremove : ∀ envelope, P (.command .jobs (.zrem config.delayedKey envelope)))
    (hpush : ∀ envelope, P (.command .jobs (.lpush config.waitKey envelope))) :
    (promoteDue config).run.Each P :=
  each_bind (each_clockMillis hclock) fun now =>
    each_bind (each_send (hlist now)) fun due => promoteAll_each config hremove hpush due 0

/-- Neither sets a value nor takes anything off the failed jobs. -/
def Spares (e : Effect) : Prop :=
  e.isSet = false ∧ e.takesFrom config.failedKey = false

theorem spares_quiet : Quiet config (Spares config) where
  clock := ⟨rfl, rfl⟩
  count _ _ := ⟨rfl, rfl⟩
  pop := by
    refine ⟨rfl, ?_⟩
    simp [Effect.takesFrom, Command.takesFrom, QueueConfig.waitKey, QueueConfig.failedKey,
      QueueConfig.key_eq_iff]
  archive _ := ⟨rfl, rfl⟩
  bury _ := ⟨rfl, rfl⟩
  release _ := by
    refine ⟨rfl, ?_⟩
    simp [Effect.takesFrom, Command.takesFrom, QueueConfig.activeKey, QueueConfig.failedKey,
      QueueConfig.key_eq_iff]

end Queue

end JobQueue
