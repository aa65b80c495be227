import JobQueue.DeadLetter.Log
import JobQueue.Proofs.Consumer.Users

/-! Queues on one store. The keys of a queue start with the text of its scope and its name, so that two queues
are kept apart if and only if these texts differ. That the scopes or the names differ is not enough. -/

namespace JobQueue

/-! ### Keys -/

/-- The keys that a command names. -/
def Command.keys : Command → List String
  | set key _ _ => [key]
  | lpush key _ => [key]
  | rpush key _ => [key]
  | lrange key _ _ => [key]
  | llen key => [key]
  | lrem key _ _ => [key]
  | rpoplpush source target => [source, target]
  | zadd key _ _ => [key]
  | zrangebyscore key _ _ => [key]
  | zrem key _ => [key]
  | publish .. => []

theorem Command.changesList_of_notMem {c : Command} {key : String} (h : key ∉ c.keys) :
    c.changesList key = false := by
  cases c with
  | lpush k v | rpush k v | lrem k count v => exact beq_false_of_ne (Ne.symm (by simpa [keys] using h))
  | rpoplpush source target =>
    obtain ⟨hsource, htarget⟩ : key ≠ source ∧ key ≠ target := by simpa [keys] using h
    simp [changesList, hsource.symm, htarget.symm]
  | _ => rfl

namespace Store

variable {now : Nat} {store store' : Store} {c : Command} {a : c.Answer} {key : String}

theorem sortedSet_of_run (hkey : key ∉ c.keys) (h : store.run now c = .ok (a, store')) :
    store'.sortedSets.get key = store.sortedSets.get key := by
  cases c with
  | set k v seconds => rw [(set_frame h).2]
  | rpoplpush source target =>
    obtain rfl : (store.rotate source target).2 = store' := by rw [Except.ok.inj h]
    rw [sortedSets_rotate]
  | zadd k member score | zrem k member =>
    cases h
    exact Keyspace.get_put_of_ne _ _ (by simpa [Command.keys] using hkey)
  | _ =>
    cases h
    rfl

end Store

/-- Commands that do not name a key leave what is kept under it as it is, at every site. -/
theorem Happens.kept {failing : Prop} {world world' : World} {e : Effect} {r : Except Panic e.Answer} {key : String}
    (site : Site) (hkey : ∀ site c, e = .command site c → key ∉ c.keys) (h : Happens failing world e world' r) :
    (world'.client site).store.lists.get key = (world.client site).store.lists.get key ∧
      (world'.client site).store.sortedSets.get key = (world.client site).store.sortedSets.get key := by
  obtain hsame | ⟨site', c, a, he, hrun⟩ := h.client_store site
  · rw [hsame]
    exact ⟨rfl, rfl⟩
  · have hnot := hkey site' c he
    exact ⟨Store.list_of_run (Command.changesList_of_notMem hnot) hrun, Store.sortedSet_of_run hnot hrun⟩

/-- What is kept under a key that no call names stays as it was. -/
theorem Scene.Reachable.kept {C : Clients} {K : Conditions} {world : World} {s : Scene C} {key : String}
    (h : Reachable K world s) (site : Site)
    (heach : ∀ op, (C.program op).Each fun e => ∀ site c, e = .command site c → key ∉ c.keys) :
    (s.world.client site).store.lists.get key = (world.client site).store.lists.get key ∧
      (s.world.client site).store.sortedSets.get key = (world.client site).store.sortedSets.get key := by
  induction h with
  | refl => exact ⟨rfl, rfl⟩
  | tail hrun hstep ih =>
    have ht := Reachable.tracked hrun
    cases hstep with
    | acts n op e next a left right happened =>
      have hkept := happened.kept site (ht.each (List.mem_append_right left (.head right)) (heach op))
      exact ⟨hkept.1.trans ih.1, hkept.2.trans ih.2⟩
    | breaks n op e next p left right happened =>
      have hkept := happened.kept site (ht.each (List.mem_append_right left (.head right)) (heach op))
      exact ⟨hkept.1.trans ih.1, hkept.2.trans ih.2⟩
    | drifts h =>
      cases h
      cases site <;> exact ih
    | _ => exact ih

namespace QueueConfig

/-- The text with which all keys of a queue start. -/
def base (config : QueueConfig) : String :=
  config.scope ++ ":" ++ config.name

variable {config other : QueueConfig}

/-- Keys tell the queue and the structure, as long as the structures have names without colons. -/
theorem key_eq_key_iff {s t : String} (hs : ':' ∉ s.toList) (ht : ':' ∉ t.toList) :
    config.key s = other.key t ↔ config.base = other.base ∧ s = t := by
  refine ⟨fun h => ?_, fun ⟨hbase, hst⟩ => ?_⟩
  · have hlist : config.base.toList ++ ':' :: s.toList = other.base.toList ++ ':' :: t.toList := by
      simpa [key, base] using congrArg String.toList h
    rw [← String.toList_inj, ← @String.toList_inj s]
    rcases List.append_eq_append_iff.1 hlist with ⟨mid, hother, hrest⟩ | ⟨mid, hconfig, hrest⟩
    · cases mid with
      | nil => exact ⟨by simpa using hother.symm, (List.cons.inj hrest).2⟩
      | cons c mid =>
        refine absurd ?_ hs
        rw [(List.cons.inj hrest).2]
        simp
    · cases mid with
      | nil => exact ⟨by simpa using hconfig, (List.cons.inj hrest).2.symm⟩
      | cons c mid =>
        refine absurd ?_ ht
        rw [(List.cons.inj hrest).2]
        simp
  · rw [key, key, ← base, ← base, hbase, hst]

/-- All that is kept for a queue. -/
structure Holdings where
  waiting : List String
  active : List String
  completed : List String
  failed : List String
  letters : List String
  delayed : List (Int × String)

def holdings (config : QueueConfig) (store : Store) : Holdings where
  waiting := config.waiting store
  active := config.active store
  completed := store.lists.get config.completedKey
  failed := config.failed store
  letters := store.lists.get config.deadLetterKey
  delayed := config.delayed store

/-- What is kept for a queue is kept under keys whose last parts have no colons. -/
theorem holdings_congr {store store' : Store}
    (h : ∀ suffix : String, ':' ∉ suffix.toList →
      store'.lists.get (config.key suffix) = store.lists.get (config.key suffix) ∧
        store'.sortedSets.get (config.key suffix) = store.sortedSets.get (config.key suffix)) :
    config.holdings store' = config.holdings store := by
  rw [holdings, holdings, Holdings.mk.injEq]
  exact ⟨(h "wait" (by decide)).1, (h "active" (by decide)).1, (h "completed" (by decide)).1,
    (h "failed" (by decide)).1, (h "dead-letter" (by decide)).1, (h "delayed" (by decide)).2⟩

end QueueConfig

/-! ### The operators of a queue -/

/-- What is done with a queue and its dead letters. -/
inductive OperatorOp where
  | queue (op : QueueOp)
  | record (entry : DeadLetterEntry)
  | entries (start stop : Int)
  | count

inductive OperatorReply where
  | did (result : QueueOp.Result)
  | recorded (result : Except StoreError Unit)
  | listed (result : Except StoreError (List DeadLetterEntry))
  | counted (result : Except StoreError Nat)

def OperatorOp.program (config : QueueConfig) : OperatorOp → Program OperatorReply
  | queue op => (op.program config).bind fun r => .done (.did r)
  | record entry => (DeadLetterLog.record config entry).bind fun r => .done (.recorded r)
  | entries start stop => (DeadLetterLog.entries config start stop).bind fun r => .done (.listed r)
  | count => (DeadLetterLog.count config).bind fun r => .done (.counted r)

/-- Clients of a queue and of its dead letters. Nothing has to be in hand for any operation. -/
abbrev QueueConfig.operators (config : QueueConfig) : Clients where
  Op := OperatorOp
  Reply := OperatorReply
  Thing := Empty
  program := OperatorOp.program config
  needs _ := none
  gains _ _ := none

/-- Commands name keys of a queue only. -/
def Effect.IsWithin (config : QueueConfig) (e : Effect) : Prop :=
  ∀ site c, e = .command site c → ∀ key ∈ c.keys, ∃ suffix : String, ':' ∉ suffix.toList ∧ key = config.key suffix

section

variable (config : QueueConfig)

theorem Effect.isWithin_of_keys {site : Site} {c : Command} (suffix : String) (hsuffix : ':' ∉ suffix.toList)
    (hkeys : c.keys = [config.key suffix]) : IsWithin config (.command site c) := by
  rintro _ _ ⟨⟩ key hkey
  rw [hkeys, List.mem_singleton] at hkey
  exact ⟨suffix, hsuffix, hkey⟩

theorem Queue.within_quiet : Quiet config (Effect.IsWithin config) where
  clock := nofun
  count _ _ := nofun
  pop := by
    rintro _ _ ⟨⟩ key hkey
    rcases List.mem_pair.1 hkey with rfl | rfl
    · exact ⟨"wait", by decide, rfl⟩
    · exact ⟨"active", by decide, rfl⟩
  archive _ := Effect.isWithin_of_keys config "completed" (by decide) rfl
  bury _ := Effect.isWithin_of_keys config "failed" (by decide) rfl
  release _ := Effect.isWithin_of_keys config "active" (by decide) rfl

theorem QueueOp.program_within (op : QueueOp) : (op.program config).Each (Effect.IsWithin config) :=
  program_each (Queue.within_quiet config)
    (fun _ => Effect.isWithin_of_keys config "wait" (by decide) rfl)
    (fun _ _ => Effect.isWithin_of_keys config "delayed" (by decide) rfl)
    (fun _ => Effect.isWithin_of_keys config "delayed" (by decide) rfl)
    (fun _ => Effect.isWithin_of_keys config "delayed" (by decide) rfl) op

theorem OperatorOp.program_within (op : OperatorOp) : (op.program config).Each (Effect.IsWithin config) := by
  cases op with
  | queue op => exact (op.program_within config).bind fun _ => trivial
  | record entry | entries start stop | count =>
    exact ⟨Effect.isWithin_of_keys config "dead-letter" (by decide) rfl, fun _ => trivial⟩

end

/-! ### Two queues -/

namespace QueueConfig

/-- Whatever is done with a queue and its dead letters, whichever commands fail and however the calls take turns,
leaves all that is kept for another queue as it was, in each store. -/
def LeavesAlone (config other : QueueConfig) : Prop :=
  ∀ (K : Conditions) (world : World) (s : Scene config.operators), Scene.Reachable K world s → ∀ site,
    other.holdings (s.world.client site).store = other.holdings (world.client site).store

variable {config other : QueueConfig}

theorem leavesAlone_of_base_ne (hbase : config.base ≠ other.base) : config.LeavesAlone other := by
  intro K world s h site
  refine holdings_congr fun suffix hsuffix => h.kept site fun op => ?_
  refine (op.program_within config).mono fun e he site c heq hmem => ?_
  obtain ⟨suffix', hsuffix', hkey⟩ := he site c heq _ hmem
  exact hbase ((key_eq_key_iff hsuffix hsuffix').1 hkey).1.symm

/-- Queues whose keys start with the same text have the same keys, so that a job for one waits in the other. -/
theorem not_leavesAlone_of_base_eq (hbase : config.base = other.base) : ¬ config.LeavesAlone other := by
  intro h
  have hkey : config.waitKey = other.waitKey := (key_eq_key_iff (by decide) (by decide)).2 ⟨hbase, rfl⟩
  let world : World := .new [] false 0
  let job : Job := .first "" .null
  have hanswers : world.jobs.Answers := fun _ => ⟨rfl, rfl⟩
  have hbegun : Scene.Run .reliable (Scene.start world) _ :=
    .single (.begins (C := config.operators) (.queue (.enqueue job)) rfl)
  have hpushed := hbegun.tail (.acts 0 _ _ _ _ [] [] (.of_answers hanswers rfl))
  have hwaiting : other.waiting (world.jobs.store.pushFront config.waitKey (Job.codec.text job)) =
      other.waiting world.jobs.store := congrArg Holdings.waiting (h .reliable world _ hpushed .jobs)
  rw [waiting, Store.lists_pushFront, hkey, Keyspace.get_put_self] at hwaiting
  exact List.cons_ne_self _ _ hwaiting

/-- Two queues on one store leave each other alone if and only if their scopes and names make different texts. -/
theorem leavesAlone_iff (config other : QueueConfig) : config.LeavesAlone other ↔ config.base ≠ other.base :=
  ⟨fun h hbase => not_leavesAlone_of_base_eq hbase h, leavesAlone_of_base_ne⟩

/-- A colon may belong to the scope or to the name. -/
theorem sample_shared :
    let config := named "c" "a:b"
    let other := named "b:c" "a"
    config.name ≠ "" ∧ config.scope ≠ "" ∧ other.name ≠ "" ∧ other.scope ≠ "" ∧
      config.name ≠ other.name ∧ config.scope ≠ other.scope ∧ ¬ config.LeavesAlone other := by
  refine ⟨by decide, by decide, by decide, by decide, by decide, by decide, ?_⟩
  exact not_leavesAlone_of_base_eq (by decide)

end QueueConfig

end JobQueue
