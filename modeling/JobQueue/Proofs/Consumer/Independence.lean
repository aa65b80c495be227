import JobQueue.Proofs.Consumer.Gates
import JobQueue.Proofs.Dedup.Window
import JobQueue.Proofs.Queue.Alone

/-! Deliveries of different jobs do not depend on each other. A delivery sees of a world only what no delivery
changes, and the record of its own job; and it changes no more than that record, but for what it adds at the
ends of lists that no delivery reads. -/

namespace JobQueue

/-! ### Runs with any processing service -/

/-- What an effect gives back and the world after it, if requests are processed by a delegate. -/
def World.performBy (delegate : JobRequest → Except ProcessingError Unit) (world : World) :
    (e : Effect) → World × Except Panic e.Answer
  | .process request => ({ world with requests := request :: world.requests }, .ok (delegate request))
  | e => world.perform e

/-- Runs a program to its end with a delegate. -/
def Program.runBy {α : Type} (delegate : JobRequest → Except ProcessingError Unit) (p : Program α) (world : World) :
    World × Except Panic α :=
  p.runOn (World.performBy delegate) world

theorem World.performBy_answer (world : World) (e : Effect) : world.performBy world.answer e = world.perform e := by
  cases e <;> rfl

/-- No effect changes how the service answers. -/
theorem World.answer_perform (world : World) (e : Effect) : (world.perform e).1.answer = world.answer := by
  have hrules : (world.perform e).1.rules = world.rules := by
    cases e with
    | command site c =>
      cases site with
      | jobs => rfl
      | deadLetters =>
        simp only [World.perform, World.setClient]
        split <;> rfl
    | clock | process | count => rfl
  funext request
  rw [answer, rule?, hrules]
  rfl

/-- The service of a world is one delegate. -/
theorem Program.runBy_answer {α : Type} (p : Program α) (world : World) :
    p.runBy world.answer world = p.run world := by
  rw [runBy]
  induction p generalizing world with
  | done | panic => rfl
  | step e next ih =>
    have hanswer := world.answer_perform e
    rw [runOn, run, World.performBy_answer]
    generalize world.perform e = result at hanswer ⊢
    obtain ⟨after, p | a⟩ := result
    · rfl
    · dsimp only
      rw [← ih a after, hanswer]

/-! ### What deliveries see and leave -/

/-- A world without the records of jobs, and without what deliveries add at the ends: dead letters, messages,
requests, counts, and which commands were sent. -/
def World.bare (config : QueueConfig) (world : World) : World :=
  let letterless (store : Store) : Store := store.setList config.deadLetterKey []
  let store := if world.deadLetters.isNone then letterless world.jobs.store else world.jobs.store
  { world with
    jobs := { world.jobs with calls := [], store := { store with values := .const none, published := [] } }
    deadLetters := world.deadLetters.map fun client => { client with calls := [], store := letterless client.store }
    requests := []
    counts := [] }

/-- No command times out. -/
def World.Steady (world : World) : Prop :=
  ∀ site verb, (world.client site).stalled verb = 0

/-- The dead letters of a queue. -/
def World.letters (config : QueueConfig) (world : World) : List String :=
  (world.client .deadLetters).store.lists.get config.deadLetterKey

/-- What a delivery adds at the ends. -/
structure Trail where
  letters : List String
  messages : List (String × String)
  counts : List Metric
  requests : List JobRequest

namespace Trail

def empty : Trail := ⟨[], [], [], []⟩

/-- One trail after another. -/
def append (t t' : Trail) : Trail :=
  ⟨t.letters ++ t'.letters, t.messages ++ t'.messages, t'.counts ++ t.counts, t'.requests ++ t.requests⟩

end Trail

section

variable (config : QueueConfig) (key : String)

/-- Two worlds in which a delivery sees the same. -/
structure Alike (world world' : World) : Prop where
  bare : world.bare config = world'.bare config
  record : world.jobs.store.values.get key = world'.jobs.store.values.get key

/-- What a delivery leaves that adds a trail. -/
structure Trailed (t : Trail) (world after : World) : Prop where
  bare : after.bare config = world.bare config
  records : ∀ other, other ≠ key → after.jobs.store.values.get other = world.jobs.store.values.get other
  letters : after.letters config = world.letters config ++ t.letters
  messages : after.jobs.store.published = world.jobs.store.published ++ t.messages
  counts : after.counts = t.counts ++ world.counts
  requests : after.requests = t.requests ++ world.requests

/-- From two worlds, the same comes of it, with the same trail and the same record. -/
abbrev Parallel {β : Type} (world world' : World) (r r' : World × β) : Prop :=
  ∃ t, r.2 = r'.2 ∧ Trailed config key t world r.1 ∧ Trailed config key t world' r'.1 ∧
    r.1.jobs.store.values.get key = r'.1.jobs.store.values.get key

/-- The effects of a delivery. -/
inductive Effect.IsDelivery : Effect → Prop where
  | aside (e : Effect) (h : e.IsAside config) : IsDelivery e
  | asks (value : String) (seconds : Nat) : IsDelivery (.command .jobs (.set key value seconds))
  | process (request : JobRequest) : IsDelivery (.process request)

end

variable {config : QueueConfig} {key : String} {delegate : JobRequest → Except ProcessingError Unit}
  {world world' after after' : World} {t t' : Trail}

theorem Trailed.refl : Trailed config key .empty world world :=
  ⟨rfl, fun _ _ => rfl, (List.append_nil _).symm, (List.append_nil _).symm, rfl, rfl⟩

theorem Trailed.trans {last : World} (h : Trailed config key t world after) (h' : Trailed config key t' after last) :
    Trailed config key (t.append t') world last where
  bare := h'.bare.trans h.bare
  records other hother := (h'.records other hother).trans (h.records other hother)
  letters := by rw [h'.letters, h.letters, List.append_assoc]; rfl
  messages := by rw [h'.messages, h.messages, List.append_assoc]; rfl
  counts := by rw [h'.counts, h.counts, ← List.append_assoc]; rfl
  requests := by rw [h'.requests, h.requests, ← List.append_assoc]; rfl

theorem World.client_bare (world : World) (site : Site) :
    ((world.bare config).client site).refused = (world.client site).refused ∧
      ((world.bare config).client site).stalled = (world.client site).stalled := by
  obtain ⟨jobs, deadLetters, wall, elapsed, rules, requests, counts⟩ := world
  cases site with
  | jobs => exact ⟨rfl, rfl⟩
  | deadLetters => cases deadLetters <;> exact ⟨rfl, rfl⟩

theorem World.refused_of_bare (h : world.bare config = world'.bare config) (site : Site) :
    (world.client site).refused = (world'.client site).refused := by
  rw [← (world.client_bare site).1, h, (world'.client_bare site).1]

theorem World.clocks_of_bare (h : world.bare config = world'.bare config) :
    world.wall = world'.wall ∧ world.elapsed = world'.elapsed := by
  have hwall : (world.bare config).wall = (world'.bare config).wall := by rw [h]
  have helapsed : (world.bare config).elapsed = (world'.bare config).elapsed := by rw [h]
  exact ⟨hwall, helapsed⟩

theorem World.lists_of_bare (h : world'.bare config = world.bare config) (hkey : key ≠ config.deadLetterKey) :
    world'.jobs.store.lists.get key = world.jobs.store.lists.get key := by
  have hlists : ∀ world : World, (world.bare config).jobs.store.lists.get key = world.jobs.store.lists.get key := by
    intro world
    simp only [World.bare]
    split
    · exact Keyspace.get_put_of_ne _ _ hkey
    · rfl
  rw [← hlists, h, hlists]

theorem World.sortedSets_of_bare (h : world'.bare config = world.bare config) :
    world'.jobs.store.sortedSets = world.jobs.store.sortedSets := by
  have hsets : ∀ world : World, (world.bare config).jobs.store.sortedSets = world.jobs.store.sortedSets := by
    intro world
    simp only [World.bare]
    split <;> rfl
  rw [← hsets, h, hsets]

theorem World.Steady.of_bare (h : world.Steady) (hbare : world'.bare config = world.bare config) :
    world'.Steady := by
  intro site verb
  rw [← (world'.client_bare site).2, hbare, (world.client_bare site).2]
  exact h site verb

/-! ### Effects of a delivery -/

/-- A client has sent a command. -/
def Client.sent (client : Client) (c : Command) : Client :=
  { client with calls := (c.verb, c.key) :: client.calls }

theorem Client.run_steady {client : Client} {c : Command} (now : Nat) (h : client.stalled c.verb = 0) :
    client.run now c =
      if client.refused c.verb then (client.sent c, .ok (.error (.redis .refused)))
      else match client.store.run now c with
        | .error p => (client.sent c, .error p)
        | .ok (a, store) => ({ client.sent c with store }, .ok (.ok a)) := by
  rw [run, h]
  rfl

theorem World.values_setClient {client : Client} {site : Site}
    (h : client.store.values = (world.client site).store.values) :
    (world.setClient client site).jobs.store.values = world.jobs.store.values := by
  obtain ⟨jobs, deadLetters, wall, elapsed, rules, requests, counts⟩ := world
  cases site with
  | jobs => exact h
  | deadLetters =>
    cases deadLetters with
    | none => exact h
    | some => rfl

theorem trailed_process (world : World) (request : JobRequest) :
    Trailed config key ⟨[], [], [], [request]⟩ world { world with requests := request :: world.requests } :=
  ⟨rfl, fun _ _ => rfl, (List.append_nil _).symm, (List.append_nil _).symm, rfl, rfl⟩

theorem trailed_count (world : World) (metric : Metric) :
    Trailed config key ⟨[], [], [metric], []⟩ world { world with counts := metric :: world.counts } :=
  ⟨rfl, fun _ _ => rfl, (List.append_nil _).symm, (List.append_nil _).symm, rfl, rfl⟩

/-- A command that changes no store leaves no trail. -/
theorem trailed_sent (world : World) (site : Site) (c : Command) :
    Trailed config key .empty world (world.setClient ((world.client site).sent c) site) := by
  obtain ⟨jobs, deadLetters, wall, elapsed, rules, requests, counts⟩ := world
  cases site <;> cases deadLetters <;>
    exact ⟨rfl, fun _ _ => rfl, (List.append_nil _).symm, (List.append_nil _).symm, rfl, rfl⟩

theorem trailed_publish (world : World) (channel message : String) (c : Command) :
    Trailed config key ⟨[], [(channel, message)], [], []⟩ world
      (world.setClient { world.jobs.sent c with
        store := { world.jobs.store with published := world.jobs.store.published ++ [(channel, message)] } }
        .jobs) := by
  obtain ⟨jobs, deadLetters, wall, elapsed, rules, requests, counts⟩ := world
  cases deadLetters <;> exact ⟨rfl, fun _ _ => rfl, (List.append_nil _).symm, rfl, rfl, rfl⟩

theorem setList_pushBack (store : Store) (key value : String) (items : List String) :
    (store.pushBack key value).setList key items = store.setList key items := by
  have hlists : (store.lists.put key (store.lists.get key ++ [value])).put key items = store.lists.put key items := by
    refine Keyspace.ext fun other => ?_
    rw [Keyspace.get_put, Keyspace.get_put, Keyspace.get_put]
    split <;> rfl
  exact congrArg (fun lists => { store with lists }) hlists

theorem trailed_record (world : World) (entry : String) (c : Command) :
    Trailed config key ⟨[entry], [], [], []⟩ world
      (world.setClient { (world.client .deadLetters).sent c with
        store := (world.client .deadLetters).store.pushBack config.deadLetterKey entry } .deadLetters) := by
  obtain ⟨jobs, deadLetters, wall, elapsed, rules, requests, counts⟩ := world
  cases deadLetters with
  | none =>
    refine ⟨?_, fun _ _ => rfl, Keyspace.get_put_self _ _ _, (List.append_nil _).symm, rfl, rfl⟩
    have hlists := congrArg Store.lists (setList_pushBack jobs.store config.deadLetterKey entry [])
    simp only [World.bare, World.setClient, World.client, Client.sent, Option.isNone_none, if_true, Option.getD_none,
      hlists, Option.map_none]
    rfl
  | some client =>
    refine ⟨?_, fun _ _ => rfl, Keyspace.get_put_self _ _ _, (List.append_nil _).symm, rfl, rfl⟩
    simp only [World.bare, World.setClient, World.client, Client.sent, Option.isNone_some, Option.getD_some,
      setList_pushBack, Option.map_some]
    rfl

theorem trailed_admitted (world : World) (value : Option (String × Nat)) (c : Command) :
    Trailed config key .empty world
      (world.setClient { world.jobs.sent c with
        store := { world.jobs.store with values := world.jobs.store.values.put key value } } .jobs) := by
  obtain ⟨jobs, deadLetters, wall, elapsed, rules, requests, counts⟩ := world
  cases deadLetters <;> exact ⟨rfl, fun _ hother => Keyspace.get_put_of_ne _ _ hother,
    (List.append_nil _).symm, (List.append_nil _).symm, rfl, rfl⟩

theorem World.performBy_command (hsteady : world.Steady) (site : Site) (c : Command) :
    world.performBy delegate (.command site c) =
      if (world.client site).refused c.verb then
        (world.setClient ((world.client site).sent c) site, .ok (.error (.redis .refused)))
      else match (world.client site).store.run world.elapsed c with
        | .error p => (world.setClient ((world.client site).sent c) site, .error p)
        | .ok (a, store) => (world.setClient { (world.client site).sent c with store } site, .ok (.ok a)) := by
  have hperform : world.performBy delegate (.command site c) =
      (world.setClient ((world.client site).run world.elapsed c).1 site,
        ((world.client site).run world.elapsed c).2) := rfl
  rw [hperform, Client.run_steady _ (hsteady site c.verb)]
  split
  · rfl
  · split <;> rfl

/-- A command has the same answer and leaves the same trail if it does so where it is not refused. -/
theorem command_alike {site : Site} {c : Command} (hsteady : world.Steady) (h : Alike config key world world')
    (hrun : (∃ p, (world.client site).store.run world.elapsed c = .error p ∧
        (world'.client site).store.run world'.elapsed c = .error p) ∨
      ∃ t a store store', (world.client site).store.run world.elapsed c = .ok (a, store) ∧
        (world'.client site).store.run world'.elapsed c = .ok (a, store') ∧
        Trailed config key t world (world.setClient { (world.client site).sent c with store } site) ∧
        Trailed config key t world' (world'.setClient { (world'.client site).sent c with store := store' } site) ∧
        (world.setClient { (world.client site).sent c with store } site).jobs.store.values.get key =
          (world'.setClient { (world'.client site).sent c with store := store' } site).jobs.store.values.get key) :
    Parallel config key world world' (world.performBy delegate (.command site c))
      (world'.performBy delegate (.command site c)) := by
  have hsent (world : World) :
      (world.setClient ((world.client site).sent c) site).jobs.store.values = world.jobs.store.values :=
    World.values_setClient rfl
  have hsame : (world.setClient ((world.client site).sent c) site).jobs.store.values.get key =
      (world'.setClient ((world'.client site).sent c) site).jobs.store.values.get key := by
    rw [hsent, hsent, h.record]
  rw [World.performBy_command hsteady, World.performBy_command (hsteady.of_bare h.bare.symm),
    World.refused_of_bare h.bare]
  split
  · exact ⟨.empty, rfl, trailed_sent world site c, trailed_sent world' site c, hsame⟩
  · obtain ⟨p, hp, hp'⟩ | ⟨t, a, store, store', hstore, hstore', htrail, htrail', hrecord⟩ := hrun
    · rw [hp, hp']
      exact ⟨.empty, rfl, trailed_sent world site c, trailed_sent world' site c, hsame⟩
    · rw [hstore, hstore']
      exact ⟨t, rfl, htrail, htrail', hrecord⟩

/-- Whether a record is there, and whether it can be set, is the same in both worlds. -/
theorem asks_alike (hsteady : world.Steady) (h : Alike config key world world') (value : String) (seconds : Nat) :
    Parallel config key world world' (world.performBy delegate (.command .jobs (.set key value seconds)))
      (world'.performBy delegate (.command .jobs (.set key value seconds))) := by
  obtain ⟨-, helapsed⟩ := World.clocks_of_bare h.bare
  have hset : world'.jobs.store.isSet world.elapsed key = world.jobs.store.isSet world.elapsed key := by
    rw [Store.isSet, Store.isSet, h.record]
  have hclient : ∀ world : World, world.client .jobs = world.jobs := fun _ => rfl
  refine command_alike hsteady h ?_
  simp only [Store.run, Store.set, hclient, ← helapsed, hset]
  by_cases hthere : world.jobs.store.isSet world.elapsed key = true
  · simp only [if_pos hthere]
    exact .inr ⟨_, false, _, _, rfl, rfl, trailed_sent world .jobs _, trailed_sent world' .jobs _, h.record⟩
  by_cases hreach : world.elapsed + seconds * Time.nanosPerSecond < Store.clockLimit * Time.nanosPerSecond
  · simp only [if_neg hthere, if_pos hreach]
    refine .inr ⟨_, true, _, _, rfl, rfl, trailed_admitted world _ _, trailed_admitted world' _ _, ?_⟩
    exact (Keyspace.get_put_self _ _ _).trans (Keyspace.get_put_self _ _ _).symm
  · simp only [if_neg hthere, if_neg hreach]
    exact .inl ⟨_, rfl, rfl⟩

/-- In worlds in which a delivery sees the same, its effects have the same answers and leave the same trail, and
it goes on seeing the same. -/
theorem performBy_alike {e : Effect} (he : e.IsDelivery config key) (hsteady : world.Steady)
    (h : Alike config key world world') :
    Parallel config key world world' (world.performBy delegate e) (world'.performBy delegate e) := by
  cases he with
  | process request =>
    exact ⟨_, rfl, trailed_process world request, trailed_process world' request, h.record⟩
  | asks value seconds => exact asks_alike hsteady h value seconds
  | aside e he =>
    cases he with
    | count metric =>
      exact ⟨_, rfl, trailed_count world metric, trailed_count world' metric, h.record⟩
    | clock =>
      obtain ⟨hwall, -⟩ := World.clocks_of_bare h.bare
      exact ⟨.empty, congrArg Except.ok hwall, .refl, .refl, h.record⟩
    | publish channel message =>
      exact command_alike hsteady h (.inr ⟨_, (), _, _, rfl, rfl, trailed_publish world channel message _,
        trailed_publish world' channel message _, h.record⟩)
    | record entry =>
      have hrecorded (world : World) :
          (world.setClient { (world.client .deadLetters).sent (.rpush config.deadLetterKey entry) with
            store := (world.client .deadLetters).store.pushBack config.deadLetterKey entry }
            .deadLetters).jobs.store.values = world.jobs.store.values :=
        World.values_setClient rfl
      refine command_alike hsteady h (.inr ⟨_, (), _, _, rfl, rfl, trailed_record world entry _,
        trailed_record world' entry _, ?_⟩)
      rw [hrecorded, hrecorded, h.record]

/-! ### Deliveries -/

/-- In worlds in which a delivery sees the same, it ends in the same way and leaves the same trail. -/
theorem runBy_alike {α : Type} {p : Program α} (hp : p.Each (Effect.IsDelivery config key)) (hsteady : world.Steady)
    (h : Alike config key world world') :
    Parallel config key world world' (p.runBy delegate world) (p.runBy delegate world') := by
  induction p generalizing world world' with
  | done | panic => exact ⟨.empty, rfl, .refl, .refl, h.record⟩
  | step e next ih =>
    obtain ⟨he, hnext⟩ := hp
    obtain ⟨t, hresult, htrail, htrail', hrecord⟩ := performBy_alike he hsteady h
    rw [Program.runBy, Program.runBy, Program.runOn, Program.runOn]
    generalize world.performBy delegate e = result at hresult htrail hrecord ⊢
    generalize world'.performBy delegate e = result' at hresult htrail' hrecord ⊢
    obtain ⟨after, p | a⟩ := result <;> obtain ⟨after', p' | a'⟩ := result' <;> cases hresult
    · exact ⟨t, rfl, htrail, htrail', hrecord⟩
    · have hafter : Alike config key after after' :=
        ⟨htrail.bare.trans (h.bare.trans htrail'.bare.symm), hrecord⟩
      obtain ⟨later, hresult, hlater, hlater', hrecord⟩ := ih a (hnext a) (hsteady.of_bare htrail.bare) hafter
      exact ⟨t.append later, hresult, htrail.trans hlater, htrail'.trans hlater', hrecord⟩

namespace Consumer

variable (consumer : Consumer)

theorem handle_isDelivery (job : Job) :
    (consumer.handle job).Each (Effect.IsDelivery consumer.queue (Dedup.key job.id)) :=
  consumer.handle_each job .aside (.asks _ _) .process

variable (delegate : JobRequest → Except ProcessingError Unit)

/-- Handles some deliveries one after the other, all at the same time. A delivery that panics has no outcome. -/
def handleAll : List Job → World → World × List (Job × Except Panic Outcome)
  | [], world => (world, [])
  | job :: jobs, world =>
    let (after, outcome) := (consumer.handle job).runBy delegate world
    let (last, outcomes) := handleAll jobs after
    (last, (job, outcome) :: outcomes)

/-- What two deliveries leave in the one and in the other order. -/
structure Swapped (world first second : World) : Prop where
  bare : first.bare consumer.queue = world.bare consumer.queue ∧ second.bare consumer.queue = world.bare consumer.queue
  records : first.jobs.store.values = second.jobs.store.values
  lists : ∀ key, key ≠ consumer.queue.deadLetterKey →
    first.jobs.store.lists.get key = second.jobs.store.lists.get key
  sortedSets : first.jobs.store.sortedSets = second.jobs.store.sortedSets
  counts : first.counts.Perm second.counts
  requests : first.requests.Perm second.requests
  letters : ∃ entries entries', first.letters consumer.queue = world.letters consumer.queue ++ entries ++ entries' ∧
    second.letters consumer.queue = world.letters consumer.queue ++ entries' ++ entries
  messages : ∃ sent sent', first.jobs.store.published = world.jobs.store.published ++ sent ++ sent' ∧
    second.jobs.store.published = world.jobs.store.published ++ sent' ++ sent

theorem exists_trailed (hsteady : world.Steady) (job : Job) :
    ∃ t, Trailed consumer.queue (Dedup.key job.id) t world ((consumer.handle job).runBy delegate world).1 := by
  obtain ⟨t, -, htrail, -⟩ := runBy_alike (consumer.handle_isDelivery job) hsteady ⟨rfl, rfl⟩
  exact ⟨t, htrail⟩

variable {consumer delegate}

/-- A delivery of one job leaves what deliveries of another one see. -/
theorem alike_handle (hsteady : world.Steady) {job : Job} {id : String} (hid : id ≠ job.id) :
    Alike consumer.queue (Dedup.key id) world ((consumer.handle job).runBy delegate world).1 := by
  obtain ⟨t, htrail⟩ := exists_trailed consumer delegate hsteady job
  exact ⟨htrail.bare.symm, (htrail.records _ (mt Dedup.key_eq_iff.1 hid)).symm⟩

/-- Two deliveries of different jobs have the same outcomes in both orders, and what they leave differs at most in
the order of what they add. -/
theorem swapped (hsteady : world.Steady) {a b : Job} (hids : a.id ≠ b.id) :
    ∃ outcome outcome', (consumer.handleAll delegate [a, b] world).2 = [(a, outcome), (b, outcome')] ∧
      (consumer.handleAll delegate [b, a] world).2 = [(b, outcome'), (a, outcome)] ∧
      consumer.Swapped world (consumer.handleAll delegate [a, b] world).1
        (consumer.handleAll delegate [b, a] world).1 := by
  have hseen : Alike consumer.queue (Dedup.key a.id) world ((consumer.handle b).runBy delegate world).1 :=
    alike_handle hsteady hids
  have hseen' : Alike consumer.queue (Dedup.key b.id) world ((consumer.handle a).runBy delegate world).1 :=
    alike_handle hsteady hids.symm
  obtain ⟨t, hresult, ha, hba, hrecord⟩ := runBy_alike (consumer.handle_isDelivery a) hsteady hseen
  obtain ⟨t', hresult', hb, hab, hrecord'⟩ := runBy_alike (consumer.handle_isDelivery b) hsteady hseen'
  simp only [handleAll]
  refine ⟨((consumer.handle a).runBy delegate world).2, ((consumer.handle b).runBy delegate world).2, ?_, ?_, ?_⟩
  · rw [hresult']
  · rw [hresult]
  have hkeys : Dedup.key a.id ≠ Dedup.key b.id := mt Dedup.key_eq_iff.1 hids
  exact {
    bare := ⟨hab.bare.trans ha.bare, hba.bare.trans hb.bare⟩
    records := by
      refine Keyspace.ext fun key => ?_
      by_cases hkey : key = Dedup.key a.id
      · subst hkey
        rw [hab.records _ hkeys, hrecord]
      by_cases hkey' : key = Dedup.key b.id
      · subst hkey'
        rw [hba.records _ hkeys.symm, hrecord']
      · rw [hab.records _ hkey', ha.records _ hkey, hba.records _ hkey, hb.records _ hkey']
    lists := fun key hkey => by
      rw [World.lists_of_bare (hab.bare.trans ha.bare) hkey, World.lists_of_bare (hba.bare.trans hb.bare) hkey]
    sortedSets := by
      rw [World.sortedSets_of_bare (hab.bare.trans ha.bare), World.sortedSets_of_bare (hba.bare.trans hb.bare)]
    counts := by
      rw [hab.counts, ha.counts, hba.counts, hb.counts]
      exact List.perm_append_comm_assoc _ _ _
    requests := by
      rw [hab.requests, ha.requests, hba.requests, hb.requests]
      exact List.perm_append_comm_assoc _ _ _
    letters := ⟨t.letters, t'.letters, by rw [hab.letters, ha.letters], by rw [hba.letters, hb.letters]⟩
    messages := ⟨t.messages, t'.messages, by rw [hab.messages, ha.messages], by rw [hba.messages, hb.messages]⟩ }

/-- The deliveries of one job have the outcomes that they have without those of others. -/
theorem handleAll_filter (id : String) (jobs : List Job) (hsteady : world.Steady)
    (h : Alike consumer.queue (Dedup.key id) world world') :
    (consumer.handleAll delegate jobs world).2.filter (·.1.id == id) =
      (consumer.handleAll delegate (jobs.filter (·.id == id)) world').2 := by
  induction jobs generalizing world world' with
  | nil => rfl
  | cons job jobs ih =>
    obtain ⟨t, htrail⟩ := exists_trailed consumer delegate hsteady job
    by_cases hid : id = job.id
    · subst hid
      obtain ⟨later, hresult, hlater, hlater', hrecord⟩ := runBy_alike (consumer.handle_isDelivery job) hsteady h
      have hafter := ih (hsteady.of_bare htrail.bare) ⟨hlater.bare.trans (h.bare.trans hlater'.bare.symm), hrecord⟩
      simp only [handleAll, List.filter_cons, beq_self_eq_true, if_true, hresult, hafter]
    · have hafter : Alike consumer.queue (Dedup.key id) ((consumer.handle job).runBy delegate world).1 world' :=
        ⟨htrail.bare.trans h.bare, (htrail.records _ (mt Dedup.key_eq_iff.1 hid)).trans h.record⟩
      have hother : (job.id == id) = false := beq_false_of_ne (Ne.symm hid)
      simp only [handleAll, List.filter_cons, hother, Bool.false_eq_true, if_false]
      exact ih (hsteady.of_bare htrail.bare) hafter

variable (consumer delegate) in
/-- Deliveries of different jobs do not depend on each other: two of them can change places, and in any order that
keeps the one of each job's deliveries, all deliveries have the same outcomes. -/
theorem deliveries_independent (hsteady : world.Steady) :
    (∀ a b : Job, a.id ≠ b.id → ∃ outcome outcome',
      (consumer.handleAll delegate [a, b] world).2 = [(a, outcome), (b, outcome')] ∧
        (consumer.handleAll delegate [b, a] world).2 = [(b, outcome'), (a, outcome)] ∧
        consumer.Swapped world (consumer.handleAll delegate [a, b] world).1
          (consumer.handleAll delegate [b, a] world).1) ∧
      ∀ jobs jobs' : List Job, (∀ id, jobs.filter (·.id == id) = jobs'.filter (·.id == id)) →
        ∀ id, (consumer.handleAll delegate jobs world).2.filter (·.1.id == id) =
          (consumer.handleAll delegate jobs' world).2.filter (·.1.id == id) := by
  refine ⟨fun a b hids => swapped hsteady hids, fun jobs jobs' hjobs id => ?_⟩
  rw [handleAll_filter id jobs hsteady ⟨rfl, rfl⟩, handleAll_filter id jobs' hsteady ⟨rfl, rfl⟩, hjobs id]

/-- A world in which no message is published. -/
def sampleMuted : World :=
  { World.new [⟨"q", 0, some "boom"⟩] false 0 with jobs := Client.empty.refuse .publish }

/-- A job without a payload is rejected between two deliveries of another one, or before them. -/
theorem sample_independent :
    let consumer : Consumer := ⟨.sample, .ofSeconds 60, Validation.defaultMaxQueryLength⟩
    let other : Job := .first "j2" .null
    let handled (jobs : List Job) := consumer.handleAll sampleMuted.answer jobs sampleMuted
    sampleMuted.Steady ∧ Job.sample.id ≠ other.id ∧
      consumer.Swapped sampleMuted (handled [.sample, other]).1 (handled [other, .sample]).1 ∧
      (handled [.sample, other, .sample]).2.filter (·.1.id == "j1") =
        (handled [other, .sample, .sample]).2.filter (·.1.id == "j1") ∧
      (handled [.sample, other, .sample]).1.letters .sample ≠
        (handled [other, .sample, .sample]).1.letters .sample := by
  intro consumer other handled
  have hsteady : sampleMuted.Steady := fun site _ => by cases site <;> rfl
  have hids : Job.sample.id ≠ other.id := by decide
  obtain ⟨hswap, horder⟩ := deliveries_independent consumer sampleMuted.answer hsteady
  obtain ⟨_, _, -, -, hswapped⟩ := hswap .sample other hids
  refine ⟨hsteady, hids, hswapped, horder _ _ (fun id => ?_) "j1", by decide +kernel⟩
  by_cases hid : Job.sample.id == id <;> by_cases hid' : other.id == id <;> simp [hid, hid']
  · exact absurd ((eq_of_beq hid).trans (eq_of_beq hid').symm) hids

end Consumer

end JobQueue
