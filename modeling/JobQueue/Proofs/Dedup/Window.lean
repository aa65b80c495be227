import JobQueue.Dedup
import JobQueue.Proofs.Store.Commands
import JobQueue.Proofs.Trace

/-! The records of the dedup gate. As long as nothing else sets values, the record of a job tells when the
job was last let through, and so the job gets through once in every window. -/

namespace JobQueue

open Time (Duration)

/-! ### Values of a store -/

def Command.isSet : Command → Bool
  | .set .. => true
  | _ => false

/-- An effect is to set a value. -/
def Effect.isSet : Effect → Bool
  | .command _ c => c.isSet
  | _ => false

/-- Values are set by nothing but their command. -/
theorem Store.run_values {now : Nat} {store store' : Store} {c : Command} {a : c.Answer}
    (hset : c.isSet = false) (h : store.run now c = .ok (a, store')) : store'.values = store.values := by
  cases c with
  | set key value seconds => cases hset
  | rpoplpush source target =>
    obtain rfl : (store.rotate source target).2 = store' := by rw [Except.ok.inj h]
    unfold Store.rotate
    split <;> rfl
  | _ => cases h; rfl

theorem Store.set_eq {now : Nat} {store store' : Store} {key value : String} {seconds : Nat} {b : Bool}
    (h : store.set now key value seconds = .ok (b, store')) :
    b = !store.isSet now key ∧ store'.values =
      if b then store.values.put key (some (value, now + seconds * Time.nanosPerSecond))
      else store.values := by
  unfold Store.set at h
  split at h
  next hset =>
    cases h
    simp [hset]
  next hset =>
    dsimp only at h
    split at h
    · cases h
      simp [hset]
    · cases h

/-- To set a value succeeds as long as the clock can tell when it expires. -/
theorem Store.exists_run_set {now seconds : Nat} (store : Store) (key value : String)
    (h : now + seconds * Time.nanosPerSecond < clockLimit * Time.nanosPerSecond) :
    ∃ store', store.run now (.set key value seconds) = .ok (!store.isSet now key, store') := by
  change ∃ store', store.set now key value seconds = _
  unfold Store.set
  by_cases hset : store.isSet now key = true
  · exact ⟨store, by rw [if_pos hset, hset]; rfl⟩
  · exact ⟨_, by rw [if_neg hset, if_pos h, Bool.of_not_eq_true hset]; rfl⟩

/-- An effect that is not to set a value sets none. -/
theorem Happens.values {failing : Prop} {world world' : World} {e : Effect} {r : Except Panic e.Answer}
    (h : Happens failing world e world' r) (hset : e.isSet = false) :
    world'.jobs.store.values = world.jobs.store.values := by
  refine h.keeps (P := fun store => store.values = world.jobs.store.values) ?_ rfl
  rintro site c now store a store' rfl hrun hsame
  rw [Store.run_values hset hrun, hsame]

namespace Dedup

theorem key_eq_iff {id id' : String} : key id = key id' ↔ id = id' := by
  simp [key]

/-! ### Windows -/

/-- The time for which a record is kept, in nanoseconds. -/
def windowNanos (window : Duration) : Nat :=
  windowSeconds window * Time.nanosPerSecond

/-- A window is not empty, however short it is set. -/
theorem windowNanos_pos (window : Duration) : 0 < windowNanos window :=
  Nat.mul_pos (Nat.lt_of_lt_of_le Nat.zero_lt_one (Nat.le_max_right ..)) (by decide)

/-! ### Records -/

/-- The store has as the record of every job the one of the last of some times, which are a window apart, or
the one from the start. -/
structure Kept (window : Duration) (initial store : Store) (times : String → List Nat) : Prop where
  values : ∀ id, store.values.get (key id) =
    (times id).head?.elim (initial.values.get (key id)) fun time => some (mark, time + windowNanos window)
  spaced : ∀ id, (times id).Pairwise fun later earlier => earlier + windowNanos window ≤ later

namespace Kept

variable {window : Duration} {initial store store' : Store} {times times' : String → List Nat}

/-- One of the windows is not over exactly if the last one is not. -/
theorem isSet_iff_of_get {store : Store} {key value : String} {nanos now last : Nat} {times : List Nat}
    (hvalue : store.values.get key = some (value, last + nanos))
    (h : ∀ time ∈ times, time + nanos ≤ last) :
    store.isSet now key = true ↔ ∃ time ∈ last :: times, now < time + nanos := by
  rw [Store.isSet, hvalue, Option.any_some, decide_eq_true_iff]
  refine ⟨fun hlast => ⟨last, .head _, hlast⟩, fun ⟨time, htime, hlt⟩ => ?_⟩
  obtain rfl | htime := List.mem_cons.1 htime
  · exact hlt
  · have := h time htime
    omega

/-- A job has a record as long as a window is not over, or if it has the one from the start. -/
theorem isSet_iff (hk : Kept window initial store times) (id : String) (now : Nat) :
    store.isSet now (key id) = true ↔ (∃ time ∈ times id, now < time + windowNanos window) ∨
      (times id = [] ∧ initial.isSet now (key id) = true) := by
  have hvalue := hk.values id
  have hspaced := hk.spaced id
  cases htimes : times id with
  | nil =>
    rw [htimes] at hvalue
    rw [Store.isSet, hvalue]
    simp [Store.isSet]
  | cons last earlier =>
    rw [htimes, List.head?_cons, Option.elim_some] at hvalue
    rw [htimes, List.pairwise_cons] at hspaced
    rw [isSet_iff_of_get hvalue hspaced.1]
    exact ⟨.inl, fun h => h.resolve_right nofun⟩

theorem congr (hk : Kept window initial store times) (hvalues : store'.values = store.values)
    (htimes : ∀ id, times' id = times id) : Kept window initial store' times' :=
  ⟨fun id => by rw [hvalues, htimes]; exact hk.values id, fun id => by rw [htimes]; exact hk.spaced id⟩

/-- To set the record of a job is to let it through, unless it has one. -/
theorem set (hk : Kept window initial store times) {now : Nat} {id : String} {b : Bool}
    (hrun : store.run now (.set (key id) mark (windowSeconds window)) = .ok (b, store'))
    (htimes : ∀ id', times' id' = if id = id' ∧ b = true then now :: times id' else times id') :
    b = (!store.isSet now (key id)) ∧ Kept window initial store' times' := by
  obtain ⟨hb, hvalues⟩ := Store.set_eq hrun
  refine ⟨hb, ?_⟩
  cases b with
  | false => exact hk.congr hvalues fun id' => by rw [htimes, if_neg fun h => nomatch h.2]
  | true =>
    rw [if_pos rfl] at hvalues
    refine ⟨fun id' => ?_, fun id' => ?_⟩
    all_goals
      rw [htimes]
      by_cases hid : id = id'
    · rw [if_pos ⟨hid, rfl⟩, hvalues, hid, Keyspace.get_put_self, List.head?_cons, Option.elim_some,
        windowNanos]
    · rw [if_neg fun h => hid h.1, hvalues, Keyspace.get_put_of_ne _ _ fun h => hid (key_eq_iff.1 h).symm]
      exact hk.values id'
    · have hset : ¬store.isSet now (key id) = true := by simpa using hb.symm
      rw [if_pos ⟨hid, rfl⟩]
      refine .cons (fun time htime => Nat.not_lt.1 fun hlt => hset ?_) (hk.spaced id')
      exact (hk.isSet_iff id now).2 (.inl ⟨time, hid ▸ htime, hlt⟩)
    · rw [if_neg fun h => hid h.1]
      exact hk.spaced id'

end Kept

/-! ### Admissions -/

/-- An effect sets no value but a record of the gate. -/
def Guards (window : Duration) (e : Effect) : Prop :=
  e.isSet = false ∨ ∃ id, e = .command .jobs (.set (key id) mark (windowSeconds window))

/-- A job got through. -/
def admits (id : String) : Deed → Bool
  | ⟨.command _ (.set key _ _), .ok true⟩ => key == Dedup.key id
  | _ => false

variable {C : Clients}

/-- The times at which a job got through, the last one first. -/
def admissions (id : String) (history : List (Event C)) : List Nat :=
  history.filterMap fun
    | .did _ _ time _ e a => if admits id ⟨e, a⟩ then some time else none
    | _ => none

/-- A job has a record at a time if it got through and its window is not over, or if it never did but had
one from the start. -/
def Recorded (window : Duration) (store : Store) (id : String) (history : List (Event C)) (now : Nat) :
    Prop :=
  (∃ time ∈ admissions id history, now < time + windowNanos window) ∨
    (admissions id history = [] ∧ store.isSet now (key id) = true)

/-- The gate lets a job through exactly if it has no record. -/
def Fair (window : Duration) (store : Store) (earlier : List (Event C)) : Event C → Prop
  | .did _ _ now _ (.command _ (.set k _ _)) (.ok b) =>
    ∀ id, k = key id → (b = true ↔ ¬Recorded window store id earlier now)
  | _ => True

/-- The records of the jobs tell when they were last let through, and the gate goes by its records. -/
structure Records (window : Duration) (store : Store) (s : Scene C) : Prop where
  values : ∀ id, s.world.jobs.store.values.get (key id) =
    (admissions id s.history).head?.elim (store.values.get (key id))
      fun time => some (mark, time + windowNanos window)
  spaced : ∀ id, (admissions id s.history).Pairwise fun later earlier =>
    earlier + windowNanos window ≤ later
  fair : ∀ later event earlier, s.history = later ++ event :: earlier →
    Fair window store earlier event

theorem fair_cons {window : Duration} {store : Store} {event : Event C} {history : List (Event C)}
    (h : Fair window store history event)
    (hfair : ∀ later event earlier, history = later ++ event :: earlier →
      Fair window store earlier event) :
    ∀ later event' earlier, event :: history = later ++ event' :: earlier →
      Fair window store earlier event' := by
  intro later event' earlier heq
  cases later with
  | nil =>
    obtain ⟨rfl, rfl⟩ := List.cons.inj heq
    exact h
  | cons _ later => exact hfair later event' earlier (List.cons.inj heq).2

/-- Only commands that set values ask the gate. -/
theorem fair_of_not_isSet {window : Duration} {store : Store} {n now : Nat} {op : C.Op} {wall : Int}
    {e : Effect} {a : e.Answer} {earlier : List (Event C)} (h : e.isSet = false) :
    Fair window store earlier (.did n op now wall e a) := by
  unfold Fair
  split
  next heq =>
    cases heq
    cases h
  next => trivial

theorem admissions_did (id : String) (n time : Nat) (op : C.Op) (wall : Int) (e : Effect) (a : e.Answer)
    (history : List (Event C)) :
    admissions id (.did n op time wall e a :: history) =
      if admits id ⟨e, a⟩ then time :: admissions id history else admissions id history := by
  cases h : admits id ⟨e, a⟩ <;> simp [admissions, h]

/-- Nothing but the setting of a value is an admission. -/
theorem admits_eq_false {id : String} {e : Effect} {a : e.Answer}
    (h : e.isSet = false) : admits id ⟨e, a⟩ = false := by
  unfold admits
  split
  next heq =>
    cases heq
    cases h
  next => rfl

theorem admits_set {id id' : String} {site : Site} {value : String} {seconds : Nat}
    {r : Except StoreError Bool} :
    admits id ⟨.command site (.set (key id') value seconds), r⟩ = true ↔ id' = id ∧ r = .ok true := by
  obtain error | _ | _ := r <;> simp [admits, key_eq_iff]

namespace Records

variable {window : Duration} {initial : Store} {s s' : Scene C}

theorem kept (hr : Records window initial s) :
    Kept window initial s.world.jobs.store fun id => admissions id s.history :=
  ⟨hr.values, hr.spaced⟩

/-- The store has the record of a job as long as the job is recorded. -/
theorem isSet_iff (hr : Records window initial s) (id : String) (now : Nat) :
    s.world.jobs.store.isSet now (key id) = true ↔ Recorded window initial id s.history now :=
  hr.kept.isSet_iff id now

section

variable {world world' : World} {calls calls' : List (Call C)} {hands : List C.Thing} {begun n : Nat}
  {history : List (Event C)} {op : C.Op}

/-- As long as nothing gets through, the records stay as they are. -/
theorem same {e : Effect} {a : e.Answer} (hr : Records window initial ⟨world, calls, hands, begun, history⟩)
    (hadmits : ∀ id, ¬admits id ⟨e, a⟩ = true)
    (hvalues : world'.jobs.store.values = world.jobs.store.values)
    (hfair : Fair window initial history (.did n op world.elapsed world.wall e a)) :
    Records window initial
      ⟨world', calls', hands, begun, .did n op world.elapsed world.wall e a :: history⟩ := by
  have hkept : Kept window initial world'.jobs.store fun id =>
      admissions id (.did n op world.elapsed world.wall e a :: history) :=
    hr.kept.congr hvalues fun id => by rw [admissions_did, if_neg (hadmits id)]
  exact ⟨hkept.values, hkept.spaced, fair_cons hfair hr.fair⟩

/-- To set the record of a job is to let it through, unless it has one. -/
theorem set {failing : Prop} {id : String} {r : Except StoreError Bool}
    (hr : Records window initial ⟨world, calls, hands, begun, history⟩)
    (h : Happens failing world (.command .jobs (.set (key id) mark (windowSeconds window))) world'
      (.ok r)) :
    Records window initial ⟨world', calls', hands, begun, .did n op world.elapsed world.wall
      (.command .jobs (.set (key id) mark (windowSeconds window))) r :: history⟩ := by
  obtain ⟨error, rfl, hsame⟩ | ⟨b, store, rfl, hrun, hstore⟩ := h.jobs
  · exact hr.same (fun id' => by simp [admits_set]) (congrArg _ hsame) trivial
  have hset := hr.isSet_iff id world.elapsed
  have htimes : ∀ id', admissions id' (.did n op world.elapsed world.wall
      (.command .jobs (.set (key id) mark (windowSeconds window))) (Except.ok b) :: history) =
        if id = id' ∧ b = true then world.elapsed :: admissions id' history else admissions id' history := by
    intro id'
    rw [admissions_did]
    simp only [admits_set, Except.ok.injEq]
  obtain ⟨hb, hkept⟩ := hr.kept.set hrun htimes
  rw [← hstore] at hkept
  refine ⟨hkept.values, hkept.spaced, fair_cons (fun id' hid => ?_) hr.fair⟩
  obtain rfl := key_eq_iff.1 hid
  rw [← hset, hb, Bool.not_eq_true', Bool.not_eq_true]

end

theorem step {K : Conditions} (hguards : ∀ op, (C.program op).Each (Guards window)) (ht : s.Tracked)
    (h : Scene.Step K s s') (hr : Records window initial s) : Records window initial s' := by
  cases h with
  | acts n op e next a left right h =>
    have hguard : Guards window e := ht.each (List.mem_append_right left (.head right)) (hguards op)
    obtain hset | ⟨id, rfl⟩ := hguard
    · exact hr.same (fun id => by simp [admits_eq_false hset]) (h.values hset) (fair_of_not_isSet hset)
    · exact hr.set h
  | breaks n op e next p left right h =>
    have hguard : Guards window e := ht.each (List.mem_append_right left (.head right)) (hguards op)
    refine ⟨fun id => Eq.trans ?_ (hr.values id), hr.spaced, hr.fair⟩
    obtain hset | ⟨id, rfl⟩ := hguard
    · rw [h.values hset]
    · rw [h.jobs_error.2]
  | drifts h =>
    cases h
    exact ⟨hr.values, hr.spaced, hr.fair⟩
  | _ => exact ⟨hr.values, hr.spaced, fair_cons trivial hr.fair⟩

theorem of_reachable (window : Duration) {K : Conditions} {world : World}
    (hguards : ∀ op, (C.program op).Each (Guards window)) (h : Scene.Reachable K world s) :
    Records window world.jobs.store s := by
  induction h with
  | refl =>
    exact ⟨fun _ => rfl, fun _ => .nil, fun _ _ _ heq => by cases (List.append_eq_nil_iff.1 heq.symm).2⟩
  | tail hrun hstep ih => exact ih.step hguards (Scene.Reachable.tracked hrun) hstep

end Records

/-- To ask the gate is to let a job through unless the store has its record. -/
theorem run_claim {window : Duration} {world : World} (id : String) (hanswers : world.jobs.Answers)
    (hlimit : world.elapsed + windowNanos window < Store.clockLimit * Time.nanosPerSecond) :
    ((claim window id).run world).2 =
      .ok (.ok (!world.jobs.store.isSet world.elapsed (key id))) := by
  obtain ⟨store, hrun⟩ := Store.exists_run_set world.jobs.store (key id) mark hlimit
  rw [claim, Program.send, Program.perform, Program.run, World.perform_of_answers hanswers hrun]
  rfl

end Dedup

end JobQueue
