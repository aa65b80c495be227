import JobQueue.Proofs.Queue.Promoted
import JobQueue.Proofs.Queue.Poll
import JobQueue.Proofs.Queue.Schedule

/-! A queue is first in, first out. Texts are pushed to one end of those that wait and taken off the other,
whatever they say and however calls take turns; and a promotion that is alone pushes all that is due, in the
order in which it is due. -/

namespace JobQueue

open Time (Duration)

/-! ### What is pushed and what is taken -/

/-- The text that a deed pushes to the front of a list. -/
def Deed.pushed? (key : String) : Deed → Option String
  | ⟨.command _ (.lpush k text), .ok _⟩ => if k = key then some text else none
  | _ => none

/-- The text that a deed takes off the end of a list. -/
def Deed.taken? (key : String) : Deed → Option String
  | ⟨.command _ (.rpoplpush source _), .ok (some text)⟩ => if source = key then some text else none
  | _ => none

namespace QueueConfig

variable (config : QueueConfig)

/-- The text that an event pushes to those that wait. -/
def arrives? : Event config.clients → Option String
  | .did _ (.enqueue _) _ _ e a => Deed.pushed? config.waitKey ⟨e, a⟩
  | .did _ .promoteDue _ _ e a => Deed.pushed? config.waitKey ⟨e, a⟩
  | _ => none

/-- The text that an event takes off those that wait. -/
def departs? : Event config.clients → Option String
  | .did _ .dequeue _ _ e a => Deed.taken? config.waitKey ⟨e, a⟩
  | _ => none

/-- What enqueuings and promotions have pushed, in the order of the pushes. -/
def arrivals (history : List (Event config.clients)) : List String :=
  history.reverse.filterMap config.arrives?

/-- What dequeuings have taken off, in the order in which they did. -/
def departures (history : List (Event config.clients)) : List String :=
  history.reverse.filterMap config.departs?

theorem arrivals_cons (event : Event config.clients) (history : List (Event config.clients)) :
    config.arrivals (event :: history) = config.arrivals history ++ (config.arrives? event).toList := by
  rw [arrivals, List.reverse_cons, List.filterMap_append, arrivals]
  cases harrives : config.arrives? event <;> simp [harrives]

theorem departures_cons (event : Event config.clients) (history : List (Event config.clients)) :
    config.departures (event :: history) = config.departures history ++ (config.departs? event).toList := by
  rw [departures, List.reverse_cons, List.filterMap_append, departures]
  cases hdeparts : config.departs? event <;> simp [hdeparts]

end QueueConfig

variable {config : QueueConfig}

namespace QueueStage

variable {world : World} {op : QueueOp} {stage stage' : QueueStage} {e : Effect} {a : e.Answer} {store : Store}

theorem fits_pushing {envelope : String} :
    Fits op (pushing envelope) ↔ ∃ job, op = .enqueue job ∧ envelope = Job.codec.text job := by
  cases op <;> simp [Fits]

theorem fits_popping : Fits op popping ↔ op = .dequeue := by
  cases op <;> simp [Fits]

/-- What a move pushes comes last of those that wait, and what it takes off was the first of them. -/
theorem Move.in_order (move : Move config world stage e a store stage') (hfits : Fits op stage) (n time : Nat)
    (wall : Int) :
    (config.waiting world.jobs.store).reverse ++ (config.arrives? (.did n op time wall e a)).toList =
      (config.departs? (.did n op time wall e a)).toList ++ (config.waiting store).reverse := by
  cases move with
  | pushed envelope =>
    obtain ⟨job, rfl, -⟩ := fits_pushing.1 hfits
    simp [QueueConfig.arrives?, QueueConfig.departs?, Deed.pushed?]
  | requeued now envelope due promoted =>
    obtain rfl := fits_requeuing.1 hfits
    simp [QueueConfig.arrives?, QueueConfig.departs?, Deed.pushed?]
  | reserved envelope job hlast | unreadable envelope fault hlast =>
    obtain rfl := fits_popping.1 hfits
    obtain ⟨rest, hrest⟩ := List.getLast?_eq_some_iff.1 hlast
    rw [(config.holds_rotate _ hlast).1, hrest]
    simp [QueueConfig.arrives?, QueueConfig.departs?, Deed.taken?]
  | _ => cases op <;> simp [QueueConfig.arrives?, QueueConfig.departs?, Deed.pushed?, Deed.taken?]

/-- Delayed members stay in their order. -/
theorem Move.ranked (move : Move config world stage e a store stage')
    (hdue : ∀ held next due, stage = scheduling held next due → Word.signedMin64 ≤ due)
    (h : Store.IsRanked (config.delayed world.jobs.store)) : Store.IsRanked (config.delayed store) := by
  cases move with
  | reserved envelope job hlast | unreadable envelope fault hlast =>
    rwa [(config.holds_rotate _ hlast).2.2.2]
  | scheduled held next due =>
    rw [(config.holds_setSorted_delayedKey _ _).2.2.2]
    exact h.insert (hdue held next due rfl) (Job.codec.text next)
  | removed now next envelopes promoted hpresent | missed now next envelopes promoted habsent =>
    rw [(config.holds_setSorted_delayedKey _ _).2.2.2]
    exact h.withoutMember next
  | _ => simpa using h

end QueueStage

namespace QueueScene

variable {K : Conditions} {t t' : QueueScene config} {world : World}

theorem Step.in_order (h : Step K t t') (hs : t.Sound) {before : List String}
    (ht : before ++ config.arrivals t.history =
      config.departures t.history ++ (config.waiting t.store).reverse) :
    before ++ config.arrivals t'.history =
      config.departures t'.history ++ (config.waiting t'.store).reverse := by
  cases h with
  | acts n op stage stage' e a left right h move =>
    have hmove := move.in_order (hs.fits ⟨n, op, stage⟩ (by simp)) n
    rw [config.arrivals_cons, config.departures_cons, ← List.append_assoc, ht, List.append_assoc, hmove,
      ← List.append_assoc]
  | drifts h =>
    cases h
    exact ht
  | _ => simpa [QueueConfig.arrivals_cons, QueueConfig.departures_cons, QueueConfig.arrives?,
      QueueConfig.departs?] using ht

theorem Run.in_order (h : Run K (start config world) t) :
    (config.waiting world.jobs.store).reverse ++ config.arrivals t.history =
      config.departures t.history ++ (config.waiting t.store).reverse := by
  induction h with
  | refl => exact List.append_nil _
  | tail hrun hstep ih => exact hstep.in_order (Run.invariant hrun).1 ih

/-- Delayed members stay in their order, and none of them has a score below that of the least word. -/
theorem Run.ranked (h : Run K (start config world) t)
    (hworld : Store.IsRanked (config.delayed world.jobs.store)) : Store.IsRanked (config.delayed t.store) := by
  induction h with
  | refl => exact hworld
  | tail hrun hstep ih =>
    cases hstep with
    | acts n op stage stage' e a left right h move =>
      refine move.ranked (fun held next due hstage => ?_) ih
      subst hstage
      have hfits := (Run.invariant hrun).1.fits ⟨n, op, .scheduling held next due⟩ (by simp)
      obtain ⟨reserved, delay, rfl, -⟩ := QueueStage.fits_scheduling.1 hfits
      obtain ⟨wall, -, hdue⟩ := (Run.timed hrun).scheduling n reserved delay held next due (by simp)
      obtain ⟨hpos, -, rfl, -⟩ := QueueStage.dueFrom_eq_ok.1 hdue
      have hleast := delay.signedMillis_range.1
      have hmillis : 0 ≤ wall / Time.nanosPerMilli := Int.ediv_nonneg hpos (by decide)
      omega
    | drifts h =>
      cases h
      exact ih
    | _ => exact ih

end QueueScene

/-! ### A promotion that is alone -/

namespace Queue

open QueueAction

variable {world : World}

/-- A promotion that is alone takes all that it has listed off the delayed ones, and pushes it in that order. -/
theorem run_promoteAll {due : List String} (h : world.jobs.Answers) (hnodup : due.Nodup)
    (hdue : ∀ text ∈ due, ∃ score, (score, text) ∈ config.delayed world.jobs.store) (promoted : Nat) :
    ∃ after, (promoteAll config due promoted).run.run world = (after, .ok (.ok (promoted + due.length))) ∧
      config.waiting after.jobs.store = due.reverse ++ config.waiting world.jobs.store ∧
      config.delayed after.jobs.store = (config.delayed world.jobs.store).filter fun x => x.2 ∉ due := by
  induction due generalizing world promoted with
  | nil => exact ⟨world, rfl, rfl, by simp⟩
  | cons text due ih =>
    obtain ⟨htext, hnodup⟩ := List.nodup_cons.1 hnodup
    obtain ⟨⟨score, hpresent⟩, hdue⟩ := List.forall_mem_cons.1 hdue
    let removed := config.afterRemoval world text
    let pushed := config.afterPush removed text
    have hwaiting : config.waiting pushed.jobs.store = text :: config.waiting world.jobs.store := by
      simp [pushed, removed]
    have hdelayed : config.delayed pushed.jobs.store =
        Store.withoutMember text (config.delayed world.jobs.store) := by
      simp [pushed, removed]
    have hrest : ∀ text' ∈ due, ∃ score, (score, text') ∈ config.delayed pushed.jobs.store := by
      intro text' htext'
      obtain ⟨score, hscore⟩ := hdue text' htext'
      rw [hdelayed]
      exact ⟨score, Store.mem_withoutMember.2 ⟨hscore, fun heq => htext (heq ▸ htext')⟩⟩
    obtain ⟨after, hrun, hafter, hleft⟩ := ih (show pushed.jobs.Answers from h) hnodup hrest (promoted + 1)
    refine ⟨after, ?_, ?_, ?_⟩
    · rw [List.length_cons, Nat.add_comm due.length, ← Nat.add_assoc, ← hrun]
      refine (run_bind_of_ok _ (run_send h (config.run_zrem hpresent))).trans ?_
      exact run_bind_of_ok _ (run_send (show removed.jobs.Answers from h) rfl)
    · rw [hafter, hwaiting, List.reverse_cons, List.append_assoc]
      rfl
    · rw [hleft, hdelayed, Store.withoutMember, List.filter_filter]
      refine List.filter_congr fun x _ => ?_
      simp [Bool.and_comm]

/-- A promotion that is alone lets all that is due wait, the earliest first, and leaves the rest delayed. -/
theorem run_promoteDue_alone {nanos : Int} (h : world.jobs.Answers)
    (hread : Clock.recordTime world.wall = .ok nanos)
    (hranked : Store.IsRanked (config.delayed world.jobs.store)) :
    let due := (config.delayed world.jobs.store).filter fun x => x.1 ≤ nanos / Time.nanosPerMilli
    ∃ after, (promoteDue config).run.run world = (after, .ok (.ok due.length)) ∧
      config.waiting after.jobs.store = (due.map (·.2)).reverse ++ config.waiting world.jobs.store ∧
      config.delayed after.jobs.store =
        (config.delayed world.jobs.store).filter fun x => nanos / Time.nanosPerMilli < x.1 := by
  intro due
  have hlisted : (config.afterListing world (nanos / Time.nanosPerMilli)).jobs.Answers := h
  have hnodup : (due.map (·.2)).Nodup := (hranked.sublist List.filter_sublist).distinct
  have hpresent : ∀ text ∈ due.map (·.2), ∃ score,
      (score, text) ∈ config.delayed (config.afterListing world (nanos / Time.nanosPerMilli)).jobs.store := by
    intro text htext
    obtain ⟨⟨score, _⟩, hx, rfl⟩ := List.mem_map.1 htext
    exact ⟨score, List.mem_of_mem_filter hx⟩
  obtain ⟨after, hrun, hwaiting, hdelayed⟩ := run_promoteAll hlisted hnodup hpresent 0
  refine ⟨after, ?_, hwaiting, ?_⟩
  · rw [run_promoteDue h hread, hranked.membersWithin_eq, hrun, List.length_map, Nat.zero_add]
  · rw [hdelayed]
    exact hranked.filter_notMem _

end Queue

/-! ### First in, first out -/

namespace QueueConfig

variable {K : Conditions} {world : World} {s : Scene config.clients}

/-- At every moment, what dequeuings have taken off is the beginning of what was there at first and of what
enqueuings and promotions have pushed since, and the rest waits. A promotion that is alone from then on pushes
precisely the delayed members that are due by its reading of the clock, in the order of their scores and of
their texts within one score, says how many they are, and leaves precisely the others; without a reading it
changes nothing. -/
theorem first_in_first_out (h : Scene.Reachable K world s)
    (hworld : Store.IsRanked (config.delayed world.jobs.store)) :
    (config.waiting world.jobs.store).reverse ++ config.arrivals s.history =
      config.departures s.history ++ (config.waiting s.world.jobs.store).reverse ∧
    (∀ nanos, s.world.jobs.Answers → Clock.recordTime s.world.wall = .ok nanos →
      let now := nanos / Time.nanosPerMilli
      let due := (config.delayed s.world.jobs.store).filter fun x => x.1 ≤ now
      due.Pairwise (fun x y => x.1 < y.1 ∨ x.1 = y.1 ∧ x.2 < y.2) ∧
      ∃ after, (Queue.promoteDue config).run.run s.world = (after, .ok (.ok due.length)) ∧
        config.waiting after.jobs.store =
          (due.map (·.2)).reverse ++ config.waiting s.world.jobs.store ∧
        config.delayed after.jobs.store = (config.delayed s.world.jobs.store).filter fun x => now < x.1) ∧
    ∀ p, Clock.recordTime s.world.wall = .error p →
      (Queue.promoteDue config).run.run s.world = (s.world, .error p) := by
  obtain ⟨t, rfl, hrun⟩ := QueueScene.exists_run h
  have hranked : Store.IsRanked (config.delayed t.store) := hrun.ranked hworld
  refine ⟨hrun.in_order, fun nanos hanswers hread => ⟨?_, Queue.run_promoteDue_alone hanswers hread hranked⟩,
    fun p hread => Queue.run_promoteDue_of_error hread⟩
  exact (hranked.sublist List.filter_sublist).ordered.imp Store.scoredBefore_iff.1

/-- A world in which texts are delayed, two of them for the same time. -/
def sampleDelayed : World :=
  sample.afterSchedule (sample.afterSchedule (sample.afterSchedule (.new [] false 5000000) "b" 5) "a" 5) "c" 6

/-- A job comes first that was pushed first, and then what is due, whether or not it can be read. -/
theorem sample_first_in_first_out :
    ∃ s : Scene sample.clients, Scene.Reachable .reliable sampleDelayed s ∧
      sample.departures s.history = [Job.codec.text Job.sample] ∧
      ∃ after, (Queue.promoteDue sample).run.run s.world = (after, .ok (.ok 2)) ∧
        sample.waiting after.jobs.store = ["b", "a"] ∧ sample.delayed after.jobs.store = [(6, "c")] := by
  have hwaiting : sample.waiting sampleDelayed.jobs.store = [] := by
    simp [sampleDelayed]
    rfl
  have hdelayed : sample.delayed sampleDelayed.jobs.store = [(5, "a"), (5, "b"), (6, "c")] := by
    simp [sampleDelayed]
    with_unfolding_all rfl
  have hanswers : sampleDelayed.jobs.Answers := fun _ => ⟨rfl, rfl⟩
  have hpushed : (sample.afterPush sampleDelayed (Job.codec.text Job.sample)).jobs.Answers := hanswers
  have hlast : (sample.waiting (sample.afterPush sampleDelayed (Job.codec.text Job.sample)).jobs.store).getLast? =
      some (Job.codec.text Job.sample) := by
    rw [(sample.holds_afterPush _ _).1, hwaiting]
    rfl
  have hranked : Store.IsRanked (sample.delayed sampleDelayed.jobs.store) := by
    rw [hdelayed]
    exact ⟨by decide, by decide, by decide⟩
  have hpopped := sample.holds_afterPop _ hlast
  rw [(sample.holds_afterPush _ _).1, (sample.holds_afterPush _ _).2.2.2, hwaiting, hdelayed] at hpopped
  have hrun : QueueScene.Run .reliable (QueueScene.start sample sampleDelayed) _ :=
    (QueueScene.run_enqueue hanswers Job.sample).trans
      (QueueScene.run_dequeue hpushed hlast Job.sample_isRead)
  obtain ⟨s, hs, hworld, hdepartures⟩ : ∃ s : Scene sample.clients, Scene.Reachable .reliable sampleDelayed s ∧
      s.world = sample.afterPop (sample.afterPush sampleDelayed (Job.codec.text Job.sample)) ∧
      sample.departures s.history = [Job.codec.text Job.sample] := by
    refine ⟨_, hrun.scene, rfl, ?_⟩
    simp [QueueScene.scene, departures_cons, departs?, Deed.taken?]
    rfl
  obtain ⟨-, halone, -⟩ := first_in_first_out hs hranked
  rw [hworld] at halone
  obtain ⟨-, after, hpromoted, hafter, hleft⟩ := halone 5000000 hanswers rfl
  rw [hpopped.2.2.2] at hpromoted hafter hleft
  rw [hpopped.1] at hafter
  exact ⟨s, hs, hdepartures, after, hworld ▸ hpromoted, hafter, hleft⟩

end QueueConfig

end JobQueue
