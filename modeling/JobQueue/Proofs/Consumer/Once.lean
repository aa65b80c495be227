import JobQueue.Proofs.Consumer.Gates
import JobQueue.Proofs.Queue.Alone
import JobQueue.Proofs.Solo

/-! Consumers of any queues that share one store. Whatever they deliver and however their deliveries
take turns, a job gets through once in every window. -/

namespace JobQueue

open Time (Duration)

namespace Dedup

/-- In a store that had no records, a job is recorded as long as one of its windows is not over. -/
theorem not_recorded_iff {C : Clients} {window : Duration} {store : Store} {id : String}
    (hnone : store.values.get (key id) = none) (history : List (Event C)) (now : Nat) :
    ¬Recorded window store id history now ↔
      ∀ time ∈ admissions id history, time + windowNanos window ≤ now := by
  have hset : store.isSet now (key id) = false := by rw [Store.isSet, hnone, Option.any_none]
  simp [Recorded, hset]

end Dedup

/-- A job that some consumer is to handle. -/
structure Delivery where
  queue : QueueConfig
  maxQueryLength : Nat
  job : Job

def Delivery.sample : Delivery :=
  ⟨.sample, Validation.defaultMaxQueryLength, .sample⟩

namespace Consumer

/-- Consumers with a common window. -/
def clients (window : Duration) : Clients where
  Op := Delivery
  Reply := Outcome
  Thing := Empty
  program delivery := handle ⟨delivery.queue, window, delivery.maxQueryLength⟩ delivery.job
  needs _ := none
  gains _ _ := none

open Dedup Scene

/-- However deliveries take turns, whatever fails and however time passes, the admissions of a job are a
window apart, each of them leads to at most one request for the job, and nothing else does. The gate lets
a job through exactly if its last admission was a window ago or longer. -/
theorem admits_once_per_window {window : Duration} {K : Conditions} {world : World} {id : String}
    (hnone : world.jobs.store.values.get (key id) = none) {s : Scene (clients window)}
    (h : Reachable K world s) :
    ((admissions id s.history).Pairwise fun later earlier =>
      earlier < later ∧ earlier + windowNanos window ≤ later) ∧
    (∀ n, (deeds n s.history).countP (processes id) ≤ (deeds n s.history).countP (admits id) ∧
      (deeds n s.history).countP (admits id) ≤ 1) ∧
    (∀ later n op now wall b earlier, s.history = later ++ .did n op now wall
        (.command .jobs (.set (key id) mark (windowSeconds window))) (.ok b) :: earlier →
      (b = true ↔ ∀ time ∈ admissions id earlier, time + windowNanos window ≤ now)) ∧
    (s.world.jobs.Answers →
      s.world.elapsed + windowNanos window < Store.clockLimit * Time.nanosPerSecond →
      ((claim window id).run s.world).2 = .ok (.ok (decide
        (∀ time ∈ admissions id s.history, time + windowNanos window ≤ s.world.elapsed)))) := by
  have ht := h.tracked
  have hr := Records.of_reachable window (fun op => handle_guards _ _) h
  have hlater : ∀ earlier, earlier < earlier + windowNanos window := fun _ =>
    Nat.lt_add_of_pos_right (windowNanos_pos window)
  refine ⟨(hr.spaced id).imp fun hle => ⟨Nat.lt_of_lt_of_le (hlater _) hle, hle⟩, fun n => ?_,
    fun later n op now wall b earlier heq => ?_, fun hanswers hlimit => ?_⟩
  · obtain hn | hn := Nat.lt_or_ge n s.begun
    · obtain ⟨op, q, -, hleads⟩ := ht.past n hn
      exact handle_once hleads id
    · rw [ht.fresh n hn]
      exact ⟨Nat.le_refl _, Nat.zero_le _⟩
  · rw [hr.fair later _ earlier heq id rfl, not_recorded_iff hnone]
  · rw [run_claim id hanswers hlimit]
    have hrecorded := hr.isSet_iff id s.world.elapsed
    refine congrArg _ (congrArg _ (Bool.eq_iff_iff.2 ?_))
    rw [decide_eq_true_iff, ← not_recorded_iff hnone, ← hrecorded, Bool.not_eq_true',
      Bool.not_eq_true]

/-- One delivery is handled, and another one at the same time would not get through. -/
theorem sample_admitted_once :
    ∃ s : Scene (clients (.ofSeconds 60)), Reachable .reliable (.new [] false 0) s ∧
      admissions "j1" s.history = [0] ∧
      ((claim (.ofSeconds 60) "j1").run s.world).2 = .ok (.ok false) := by
  let program := (clients (.ofSeconds 60)).program Delivery.sample
  have hrun : program.run (.new [] false 0) = ((program.run (.new [] false 0)).1, .ok .success) :=
    Prod.ext rfl (by with_unfolding_all rfl)
  generalize hworld : (program.run (.new [] false 0)).1 = world at hrun
  have hanswers : world.jobs.Answers := fun _ => by rw [← hworld]; exact ⟨rfl, rfl⟩
  have helapsed : world.elapsed = 0 := by rw [← hworld]; rfl
  have hreachable : Reachable .reliable (.new [] false 0) _ := run_alone rfl hrun
  have hadmissions : admissions "j1" (.ended 0 Delivery.sample .success ::
      program.events 0 Delivery.sample (.new [] false 0) ++ [.began 0 Delivery.sample]) = [0] := by
    decide +kernel
  have hnone : (World.new [] false 0).jobs.store.values.get (key "j1") = none := rfl
  obtain ⟨-, -, -, hclaim⟩ := admits_once_per_window hnone hreachable
  have hlimit : world.elapsed + windowNanos (.ofSeconds 60) <
      Store.clockLimit * Time.nanosPerSecond := by
    rw [helapsed]
    decide
  refine ⟨_, hreachable, hadmissions, (hclaim hanswers hlimit).trans ?_⟩
  refine congrArg _ (congrArg _ (decide_eq_false fun hover => ?_))
  have hwindow : 0 + windowNanos (.ofSeconds 60) ≤ world.elapsed :=
    hover 0 (hadmissions ▸ List.mem_singleton_self 0)
  rw [helapsed] at hwindow
  exact absurd hwindow (by decide)

end Consumer

end JobQueue
