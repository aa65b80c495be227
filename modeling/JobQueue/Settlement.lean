import JobQueue.Consumer
import JobQueue.Queue.Basic

/-! Settlement: what becomes of a delivery once it was handled. -/

namespace JobQueue

namespace QueueAction

/-- Counts something of the jobs of a queue. -/
def count (kind : JobMetric) (queue : String) : QueueAction Unit :=
  ExceptT.lift (Program.count kind queue)

end QueueAction

/-- What a settlement does with a delivery. -/
inductive Settlement where
  | complete
  | retry
  | fail
  /-- Fails a job that could be retried but has no attempts left. -/
  | exhaust
  deriving DecidableEq, Repr

namespace Settlement

/-- Successes and skipped deliveries are completed. A failure is retried if that could help and
attempts are left. -/
def ofOutcome (config : QueueConfig) (attempt : Nat) : Outcome → Settlement
  | .skipped => complete
  | .success => complete
  | .failure error =>
    if error.isRetryable then
      if attempt < config.maxAttempts then retry else exhaust
    else fail

/-- Carries out a settlement. -/
def perform (config : QueueConfig) (reserved : ReservedJob) : Settlement → QueueAction Unit
  | complete => Queue.complete config reserved
  | retry => do
    Queue.retry config reserved (config.retryPolicy.interval reserved.job.attempt)
    QueueAction.count .retried config.name
  | fail => Queue.fail config reserved
  | exhaust => do
    QueueAction.count .exhausted config.name
    Queue.fail config reserved

end Settlement

/-- Settles a delivery that was handled. -/
def Queue.settle (config : QueueConfig) (reserved : ReservedJob) (outcome : Outcome) :
    QueueAction Unit :=
  (Settlement.ofOutcome config reserved.job.attempt outcome).perform config reserved

/-- All that a worker does with a delivery that it holds. An error in settling it is given back and
goes nowhere. -/
def Consumer.run (consumer : Consumer) (reserved : ReservedJob) :
    Program (Except QueueError Unit) := do
  let outcome ← consumer.handle reserved.job
  Queue.settle consumer.queue reserved outcome

end JobQueue
