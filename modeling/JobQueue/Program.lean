import JobQueue.Clock
import JobQueue.Job
import JobQueue.Metric
import JobQueue.Store.Command

/-! Programs: what workers and their clients do, as trees of effects on what they share. Every
effect is one atomic step, and programs can be interleaved between their steps. -/

namespace JobQueue

/-- Why the processing of a request failed. -/
structure ProcessingError where
  message : String
  deriving DecidableEq, Repr

/-- The stores that a worker uses. Both may be the same one. -/
inductive Site where
  | jobs | deadLetters
  deriving DecidableEq, Repr

inductive Effect where
  | command (site : Site) (c : Command)
  /-- Reads the wall clock, in nanoseconds since the start of 1970. -/
  | clock
  /-- Hands a request to the processing service. -/
  | process (request : JobRequest)
  | count (metric : Metric)

namespace Effect

/-- What an effect gives back. -/
abbrev Answer : Effect → Type
  | command _ c => c.Result
  | clock => Int
  | process _ => Except ProcessingError Unit
  | count _ => Unit

end Effect

inductive Program (α : Type) where
  | done (a : α)
  | panic (p : Panic)
  | step (e : Effect) (next : e.Answer → Program α)

namespace Program

variable {α β γ : Type}

/-- One program after another. -/
def bind : Program α → (α → Program β) → Program β
  | done a, f => f a
  | panic p, _ => panic p
  | step e next, f => step e fun a => (next a).bind f

instance : Monad Program where
  pure := done
  bind := bind

@[simp] theorem pure_eq (a : α) : (pure a : Program α) = done a := rfl

@[simp] theorem bind_eq (m : Program α) (f : α → Program β) : m >>= f = m.bind f := rfl

@[simp] theorem bind_done : (m : Program α) → m.bind done = m
  | done _ => rfl
  | panic _ => rfl
  | step e next => congrArg (step e) (funext fun a => (next a).bind_done)

theorem bind_assoc : (m : Program α) → (f : α → Program β) → (g : β → Program γ) →
    (m.bind f).bind g = m.bind fun a => (f a).bind g
  | done _, _, _ => rfl
  | panic _, _, _ => rfl
  | step e next, f, g => congrArg (step e) (funext fun a => (next a).bind_assoc f g)

/-- The program of a single effect. -/
def perform (e : Effect) : Program e.Answer :=
  step e done

/-- A value that may be a panic. -/
def ofExcept : Except Panic α → Program α
  | .ok a => done a
  | .error p => panic p

/-- The time of a record, in nanoseconds since the start of 1970. -/
def recordTime : Program Int :=
  step .clock fun reading => ofExcept (Clock.recordTime reading)

/-- The time at which health is looked at. -/
def reportTime : Program Int :=
  step .clock fun reading => ofExcept (Clock.reportTime reading)

/-- Sends a command to one of the stores. -/
def send (site : Site) (c : Command) : Program c.Result :=
  perform (.command site c)

def count (kind : JobMetric) (queue : String) : Program Unit :=
  perform (.count (.job kind queue))

end Program

end JobQueue
