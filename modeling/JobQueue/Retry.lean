import JobQueue.Json.Codec
import JobQueue.Time.Duration

/-! Backoff: how long a failed job waits for its next delivery. -/

namespace JobQueue

open Time (Duration)

/-- The wait grows by a factor with every attempt, up to a maximum. -/
structure RetryPolicy where
  backoffCoefficient : Nat
  initialInterval : Duration
  maximumInterval : Option Duration
  deriving DecidableEq, Repr

namespace RetryPolicy

/-- The greatest factor. -/
def factorLimit : Nat := Word.max32

/-- A power, or the greatest factor if that is less. Powers of 0 and 1 stay the same beyond the
first, and those of other numbers have reached the limit at exponent 32. -/
def saturatingPower (base exponent : Nat) : Nat :=
  min (Nat.pow base (min exponent 32)) factorLimit

/-- The wait after the failure of a delivery. -/
def interval (policy : RetryPolicy) (attempt : Nat) : Duration :=
  let grown :=
    policy.initialInterval.mul (saturatingPower policy.backoffCoefficient (attempt - 1))
  match policy.maximumInterval with
  | some most => grown.min most
  | none => grown

/-- Doubling from one second, without a maximum. -/
def default : RetryPolicy :=
  ⟨2, .ofSeconds 1, none⟩

/-- A span as its whole milliseconds. -/
def millisCodec : Json.Codec Duration :=
  Json.Codec.word64.via (fun ms => .ok (.ofMillis ms)) Duration.wordMillis

open Json in
def codec : Codec RetryPolicy :=
  .record "RetryPolicy"
    (.cons (.required "backoffCoefficient" .word32) <|
      .cons (.required "initialInterval" millisCodec) <|
      .cons (.defaulted "maximumInterval" millisCodec.optional none) .nil)
    (fun (backoffCoefficient, initialInterval, maximumInterval, ()) =>
      ⟨backoffCoefficient, initialInterval, maximumInterval⟩)
    (fun p => (p.backoffCoefficient, p.initialInterval, p.maximumInterval, ()))

end RetryPolicy

end JobQueue
