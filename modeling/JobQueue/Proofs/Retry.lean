import JobQueue.Proofs.Word
import JobQueue.Retry

/-! Backoff. The wait after a failure grows as a power of the coefficient, up to the greatest factor, the
longest span and the maximum of the policy, whichever comes first. Words of 32 and 64 bits compute it
without an overflow that nothing answers for, and a maximum within reach of the greatest factor hides that
the growth ends at all. -/

namespace JobQueue

/-! ### Products of spans -/

namespace Time.Duration

theorem nanos_min (d e : Duration) : (d.min e).nanos = Nat.min d.nanos e.nanos := by
  unfold Duration.min
  split_ifs with h
  · exact (Nat.min_eq_left h).symm
  · exact (Nat.min_eq_right (Nat.le_of_not_le h)).symm

def longest : Duration :=
  ⟨durationLimit, Nat.le_refl _⟩

/-- The product as words of 64 bits compute it from whole seconds and the nanoseconds beyond them. The
seconds are checked, and the longest span stands for those that do not fit; nothing checks the
nanoseconds, and there is no result if they do not fit. -/
def mulOnWords (d : Duration) (factor : Nat) : Option Duration :=
  (Word.fit? Word.max64 (d.subsecNanos * factor)).map fun nanos =>
    let seconds := (Word.fit? Word.max64 (d.seconds * factor)).bind fun seconds =>
      Word.fit? Word.max64 (seconds + nanos / nanosPerSecond)
    match seconds with
    | some seconds => ofParts seconds (nanos % nanosPerSecond)
    | none => longest

theorem mulOnWords_eq (d : Duration) {factor : Nat} (h : factor ≤ Word.max32) :
    d.mulOnWords factor = some (d.mul factor) := by
  have hsubsec : d.subsecNanos < nanosPerSecond := Nat.mod_lt _ (by decide)
  have hnanos : d.subsecNanos * factor ≤ Word.max64 :=
    calc d.subsecNanos * factor ≤ nanosPerSecond * Word.max32 := Nat.mul_le_mul hsubsec.le h
      _ ≤ Word.max64 := by decide
  have hproduct : d.nanos * factor =
      d.seconds * factor * nanosPerSecond + d.subsecNanos * factor := by
    conv_lhs => rw [← Nat.div_add_mod d.nanos nanosPerSecond]
    simp only [seconds, subsecNanos]
    ring
  have hseconds : (Word.fit? Word.max64 (d.seconds * factor)).bind (fun seconds =>
      Word.fit? Word.max64 (seconds + d.subsecNanos * factor / nanosPerSecond)) =
        Word.fit? Word.max64 (d.seconds * factor + d.subsecNanos * factor / nanosPerSecond) :=
    Word.fit?_bind (Nat.le_add_right _ _) fun _ => rfl
  rw [mulOnWords, Word.fit?_of_le hnanos, Option.map_some, hseconds, Option.some_inj]
  generalize d.subsecNanos * factor = nanos at hproduct
  rw [mul, hproduct]
  generalize d.seconds * factor = seconds
  unfold Word.fit?
  split_ifs with hfits
  · have hwhole : (seconds + nanos / nanosPerSecond) * nanosPerSecond + nanos % nanosPerSecond =
        seconds * nanosPerSecond + nanos := by
      rw [Nat.add_mul, Nat.add_assoc, Nat.div_add_mod']
    exact congrArg saturate hwhole
  · have hbeyond : durationLimit ≤ seconds * nanosPerSecond + nanos := by
      simp only [nanosPerSecond, Word.max64, durationLimit, Word.count64] at hfits ⊢
      omega
    simp only [saturate, longest, Nat.min_eq_right hbeyond]

end Time.Duration

namespace RetryPolicy

open Time (Duration)

variable (policy : RetryPolicy)

/-! ### The growing wait -/

/-- The factor of a wait is a power up to the greatest factor: at exponent 32 all powers that grow are
beyond it. -/
theorem saturatingPower_eq (base exponent : Nat) :
    saturatingPower base exponent = min (base ^ exponent) factorLimit := by
  show min (base ^ min exponent 32) factorLimit = min (base ^ exponent) factorLimit
  rcases Nat.le_total exponent 32 with h | h
  · rw [min_eq_left h]
  · rw [min_eq_right h]
    rcases base with _ | _ | base
    · rw [Nat.zero_pow (by omega), Nat.zero_pow (by omega)]
    · simp
    · have hlimit : factorLimit ≤ (base + 2) ^ 32 :=
        calc factorLimit ≤ 2 ^ 32 := by decide
          _ ≤ (base + 2) ^ 32 := Nat.pow_le_pow_left (by omega) 32
      have hgrown : (base + 2) ^ 32 ≤ (base + 2) ^ exponent := Nat.pow_le_pow_right (by omega) h
      rw [min_eq_right hlimit, min_eq_right (hlimit.trans hgrown)]

/-- The wait as words compute it: a power by checked products, and then a product of a span. There is no
result if something overflows that is not checked. -/
def intervalOnWords (attempt : Nat) : Option Duration :=
  let factor := (Word.power? Word.max32 policy.backoffCoefficient (attempt - 1)).getD Word.max32
  (policy.initialInterval.mulOnWords factor).map fun grown =>
    match policy.maximumInterval with
    | some most => grown.min most
    | none => grown

/-- Words compute the wait. -/
theorem intervalOnWords_eq (attempt : Nat) :
    policy.intervalOnWords attempt = some (policy.interval attempt) := by
  have hfactor : (Word.power? Word.max32 policy.backoffCoefficient (attempt - 1)).getD Word.max32 =
      saturatingPower policy.backoffCoefficient (attempt - 1) := by
    rw [Word.power?_eq (by decide), Word.getD_fit?, saturatingPower_eq, factorLimit]
  have hfits : saturatingPower policy.backoffCoefficient (attempt - 1) ≤ Word.max32 := Nat.min_le_right ..
  rw [intervalOnWords, hfactor, Duration.mulOnWords_eq _ hfits, Option.map_some]
  rfl

/-- A number of nanoseconds, or the maximum of a policy if it has one and that is less. -/
def capped (nanos : Nat) : Nat :=
  match policy.maximumInterval with
  | some most => min most.nanos nanos
  | none => nanos

/-- The wait in exact arithmetic: a power of the coefficient, below three bounds. -/
def exactNanos (attempt : Nat) : Nat :=
  policy.capped (min
    (policy.initialInterval.nanos * min (policy.backoffCoefficient ^ (max attempt 1 - 1)) Word.max32)
    Time.durationLimit)

theorem nanos_interval (attempt : Nat) : (policy.interval attempt).nanos = policy.exactNanos attempt := by
  have hfirst : max attempt 1 - 1 = attempt - 1 := by omega
  rw [exactNanos, hfirst, interval, saturatingPower_eq, factorLimit]
  unfold capped
  cases policy.maximumInterval with
  | none => rfl
  | some most => exact (Duration.nanos_min _ most).trans (Nat.min_comm ..)

theorem capped_mono {n m : Nat} (h : n ≤ m) : policy.capped n ≤ policy.capped m := by
  unfold capped
  split <;> omega

/-- The wait never gets shorter, unless the coefficient is zero. -/
theorem exactNanos_mono (hcoefficient : 1 ≤ policy.backoffCoefficient) {attempt later : Nat}
    (h : attempt ≤ later) : policy.exactNanos attempt ≤ policy.exactNanos later := by
  have hpower : policy.backoffCoefficient ^ (max attempt 1 - 1) ≤
      policy.backoffCoefficient ^ (max later 1 - 1) :=
    Nat.pow_le_pow_right hcoefficient (by omega)
  have hfactor := min_le_min_right Word.max32 hpower
  have hproduct := Nat.mul_le_mul_left policy.initialInterval.nanos hfactor
  exact policy.capped_mono (min_le_min_right _ hproduct)

variable {policy} {most : Duration}

theorem capped_le (h : policy.maximumInterval = some most) (nanos : Nat) :
    policy.capped nanos ≤ most.nanos := by
  simp [capped, h]

/-- A maximum that the greatest factor reaches is reached before anything else ends the growth. -/
theorem exactNanos_of_reached (h : policy.maximumInterval = some most)
    (hreached : most.nanos ≤ policy.initialInterval.nanos * Word.max32) (attempt : Nat) :
    policy.exactNanos attempt = min most.nanos
      (policy.initialInterval.nanos * policy.backoffCoefficient ^ (max attempt 1 - 1)) := by
  have hlimit := most.nanos_le
  simp only [exactNanos, capped, h]
  generalize policy.backoffCoefficient ^ (max attempt 1 - 1) = power
  rcases Nat.le_total power Word.max32 with hpower | hpower
  · rw [min_eq_left hpower]
    omega
  · have hbeyond := Nat.mul_le_mul_left policy.initialInterval.nanos hpower
    rw [min_eq_right hpower]
    omega

/-- The wait is the capped power, as words compute it too. It keeps to the maximum of its policy, never gets
shorter from one attempt to the next unless the coefficient is zero, and is the power itself up to a maximum
that the greatest factor reaches. -/
theorem waits_capped_power (policy : RetryPolicy) (attempt : Nat) :
    policy.intervalOnWords attempt = some (policy.interval attempt) ∧
    (policy.interval attempt).nanos = policy.capped (min
      (policy.initialInterval.nanos * min (policy.backoffCoefficient ^ (max attempt 1 - 1)) Word.max32)
      Time.durationLimit) ∧
    (∀ most, policy.maximumInterval = some most → (policy.interval attempt).nanos ≤ most.nanos) ∧
    (1 ≤ policy.backoffCoefficient → ∀ later, attempt ≤ later →
      (policy.interval attempt).nanos ≤ (policy.interval later).nanos) ∧
    ∀ most, policy.maximumInterval = some most →
      most.nanos ≤ policy.initialInterval.nanos * Word.max32 →
      (policy.interval attempt).nanos = min most.nanos
        (policy.initialInterval.nanos * policy.backoffCoefficient ^ (max attempt 1 - 1)) := by
  simp only [nanos_interval]
  refine ⟨policy.intervalOnWords_eq attempt, rfl, fun most hmost => ?_, fun hcoefficient later hlater => ?_,
    fun most hmost hreached => ?_⟩
  · exact capped_le hmost _
  · exact policy.exactNanos_mono hcoefficient hlater
  · exact exactNanos_of_reached hmost hreached attempt

/-- The power is far beyond the greatest factor at the 40th attempt, and the wait is the maximum. -/
theorem sample_waits_maximum :
    let policy : RetryPolicy := ⟨3, .saturate 1500, some (.ofSeconds 5)⟩
    (policy.interval 20).nanos ≤ (policy.interval 40).nanos ∧
      (policy.interval 40).nanos = min 5000000000 (1500 * 3 ^ 39) := by
  intro policy
  have hmost : policy.maximumInterval = some (.ofSeconds 5) := rfl
  have hgrows := (waits_capped_power policy 20).2.2.2.1 (by decide) 40 (by decide)
  have hexact := (waits_capped_power policy 40).2.2.2.2 _ hmost (by decide)
  exact ⟨hgrows, hexact⟩

end RetryPolicy

end JobQueue
