import JobQueue.Proofs.Json.Numeral
import JobQueue.Settings

/-! What the settings of an accepted environment are: each has been read from its variable, and so it is a
number within the limit of its word, or whole milliseconds that fit one. -/

namespace JobQueue

open Time (Duration)

/-- A span of whole milliseconds that an unsigned word of 64 bits can hold. -/
def Time.Duration.IsWordMillis (d : Duration) : Prop :=
  ∃ ms, ms ≤ Word.max64 ∧ d = .ofMillis ms

/-- The milliseconds of a word make a span that is within the limit. -/
theorem Time.Duration.nanos_ofMillis {ms : Nat} (h : ms ≤ Word.max64) :
    (Duration.ofMillis ms).nanos = ms * Time.nanosPerMilli := by
  rw [Word.max64] at h
  simp only [Duration.ofMillis, Duration.saturate, Time.durationLimit, Time.nanosPerSecond,
    Time.nanosPerMilli, Word.count64]
  omega

/-- The milliseconds of a word are those that are written for them. -/
theorem Time.Duration.wordMillis_ofMillis {ms : Nat} (h : ms ≤ Word.max64) :
    (Duration.ofMillis ms).wordMillis = ms := by
  have hnanos := Duration.nanos_ofMillis h
  rw [Word.max64] at h
  rw [Duration.wordMillis, Duration.millis, hnanos]
  simp only [Time.nanosPerMilli, Word.count64]
  omega

namespace Settings

/-- A variable that can be read holds what was read of its text, or of its default. -/
theorem read_of_setting {α : Type} {env : Environment} {name default : String} {read : String → Option α}
    {a : α} (h : setting env name default read = .ok a) : read ((env.lookup name).getD default) = some a := by
  unfold setting at h
  split at h
  next a' hread =>
    rw [hread, Except.ok.inj h]
  next => cases h

theorem readWord_le {limit n : Nat} {t : String} (h : readWord limit t = some n) : n ≤ limit := by
  unfold readWord at h
  cases hread : Text.readUnsigned limit t with
  | error fault =>
    rw [hread] at h
    cases h
  | ok m =>
    rw [hread] at h
    cases h
    exact Text.readUnsigned_le hread

theorem readMillis_isWordMillis {t : String} {d : Duration} (h : readMillis t = some d) : d.IsWordMillis := by
  obtain ⟨ms, hms, rfl⟩ := Option.map_eq_some_iff.1 h
  exact ⟨ms, readWord_le hms, rfl⟩

/-- The settings that an environment gives have been read from their variables. -/
structure ReadFrom (env : Environment) (s : Settings) : Prop where
  concurrency : setting env "CONCURRENCY" "10" (readWord Word.max64) = .ok s.concurrency
  pollInterval : setting env "POLL_INTERVAL" "100" readMillis = .ok s.pollInterval
  maxAttempts : setting env "MAX_ATTEMPTS" "3" (readWord Word.max32) = .ok s.retry.maxAttempts
  backoffCoefficient :
    setting env "BACKOFF_COEFFICIENT" "2" (readWord Word.max32) = .ok s.retry.backoffCoefficient
  initialInterval : setting env "INITIAL_INTERVAL" "1000" readMillis = .ok s.retry.initialInterval
  maximumInterval : setting env "MAXIMUM_INTERVAL" "60000" readMillis = .ok s.retry.maximumInterval

theorem readFrom_of_ofEnvironment {env : Environment} {s : Settings} (h : ofEnvironment env = .ok s) :
    ReadFrom env s := by
  unfold ofEnvironment at h
  obtain ⟨_, -, h⟩ := Json.exists_of_bind_eq_ok h
  obtain ⟨_, -, h⟩ := Json.exists_of_bind_eq_ok h
  obtain ⟨_, -, h⟩ := Json.exists_of_bind_eq_ok h
  obtain ⟨_, -, h⟩ := Json.exists_of_bind_eq_ok h
  obtain ⟨_, -, h⟩ := Json.exists_of_bind_eq_ok h
  obtain ⟨_, -, h⟩ := Json.exists_of_bind_eq_ok h
  obtain ⟨_, hconcurrency, h⟩ := Json.exists_of_bind_eq_ok h
  obtain ⟨_, hpoll, h⟩ := Json.exists_of_bind_eq_ok h
  obtain ⟨_, -, h⟩ := Json.exists_of_bind_eq_ok h
  obtain ⟨_, -, h⟩ := Json.exists_of_bind_eq_ok h
  obtain ⟨_, -, h⟩ := Json.exists_of_bind_eq_ok h
  obtain ⟨_, -, h⟩ := Json.exists_of_bind_eq_ok h
  obtain ⟨_, -, h⟩ := Json.exists_of_bind_eq_ok h
  obtain ⟨_, -, h⟩ := Json.exists_of_bind_eq_ok h
  obtain ⟨_, hattempts, h⟩ := Json.exists_of_bind_eq_ok h
  obtain ⟨_, hcoefficient, h⟩ := Json.exists_of_bind_eq_ok h
  obtain ⟨_, hinitial, h⟩ := Json.exists_of_bind_eq_ok h
  obtain ⟨_, hmaximum, h⟩ := Json.exists_of_bind_eq_ok h
  cases h
  exact ⟨hconcurrency, hpoll, hattempts, hcoefficient, hinitial, hmaximum⟩

end Settings

end JobQueue
