import JobQueue.Proofs.Json.Record
import JobQueue.Proofs.Settings

/-! A queue is registered as JSON. What it is registered with fits the words that are written for it, whether
it comes from settings or from JSON, and so it is read back as it was. -/

namespace JobQueue

open Json
open Time (Duration)

/-! ### Spans -/

theorem RetryPolicy.millis_readsBack {depth : Nat} {d : Duration} (h : d.IsWordMillis) :
    millisCodec.ReadsBack depth d := by
  obtain ⟨ms, hms, rfl⟩ := h
  have hword := Duration.wordMillis_ofMillis hms
  refine Codec.via_readsBack ?_ (congrArg (Except.ok ∘ Duration.ofMillis) hword)
  rw [hword]
  exact Codec.word_readsBack hms (Nat.le_refl _)

theorem RetryPolicy.millis_isApart (d : Duration) : millisCodec.IsApart d :=
  (Codec.word_isApart d.wordMillis : Codec.word64.IsApart d.wordMillis)

theorem RetryPolicy.isWordMillis_of_read {depth : Nat} {d : Duration} {cs cs' : List Char}
    (h : millisCodec.read depth cs = .ok (d, cs')) : d.IsWordMillis := by
  obtain ⟨ms, hread, hdecode⟩ := Codec.exists_of_via_read h
  cases hdecode
  exact ⟨ms, Codec.word_read_le hread, rfl⟩

/-! ### Numbers that can be written -/

/-- The numbers of a policy fit the words that are written for them. -/
structure RetryPolicy.Fits (policy : RetryPolicy) : Prop where
  coefficient : policy.backoffCoefficient ≤ Word.max32
  initial : policy.initialInterval.IsWordMillis
  maximum : ∀ d ∈ policy.maximumInterval, d.IsWordMillis

structure JobOptions.Fits (options : JobOptions) : Prop where
  attempts : ∀ n ∈ options.attempts, n ≤ Word.max32
  backoff : ∀ policy ∈ options.backoff, policy.Fits

structure QueueConfig.Fits (config : QueueConfig) : Prop where
  concurrency : ∀ n ∈ config.concurrency, n ≤ Word.max64
  options : ∀ options ∈ config.defaultJobOptions, options.Fits

theorem RetryPolicy.readsBack (depth : Nat) {policy : RetryPolicy} (h : policy.Fits) :
    codec.ReadsBack (depth + 1) policy := by
  refine Codec.record_readsBack (by decide) ?_ rfl
  refine Row.readsBack_cons rfl (Codec.word_readsBack h.coefficient (by decide)) ?_
  refine Row.readsBack_cons rfl (millis_readsBack h.initial) ?_
  refine Row.readsBack_cons rfl ?_ trivial
  exact Codec.optional_readsBack (fun d _ => millis_isApart d) fun d hd => millis_readsBack (h.maximum d hd)

theorem JobOptions.readsBack (depth : Nat) {options : JobOptions} (h : options.Fits) :
    codec.ReadsBack (depth + 2) options := by
  refine Codec.record_readsBack (by decide) ?_ rfl
  refine Row.readsBack_cons rfl ?_ <| Row.readsBack_cons rfl ?_ trivial
  · exact Codec.optional_readsBack (fun n _ => Codec.word_isApart n)
      fun n hn => Codec.word_readsBack (h.attempts n hn) (by decide)
  · exact Codec.optional_readsBack (fun policy _ => Codec.record_isApart policy)
      fun policy hpolicy => policy.readsBack depth (h.backoff policy hpolicy)

theorem QueueConfig.readsBack (depth : Nat) {config : QueueConfig} (h : config.Fits) :
    codec.ReadsBack (depth + 3) config := by
  refine Codec.record_readsBack (by decide) ?_ rfl
  refine Row.readsBack_cons rfl (Codec.string_readsBack config.name) ?_
  refine Row.readsBack_cons rfl (Codec.string_readsBack config.scope) ?_
  refine Row.readsBack_cons rfl ?_ <| Row.readsBack_cons rfl ?_ <| Row.readsBack_cons rfl ?_ <|
    Row.readsBack_cons rfl ?_ trivial
  · exact Codec.optional_readsBack (fun n _ => Codec.word_isApart n)
      fun n hn => Codec.word_readsBack (h.concurrency n hn) (Nat.le_refl _)
  · exact Codec.optional_readsBack (fun b _ => Codec.bool_isApart b) fun b _ => Codec.bool_readsBack b
  · exact Codec.optional_readsBack (fun b _ => Codec.bool_isApart b) fun b _ => Codec.bool_readsBack b
  · exact Codec.optional_readsBack (fun options _ => Codec.record_isApart options)
      fun options hoptions => options.readsBack depth (h.options options hoptions)

/-! ### Numbers that were read -/

theorem RetryPolicy.fits_of_read {depth : Nat} {policy : RetryPolicy} {cs cs' : List Char}
    (h : codec.read depth cs = .ok (policy, cs')) : policy.Fits := by
  obtain ⟨_, ⟨coefficient, initial, maximum, _⟩, -, hholds, rfl⟩ := Codec.exists_of_record_read h
  obtain ⟨⟨_, _, hcoefficient⟩, hholds⟩ := hholds.required
  obtain ⟨⟨_, _, hinitial⟩, hholds⟩ := hholds.required
  obtain ⟨hmaximum, -⟩ := hholds.optional rfl nofun nofun
  refine ⟨Codec.word_read_le hcoefficient, isWordMillis_of_read hinitial, fun d hd => ?_⟩
  obtain ⟨_, _, hread⟩ := hmaximum d hd
  exact isWordMillis_of_read hread

theorem JobOptions.fits_of_read {depth : Nat} {options : JobOptions} {cs cs' : List Char}
    (h : codec.read depth cs = .ok (options, cs')) : options.Fits := by
  obtain ⟨_, ⟨attempts, backoff, _⟩, -, hholds, rfl⟩ := Codec.exists_of_record_read h
  obtain ⟨hattempts, hholds⟩ := hholds.optional rfl nofun nofun
  obtain ⟨hbackoff, -⟩ := hholds.optional rfl nofun nofun
  refine ⟨fun n hn => ?_, fun policy hpolicy => ?_⟩
  · obtain ⟨_, _, hread⟩ := hattempts n hn
    exact Codec.word_read_le hread
  · obtain ⟨_, _, hread⟩ := hbackoff policy hpolicy
    exact RetryPolicy.fits_of_read hread

theorem QueueConfig.fits_of_ofText {t : String} {config : QueueConfig} (h : codec.ofText t = .ok config) :
    config.Fits := by
  obtain ⟨⟨name, scope, concurrency, removeOnComplete, removeOnFail, options, _⟩, hholds, rfl⟩ :=
    Codec.exists_of_record_ofText h
  obtain ⟨-, hholds⟩ := hholds.required
  obtain ⟨-, hholds⟩ := hholds.required
  obtain ⟨hconcurrency, hholds⟩ := hholds.optional rfl nofun nofun
  obtain ⟨-, hholds⟩ := hholds.optional rfl nofun nofun
  obtain ⟨-, hholds⟩ := hholds.optional rfl nofun nofun
  obtain ⟨hoptions, -⟩ := hholds.optional rfl nofun nofun
  refine ⟨fun n hn => ?_, fun o ho => ?_⟩
  · obtain ⟨_, _, hread⟩ := hconcurrency n hn
    exact Codec.word_read_le hread
  · obtain ⟨_, _, hread⟩ := hoptions o ho
    exact JobOptions.fits_of_read hread

/-- What settings say of a queue has been read from variables of the same limits. -/
theorem Settings.fits_queueConfig {env : Environment} {s : Settings} (h : ofEnvironment env = .ok s) :
    s.queueConfig.Fits := by
  have hread := readFrom_of_ofEnvironment h
  refine ⟨?_, ?_⟩
  · rintro _ ⟨⟩
    exact readWord_le (read_of_setting hread.concurrency)
  rintro _ ⟨⟩
  refine ⟨?_, ?_⟩
  · rintro _ ⟨⟩
    exact readWord_le (read_of_setting hread.maxAttempts)
  rintro _ ⟨⟩
  refine ⟨readWord_le (read_of_setting hread.backoffCoefficient),
    readMillis_isWordMillis (read_of_setting hread.initialInterval), ?_⟩
  rintro _ ⟨⟩
  exact readMillis_isWordMillis (read_of_setting hread.maximumInterval)

/-! ### Registration -/

namespace QueueConfig

/-- The ways in which a program comes by a queue: from the settings of an environment, or as it is
registered. -/
inductive Given : QueueConfig → Prop where
  | settings {env : Settings.Environment} {s : Settings} (h : Settings.ofEnvironment env = .ok s) :
      Given s.queueConfig
  | registered {t : String} {config : QueueConfig} (h : codec.ofText t = .ok config) : Given config

theorem Given.fits {config : QueueConfig} (h : Given config) : config.Fits := by
  cases h with
  | settings h => exact Settings.fits_queueConfig h
  | registered h => exact fits_of_ofText h

/-- A queue that a program has is read back from what it writes for it: the same keys, as many jobs at once,
as many deliveries of each, and the same wait after each of them. -/
theorem registered_as_given {config : QueueConfig} (h : Given config) :
    ∃ again, codec.ofText (codec.text config) = .ok again ∧ again = config ∧
      (∀ suffix, again.key suffix = config.key suffix) ∧
      again.maxConcurrency = config.maxConcurrency ∧ again.maxAttempts = config.maxAttempts ∧
      ∀ attempt, again.retryPolicy.interval attempt = config.retryPolicy.interval attempt := by
  have hback : codec.ReadsBack nestingLimit config := readsBack (nestingLimit - 3) h.fits
  exact ⟨config, hback.ofText, rfl, fun _ => rfl, rfl, rfl, fun _ => rfl⟩

/-- A registration in another order than is written, with the longest interval, and with both ways of leaving
a value out. -/
def sampleRegistration : String :=
  "\x7b\"name\":\"\\\"\",\"defaultJobOptions\":\x7b\"attempts\":null," ++
    "\"backoff\":[2,18446744073709551615]\x7d,\"prefix\":\"a:\\u00e9\"\x7d"

/-- The queue that is read from it. -/
def sampleRegistered : QueueConfig :=
  ⟨"\"", "a:é", none, none, none, some ⟨none, some ⟨2, .ofMillis Word.max64, none⟩⟩⟩

/-- A queue whose intervals are the longest that can be set. -/
def sampleSettings : Settings.Environment :=
  [("INITIAL_INTERVAL", "18446744073709551615"), ("MAXIMUM_INTERVAL", "+18446744073709551615")]

theorem sample_registered_as_given :
    (Given sampleRegistered ∧ codec.ofText (codec.text sampleRegistered) = .ok sampleRegistered) ∧
      ∃ s, Settings.ofEnvironment sampleSettings = .ok s ∧
        s.queueConfig.retryPolicy.initialInterval = .ofMillis Word.max64 ∧
        codec.ofText (codec.text s.queueConfig) = .ok s.queueConfig := by
  have hread : codec.ofText sampleRegistration = .ok sampleRegistered := by with_unfolding_all rfl
  obtain ⟨again, hagain, rfl, -⟩ := registered_as_given (.registered hread)
  obtain ⟨s, hs, hinitial⟩ : ∃ s, Settings.ofEnvironment sampleSettings = .ok s ∧
      s.queueConfig.retryPolicy.initialInterval = .ofMillis Word.max64 :=
    ⟨_, by with_unfolding_all rfl, by with_unfolding_all rfl⟩
  obtain ⟨again, hset, rfl, -⟩ := registered_as_given (.settings hs)
  exact ⟨⟨.registered hread, hagain⟩, s, hs, hinitial, hset⟩

end QueueConfig

end JobQueue
