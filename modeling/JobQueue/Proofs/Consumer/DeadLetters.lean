import JobQueue.Proofs.Consumer.Order
import JobQueue.Proofs.Consumer.Users
import JobQueue.Proofs.Job.ReadBack
import JobQueue.Proofs.Solo

/-! The log of dead letters is complete. A delivery sends one letter if it fails after it got through the
dedup gate, and none otherwise; the log has the letters that arrived, in the order in which they did, and
nothing is ever taken from it. Letters of jobs that were read from envelopes can all be read again. -/

namespace JobQueue

open Time (Duration)

/-- A list of images is the image of a list. -/
theorem exists_map_eq {α β : Type} {f : α → β} {P : α → Prop} {l : List β}
    (h : ∀ b ∈ l, ∃ a, P a ∧ f a = b) : ∃ l' : List α, l'.map f = l ∧ ∀ a ∈ l', P a := by
  induction l with
  | nil => exact ⟨[], rfl, nofun⟩
  | cons b l ih =>
    obtain ⟨⟨a, ha, rfl⟩, hl⟩ := List.forall_mem_cons.1 h
    obtain ⟨l', rfl, hl'⟩ := ih hl
    exact ⟨a :: l', rfl, List.forall_mem_cons.2 ⟨ha, hl'⟩⟩

/-! ### The letter of a delivery -/

/-- A letter is sent, whether or not it arrives. -/
def QueueConfig.sendsLetter (config : QueueConfig) : Deed → Bool
  | ⟨.command .deadLetters (.rpush key _), _⟩ => key == config.deadLetterKey
  | _ => false

namespace Consumer

/-- Why a delivery has failed that got through the dedup gate. -/
inductive FailsFor (consumer : Consumer) (job : Job) (deeds : List Deed) : String → Prop where
  | rejected (error : ValidationError) (hasked : ⟨consumer.asks job, .ok true⟩ ∈ deeds)
      (h : Validation.validate consumer.maxQueryLength job = .error error) :
      FailsFor consumer job deeds error.error
  | failed (request : JobRequest) (error : ProcessingError)
      (hasked : ⟨consumer.asks job, .ok true⟩ ∈ deeds)
      (hvalid : Validation.validate consumer.maxQueryLength job = .ok request)
      (h : ⟨.process request, .error error⟩ ∈ deeds) : FailsFor consumer job deeds error.message

/-- An entry of the log that tells which delivery has failed, when, and why. -/
structure IsLetterOf (consumer : Consumer) (job : Job) (deeds : List Deed) (entry : DeadLetterEntry) :
    Prop where
  queueName : entry.queueName = consumer.queue.name
  jobId : entry.jobId = job.id
  attempt : entry.attempt = job.attempt
  payload : entry.payload = job.data
  reason : consumer.FailsFor job deeds entry.reason
  failedAt : ∃ reading nanos, ⟨.clock, reading⟩ ∈ deeds ∧ Clock.recordTime reading = .ok nanos ∧
    entry.failedAt = .ofEpochNanos nanos

variable {consumer : Consumer} {job : Job} {deeds : List Deed}

/-- The reason is among the deeds that do not only count. -/
theorem FailsFor.mono {deeds' : List Deed} {reason : String}
    (hsub : ∀ d ∈ deeds, d ∈ d.shown → d ∈ deeds') (h : consumer.FailsFor job deeds reason) :
    consumer.FailsFor job deeds' reason := by
  cases h with
  | rejected error hasked h => exact .rejected error (hsub _ hasked (.head _)) h
  | failed request error hasked hvalid h =>
    exact .failed request error (hsub _ hasked (.head _)) hvalid (hsub _ h (.head _))

theorem IsLetterOf.mono {deeds' : List Deed} {entry : DeadLetterEntry} (hsub : deeds ⊆ deeds')
    (h : consumer.IsLetterOf job deeds entry) : consumer.IsLetterOf job deeds' entry := by
  obtain ⟨reading, nanos, hreading, hnanos, htime⟩ := h.failedAt
  exact ⟨h.queueName, h.jobId, h.attempt, h.payload, h.reason.mono fun _ hd _ => hsub hd, reading, nanos,
    hsub hreading, hnanos, htime⟩

/-- To send an entry of the log. -/
abbrev posts (consumer : Consumer) (entry : DeadLetterEntry) : Effect :=
  .command .deadLetters (.rpush consumer.queue.deadLetterKey (DeadLetterEntry.codec.text entry))

/-- What a delivery sends to the log. -/
inductive Sent (consumer : Consumer) (job : Job) (deeds : List Deed) : List Deed → Prop where
  | nothing : Sent consumer job deeds []
  | letter (entry : DeadLetterEntry) (written : Except StoreError Unit)
      (h : consumer.IsLetterOf job deeds entry) : Sent consumer job deeds [⟨consumer.posts entry, written⟩]

theorem Sent.length_le {sent : List Deed} (h : consumer.Sent job deeds sent) : sent.length ≤ 1 := by
  cases h with
  | nothing => exact Nat.zero_le 1
  | letter => exact Nat.le_refl 1

/-- What records a failure ends with a letter, unless the clock shows no date. -/
theorem Recording.letter {reason : String} {earlier later : List Deed} {r : Except Panic Unit}
    (h : consumer.Recording job reason later r) (hreason : consumer.FailsFor job earlier reason)
    (hearlier : earlier.filter consumer.queue.sendsLetter = []) :
    ((earlier ++ later).filter consumer.queue.sendsLetter = [] ∧ ∃ panic, r = .error panic) ∨
    ∃ first entry written, earlier ++ later = first ++ [⟨consumer.posts entry, written⟩] ∧
      first.filter consumer.queue.sendsLetter = [] ∧ consumer.IsLetterOf job first entry := by
  cases h with
  | recorded reading nanos written htime =>
    refine .inr ⟨earlier ++ [⟨.clock, reading⟩],
      .ofJob consumer.queue.name job reason (.ofEpochNanos nanos), written, by simp, ?_, ?_⟩
    · rw [List.filter_append, hearlier]
      rfl
    · exact ⟨rfl, rfl, rfl, rfl, hreason.mono fun _ hd _ => List.mem_append_left _ hd, reading, nanos,
        by simp, htime, rfl⟩
  | dateless reading panic htime =>
    refine .inl ⟨?_, panic, rfl⟩
    rw [List.filter_append, hearlier]
    rfl

/-- A letter is the last deed of a course, and a course without one ends without a failure to record. -/
theorem Course.letter {whole : List Deed} {r : Except Panic Outcome}
    (h : consumer.Course job (Validation.validate consumer.maxQueryLength job) whole r) :
    (whole.filter consumer.queue.sendsLetter = [] ∧
      ∀ outcome, r = .ok outcome → ∀ reason, ¬consumer.FailsFor job whole reason) ∨
    ∃ first entry written, whole = first ++ [⟨consumer.posts entry, written⟩] ∧
      first.filter consumer.queue.sendsLetter = [] ∧ consumer.IsLetterOf job first entry := by
  cases h with
  | refused | skipped =>
    refine .inl ⟨rfl, ?_⟩
    rintro _ - _ (⟨_, hasked, -⟩ | ⟨_, _, hasked, -, -⟩) <;> simp at hasked
  | rejected error told h hrecording =>
    have hreason : consumer.FailsFor job
        [⟨consumer.asks job, .ok true⟩, ⟨consumer.tells job error, told⟩] error.error :=
      .rejected error (.head _) h
    obtain ⟨hnone, panic, rfl⟩ | hletter := hrecording.letter hreason rfl
    · exact .inl ⟨hnone, nofun⟩
    · exact .inr hletter
  | succeeded request h =>
    refine .inl ⟨rfl, ?_⟩
    rintro _ - _ (⟨_, -, hinvalid⟩ | ⟨_, _, -, -, hfailed⟩)
    · cases h.symm.trans hinvalid
    · simp at hfailed
  | failed request error h hrecording =>
    have hreason : consumer.FailsFor job
        [⟨consumer.asks job, .ok true⟩, ⟨.process request, .error error⟩] error.message :=
      .failed request error (.head _) h (.tail _ (.head _))
    obtain ⟨hnone, panic, rfl⟩ | hletter := hrecording.letter hreason rfl
    · exact .inl ⟨hnone, nofun⟩
    · exact .inr hletter

/-- At any moment a delivery is on one of its courses, and at its end it has gone all of it. -/
theorem handle_course {q : Program Outcome} (h : (consumer.handle job).Leads deeds q) :
    ∃ whole r, consumer.Course job (Validation.validate consumer.maxQueryLength job) whole r ∧
      course deeds <+: whole ∧ ∀ outcome, q = .done outcome → whole = course deeds ∧ r = .ok outcome := by
  have hfollows := consumer.gates_follows job (Validation.validate consumer.maxQueryLength job)
  cases q with
  | done outcome =>
    refine ⟨_, .ok outcome, hfollows.course_of_end (r := .ok outcome) h, List.prefix_rfl, ?_⟩
    rintro _ ⟨⟩
    exact ⟨rfl, rfl⟩
  | panic | step =>
    obtain ⟨whole, r, hcourse, hprefix⟩ := hfollows.exists_course h
    exact ⟨whole, r, hcourse, hprefix, nofun⟩

/-- A delivery sends at most one letter, and at its end it has sent one exactly if it has failed for a
reason. -/
theorem handle_sent {q : Program Outcome} (h : (consumer.handle job).Leads deeds q) :
    consumer.Sent job deeds (deeds.filter consumer.queue.sendsLetter) ∧
      ∀ outcome, q = .done outcome → ((deeds.filter consumer.queue.sendsLetter).length = 1 ↔
        ∃ reason, consumer.FailsFor job deeds reason) := by
  obtain ⟨whole, r, hcourse, hprefix, hend⟩ := handle_course h
  have hfilter : (course deeds).filter consumer.queue.sendsLetter =
      (deeds.filter consumer.queue.sendsLetter).reverse := filter_course (fun _ _ => rfl) deeds
  have hnothing : (course deeds).filter consumer.queue.sendsLetter = [] →
      deeds.filter consumer.queue.sendsLetter = [] := by
    intro hnone
    rwa [hfilter, List.reverse_eq_nil_iff] at hnone
  obtain ⟨hnone, hfine⟩ | ⟨first, entry, written, rfl, hfirst, hletter⟩ := hcourse.letter
  · rw [hnothing (List.prefix_nil.1 (hnone ▸ hprefix.filter _))]
    refine ⟨.nothing, fun outcome hq => ⟨nofun, fun ⟨reason, hfails⟩ => ?_⟩⟩
    obtain ⟨rfl, hr⟩ := hend outcome hq
    exact absurd (hfails.mono fun _ => mem_course) (hfine outcome hr reason)
  obtain hwhole | hpart := List.prefix_concat_iff.1 hprefix
  · have hposted : deeds.filter consumer.queue.sendsLetter = [⟨consumer.posts entry, written⟩] := by
      rw [← List.reverse_inj, ← hfilter, hwhole, List.filter_append, hfirst]
      simp [QueueConfig.sendsLetter]
    have hletter' : consumer.IsLetterOf job deeds entry := by
      refine hletter.mono fun d hd => mem_of_mem_course ?_
      rw [hwhole]
      exact List.mem_append_left _ hd
    rw [hposted]
    exact ⟨.letter entry written hletter', fun _ _ => ⟨fun _ => ⟨_, hletter'.reason⟩, fun _ => rfl⟩⟩
  · rw [hnothing (List.prefix_nil.1 (hfirst ▸ hpart.filter _))]
    refine ⟨.nothing, fun outcome hq => ?_⟩
    -- A delivery that has ended has gone all of its course.
    have hlength := hpart.length_le
    rw [← (hend outcome hq).1, List.length_append] at hlength
    simp at hlength

end Consumer

namespace QueueConfig

variable {config : QueueConfig}

/-! ### The letters of a run -/

theorem letter?_eq_some {d : Deed} {text : String} (h : config.letter? d = some text) :
    d = ⟨.command .deadLetters (.rpush config.deadLetterKey text), .ok ()⟩ := by
  unfold letter? at h
  split at h
  next key text' a =>
    split at h
    next hkey =>
      cases h
      rw [hkey]
    next => cases h
  next => cases h

theorem sendsLetter_of_letter {d : Deed} (h : (config.letter? d).isSome = true) :
    config.sendsLetter d = true := by
  obtain ⟨text, htext⟩ := Option.isSome_iff_exists.1 h
  rw [letter?_eq_some htext]
  exact beq_self_eq_true config.deadLetterKey

/-- Letters that arrive were sent. -/
theorem filterMap_letter? (deeds : List Deed) :
    deeds.filterMap config.letter? = (deeds.filter config.sendsLetter).filterMap config.letter? := by
  rw [List.filterMap_filter]
  refine List.filterMap_congr fun d _ => ?_
  cases hletter : config.letter? d with
  | none => simp
  | some text => rw [if_pos (sendsLetter_of_letter (by rw [hletter]; rfl))]

theorem sendsLetter_of_own {e : Effect} (h : e.IsOwn config) (a : e.Answer) :
    config.sendsLetter ⟨e, a⟩ = false := by
  cases h <;> rfl

/-- Only deliveries send letters. -/
theorem sent_of_user {op : UserOp} {deeds : List Deed} {q : Program UserReply}
    (h : (op.program config).Leads deeds q) : deeds.filter config.sendsLetter = [] ∨
      ∃ window maxQueryLength job entry written, op = .handle window maxQueryLength job ∧
        deeds.filter config.sendsLetter =
          [⟨Consumer.posts ⟨config, window, maxQueryLength⟩ entry, written⟩] ∧
        Consumer.IsLetterOf ⟨config, window, maxQueryLength⟩ job deeds entry := by
  cases op with
  | queue | settle =>
    have hown := UserOp.deeds_own config (by nofun) h
    refine .inl (List.filter_eq_nil_iff.2 fun d hd => ?_)
    rw [sendsLetter_of_own (hown d hd) d.a]
    exact Bool.false_ne_true
  | handle window maxQueryLength job =>
    obtain ⟨q', hhandle, -⟩ := h.of_map
    have hsent := (Consumer.handle_sent hhandle).1
    generalize hdeeds : deeds.filter config.sendsLetter = sent at hsent
    cases hsent with
    | nothing => exact .inl rfl
    | letter entry written hletter =>
      exact .inr ⟨window, maxQueryLength, job, entry, written, rfl, rfl, hletter⟩

/-- The log of a run, as entries with the deliveries that have sent them. -/
structure Log (config : QueueConfig) (world : World) (s : Scene config.users)
    (records : List (Nat × DeadLetterEntry)) : Prop where
  /-- The entries are those that arrived, in the order in which they did. -/
  order : records.map (fun r => (r.1, DeadLetterEntry.codec.text r.2)) =
    Scene.signed config.letter? s.history
  /-- The list has grown by these entries. -/
  letters : config.letters s.world =
    config.letters world ++ records.map fun r => DeadLetterEntry.codec.text r.2
  /-- No delivery has two entries. -/
  once : (records.map Prod.fst).Nodup
  /-- Every entry is that of the delivery that has sent it. -/
  sound : ∀ r ∈ records, ∃ window maxQueryLength job,
    .began r.1 (.handle window maxQueryLength job) ∈ s.history ∧
      Consumer.IsLetterOf ⟨config, window, maxQueryLength⟩ job (Scene.deeds r.1 s.history) r.2
  /-- A delivery has an entry exactly if one that it has sent arrived. -/
  arrived : ∀ n, n ∈ records.map Prod.fst ↔ ∃ d ∈ Scene.deeds n s.history, (config.letter? d).isSome
  /-- At its end a delivery has sent one entry if it has failed for a reason, and none otherwise. -/
  sent : ∀ n window maxQueryLength job reply,
    .ended n (.handle window maxQueryLength job) reply ∈ s.history →
      (Scene.deeds n s.history).countP config.sendsLetter ≤ 1 ∧
      ((Scene.deeds n s.history).countP config.sendsLetter = 1 ↔ ∃ reason,
        Consumer.FailsFor ⟨config, window, maxQueryLength⟩ job (Scene.deeds n s.history) reason)

open Scene

variable {K : Conditions} {world : World} {s s' : Scene config.users}

/-- Nothing is taken from the log. -/
theorem letters_prefix (ht : s.Tracked) (h : Run K s s') :
    config.letters s.world <+: config.letters s'.world := by
  obtain ⟨later, -, hview⟩ := h.shows shows_letters (UserOp.program_use config) ht
  exact ⟨_, hview.symm⟩

/-- Every letter that arrived is that of the delivery that has sent it. -/
theorem exists_record (h : Reachable K world s) {x : Nat × String}
    (hx : x ∈ signed config.letter? s.history) :
    ∃ r : Nat × DeadLetterEntry, (∃ window maxQueryLength job,
      .began r.1 (.handle window maxQueryLength job) ∈ s.history ∧
        Consumer.IsLetterOf ⟨config, window, maxQueryLength⟩ job (deeds r.1 s.history) r.2) ∧
      (r.1, DeadLetterEntry.codec.text r.2) = x := by
  obtain ⟨n, text⟩ := x
  obtain ⟨d, hd, htext⟩ := mem_signed.1 hx
  obtain ⟨op, time, wall, hdid⟩ := exists_of_mem_deeds hd
  have hbegan := h.tracked.did _ _ _ _ _ _ hdid
  obtain ⟨q, hleads⟩ := h.tracked.exists_leads hbegan
  have hsent : d ∈ (deeds n s.history).filter config.sendsLetter :=
    List.mem_filter.2 ⟨hd, sendsLetter_of_letter (by rw [htext]; rfl)⟩
  obtain hnone | ⟨window, maxQueryLength, job, entry, written, rfl, hone, hletter⟩ := sent_of_user hleads
  · rw [hnone] at hsent
    cases hsent
  · rw [hone, List.mem_singleton, letter?_eq_some htext] at hsent
    cases hsent
    exact ⟨(n, entry), ⟨window, maxQueryLength, job, hbegan, hletter⟩, rfl⟩

/-- No delivery has two letters that arrived. -/
theorem nodup_signed (h : Reachable K world s) :
    ((signed config.letter? s.history).map Prod.fst).Nodup := by
  refine List.nodup_iff_count_le_one.2 fun n => ?_
  have hcount : ((signed config.letter? s.history).map Prod.fst).count n =
      ((deeds n s.history).reverse.filterMap config.letter?).length := by
    rw [List.count_eq_countP, List.countP_map, List.countP_eq_length_filter]
    exact (congrArg List.length (filter_signed ..)).trans (List.length_map _)
  rw [hcount, filterMap_letter?, List.filter_reverse]
  refine Nat.le_trans (List.length_filterMap_le ..) ?_
  rw [List.length_reverse]
  by_cases hn : n < s.begun
  · obtain ⟨op, q, -, hleads⟩ := h.tracked.past n hn
    obtain hnone | ⟨window, maxQueryLength, job, entry, written, -, hone, -⟩ := sent_of_user hleads
    · rw [hnone]
      exact Nat.zero_le 1
    · rw [hone]
      exact Nat.le_refl 1
  · rw [h.tracked.fresh n (Nat.le_of_not_lt hn)]
    exact Nat.zero_le 1

theorem exists_log (h : Reachable K world s) : ∃ records, config.Log world s records := by
  obtain ⟨records, horder, hsound⟩ := exists_map_eq fun x => exists_record (x := x) h
  have htexts : records.map (fun r => DeadLetterEntry.codec.text r.2) = shown config.letter? s.history := by
    rw [← map_snd_signed, ← horder, List.map_map]
    rfl
  refine ⟨records, horder, ?_, ?_, hsound, fun n => ?_,
    fun n window maxQueryLength job reply hended => ?_⟩
  · rw [htexts]
    exact h.shows shows_letters (UserOp.program_use config)
  · have hnodup := nodup_signed h
    rwa [← horder, List.map_map] at hnodup
  · have hnumbers : records.map Prod.fst = (signed config.letter? s.history).map Prod.fst := by
      rw [← horder, List.map_map]
      rfl
    rw [hnumbers]
    exact mem_map_fst_signed
  · obtain ⟨-, hleads, -⟩ := h.tracked.ended n _ reply hended
    obtain ⟨outcome, hhandle, -⟩ := hleads.of_map_done
    obtain ⟨hsent, hiff⟩ := Consumer.handle_sent hhandle
    rw [List.countP_eq_length_filter]
    exact ⟨hsent.length_le, hiff outcome rfl⟩

/-! ### Reading the log -/

/-- Every delivery was of a job that was read from an envelope, and whose data has no floating-point
numbers. -/
def FromEnvelopes (history : List (Event config.users)) : Prop :=
  ∀ n window maxQueryLength job, .began n (.handle window maxQueryLength job) ∈ history →
    (∃ t, Job.codec.ofText t = .ok job) ∧ Json.FloatFree job.data

end QueueConfig

theorem Store.slice_all (items : List String) : slice items 0 (-1) = items := by
  cases items with
  | nil => rfl
  | cons item items => simp [slice, resolveIndex]

/-- The letter of a job that was read from an envelope can be read again. -/
theorem Consumer.IsLetterOf.readsBack {consumer : Consumer} {job : Job} {deeds : List Deed}
    {entry : DeadLetterEntry} (h : consumer.IsLetterOf job deeds entry) {t : String}
    (hread : Job.codec.ofText t = .ok job) (hfree : Json.FloatFree job.data) :
    DeadLetterEntry.codec.ofText (DeadLetterEntry.codec.text entry) = .ok entry := by
  obtain ⟨hattempt, hfits⟩ := Job.fits_of_ofText hread
  obtain ⟨reading, nanos, -, hnanos, htime⟩ := h.failedAt
  refine (DeadLetterEntry.readsBack (Json.nestingLimit - 1) ?_ ?_ ?_ ?_).ofText
  · exact h.attempt ▸ hattempt
  · exact h.payload ▸ hfits
  · exact h.payload ▸ hfree
  · exact htime ▸ Time.Moment.isRegular_ofEpochNanos hnanos

theorem World.perform_of_site {world : World} {site : Site} (h : (world.client site).Answers) {c : Command}
    {a : c.Answer} {store : Store} (hrun : (world.client site).store.run world.elapsed c = .ok (a, store)) :
    ∃ after, world.perform (.command site c) = (after, .ok (.ok a)) :=
  ⟨_, by rw [World.perform, h.run hrun]⟩

namespace DeadLetterLog

variable (config : QueueConfig) {world : World}

theorem readable_append_texts (texts : List String) {records : List (Nat × DeadLetterEntry)}
    (h : ∀ r ∈ records, DeadLetterEntry.codec.ofText (DeadLetterEntry.codec.text r.2) = .ok r.2) :
    readable (texts ++ records.map fun r => DeadLetterEntry.codec.text r.2) =
      readable texts ++ records.map Prod.snd := by
  rw [readable, List.filterMap_append, List.filterMap_map, ← List.filterMap_eq_map]
  refine congrArg _ (List.filterMap_congr fun r hr => ?_)
  simp [h r hr, Except.toOption]

theorem length_readable {texts : List String}
    (h : ∀ text ∈ texts, ∃ entry, DeadLetterEntry.codec.ofText text = .ok entry) :
    (readable texts).length = texts.length := by
  refine List.filterMap_length_eq_length.2 fun text htext => ?_
  obtain ⟨entry, hentry⟩ := h text htext
  rw [hentry]
  rfl

theorem run_entries (h : (world.client .deadLetters).Answers) :
    ∃ after, (entries config 0 (-1)).run world = (after, .ok (.ok (readable (config.letters world)))) := by
  obtain ⟨after, hperform⟩ := World.perform_of_site h (c := .lrange config.deadLetterKey 0 (-1)) rfl
  refine ⟨after, ?_⟩
  rw [Store.slice_all] at hperform
  simp only [entries, Program.send, Program.perform, Program.bind, Program.run, hperform]
  rfl

theorem run_count (h : (world.client .deadLetters).Answers) :
    ∃ after, (count config).run world = (after, .ok (.ok (config.letters world).length)) := by
  obtain ⟨after, hperform⟩ := World.perform_of_site h (c := .llen config.deadLetterKey) rfl
  refine ⟨after, ?_⟩
  simp only [count, Program.send, Program.perform, Program.run, hperform]
  rfl

end DeadLetterLog

namespace QueueConfig

open Scene

variable {config : QueueConfig} {K : Conditions} {world : World} {s : Scene config.users}

/-- Whatever is done with a queue and whichever commands fail, entries are only ever added to the log of dead
letters, and it has one entry for each delivery that has failed for a reason and whose entry arrived. If the
jobs came from envelopes, reading the log gives all of them, as many as are counted. -/
theorem letters_logged (h : Reachable K world s) :
    (∀ s', Run K s s' → config.letters s.world <+: config.letters s'.world) ∧
    ∃ records, config.Log world s records ∧
      ((s.world.client .deadLetters).Answers → FromEnvelopes s.history →
        (∀ text ∈ config.letters world, ∃ entry, DeadLetterEntry.codec.ofText text = .ok entry) →
        let entries := DeadLetterLog.readable (config.letters world) ++ records.map Prod.snd
        (∃ after, (DeadLetterLog.entries config 0 (-1)).run s.world = (after, .ok (.ok entries))) ∧
          ∃ after, (DeadLetterLog.count config).run s.world = (after, .ok (.ok entries.length))) := by
  obtain ⟨records, hlog⟩ := exists_log h
  refine ⟨fun s' hrun => letters_prefix h.tracked hrun, records, hlog, fun hanswers hread hold => ?_⟩
  have hback : ∀ r ∈ records, DeadLetterEntry.codec.ofText (DeadLetterEntry.codec.text r.2) = .ok r.2 := by
    intro r hr
    obtain ⟨window, maxQueryLength, job, hbegan, hletter⟩ := hlog.sound r hr
    obtain ⟨⟨t, ht⟩, hfree⟩ := hread _ _ _ _ hbegan
    exact hletter.readsBack ht hfree
  have hentries := DeadLetterLog.readable_append_texts (config.letters world) hback
  rw [← hlog.letters] at hentries
  have hlength : (config.letters s.world).length =
      (DeadLetterLog.readable (config.letters world) ++ records.map Prod.snd).length := by
    rw [hlog.letters, List.length_append, List.length_append, DeadLetterLog.length_readable hold,
      List.length_map, List.length_map]
  have hread := DeadLetterLog.run_entries config hanswers
  have hcount := DeadLetterLog.run_count config hanswers
  rw [hentries] at hread
  rw [hlength] at hcount
  exact ⟨hread, hcount⟩

/-! ### Fixed inputs -/

/-- A world in which processing gives an error. -/
def sampleLettersWorld : World :=
  .new [⟨"q", 0, some "boom"⟩] true 0

/-- A job without a payload. -/
def sampleInvalid : Job :=
  .first "j2" .null

/-- A valid job is delivered twice, and an invalid one once. -/
def sampleUses : List UserOp :=
  [.sample, .sample, sampleInvalid].map (.handle (.ofSeconds 60) Validation.defaultMaxQueryLength)

/-- What the deliveries lead to, one after another. -/
def sampleLogged : Scene QueueConfig.sample.users :=
  sampleUses.foldl alone (start sampleLettersWorld)

/-- One delivery fails, one is skipped, and one is rejected. There are two letters, and both can be read. -/
theorem sample_letters_logged : Reachable .reliable sampleLettersWorld sampleLogged ∧
    FromEnvelopes sampleLogged.history ∧
    ∃ records, QueueConfig.sample.Log sampleLettersWorld sampleLogged records ∧ records.length = 2 ∧
      ∃ after, (DeadLetterLog.entries QueueConfig.sample 0 (-1)).run sampleLogged.world =
        (after, .ok (.ok (records.map Prod.snd))) := by
  have hrun : Reachable .reliable sampleLettersWorld sampleLogged := run_of_all_alone fun _ _ => rfl
  have hfree : Json.FloatFree Job.sample.data := by
    refine .object fun m hm => ?_
    simp only [List.mem_cons, List.not_mem_nil, or_false] at hm
    obtain rfl | rfl := hm <;> exact .string _
  have hanswers : (sampleLogged.world.client .deadLetters).Answers := fun verb => by
    cases verb <;> decide +kernel
  have hread : FromEnvelopes sampleLogged.history := by
    intro n window maxQueryLength job hbegan
    obtain hstart | hmem := began_of_all_alone hbegan
    · cases hstart
    simp only [sampleUses, List.map_cons, List.map_nil, List.mem_cons, List.not_mem_nil, or_false,
      UserOp.handle.injEq] at hmem
    obtain ⟨-, -, rfl⟩ | ⟨-, -, rfl⟩ | ⟨-, -, rfl⟩ := hmem
    · exact ⟨⟨_, Job.sample_isRead⟩, hfree⟩
    · exact ⟨⟨_, Job.sample_isRead⟩, hfree⟩
    · exact ⟨⟨Job.codec.text sampleInvalid, by with_unfolding_all rfl⟩, .null⟩
  obtain ⟨-, records, hlog, hreading⟩ := letters_logged hrun
  have hlength : records.length = 2 := by
    have hcount := congrArg List.length hlog.order
    rw [List.length_map] at hcount
    rw [hcount]
    decide +kernel
  obtain ⟨hentries, -⟩ := hreading hanswers hread nofun
  exact ⟨hrun, hread, records, hlog, hlength, hentries⟩

end QueueConfig

end JobQueue
