import JobQueue.DeadLetter
import JobQueue.Proofs.Json.Record
import JobQueue.Proofs.Queue.Alone
import JobQueue.Proofs.Time.Moment
import JobQueue.Response

/-! What is written for a job that was read can be read again: its next delivery, the dead letters that
record it, and the responses that reject it. The data lies one level deep in each of these records, just as
in the envelope it came from, so that it never gets too deep to be read. -/

namespace JobQueue

open Json

theorem ValidationError.readsBack (depth : Nat) (error : ValidationError) :
    ValidationError.codec.ReadsBack (depth + 1) error := by
  refine Codec.record_readsBack (by decide) ?_ rfl
  refine Row.readsBack_cons rfl (Codec.string_readsBack error.error) ?_
  exact Row.readsBack_omitted (Codec.optional_string_readsBack error.field) trivial

theorem JobResponse.readsBack (depth : Nat) (response : JobResponse) :
    JobResponse.codec.ReadsBack (depth + 2) response := by
  refine Codec.record_readsBack (by decide) ?_ rfl
  refine Row.readsBack_cons rfl (Codec.string_readsBack response.jobId) ?_
  refine Row.readsBack_cons rfl (Codec.optional_string_readsBack response.clientId) ?_
  exact Row.readsBack_cons rfl (response.error.readsBack depth) trivial

theorem DeadLetterEntry.readsBack (depth : Nat) {entry : DeadLetterEntry}
    (hattempt : entry.attempt ≤ Word.max32) (hfits : Fits depth entry.payload)
    (hfree : FloatFree entry.payload) (htime : entry.failedAt.IsRegular) :
    DeadLetterEntry.codec.ReadsBack (depth + 1) entry := by
  refine Codec.record_readsBack (by decide) ?_ rfl
  refine Row.readsBack_cons rfl (Codec.string_readsBack entry.queueName) ?_
  refine Row.readsBack_cons rfl (Codec.string_readsBack entry.jobId) ?_
  refine Row.readsBack_cons rfl (Codec.string_readsBack entry.reason) ?_
  refine Row.readsBack_cons rfl (Codec.any_readsBack hfits hfree) ?_
  refine Row.readsBack_cons rfl (Codec.word_readsBack hattempt (by decide)) ?_
  exact Row.readsBack_cons rfl (Codec.moment_readsBack (Time.Moment.ofText_text htime)) trivial

namespace Job

theorem readsBack (depth : Nat) {job : Job} (hattempt : job.attempt ≤ Word.max32)
    (hfits : Fits depth job.data) (hfree : FloatFree job.data) : Job.codec.ReadsBack (depth + 1) job := by
  refine Codec.record_readsBack (by decide) ?_ rfl
  refine Row.readsBack_cons rfl (Codec.string_readsBack job.id) ?_
  refine Row.readsBack_cons rfl (Codec.word_readsBack hattempt (by decide)) ?_
  exact Row.readsBack_cons rfl (Codec.any_readsBack hfits hfree) trivial

/-- The attempt of a job that was read can be written, and its data can be read one level deep. -/
theorem fits_of_ofText {t : String} {job : Job} (h : Job.codec.ofText t = .ok job) :
    job.attempt ≤ Word.max32 ∧ Fits (nestingLimit - 1) job.data := by
  obtain ⟨⟨id, attempt, data, _⟩, ⟨-, hattempt, hdata, -⟩, rfl⟩ := Codec.exists_of_record_ofText h
  refine ⟨(?_ : attempt ≤ Word.max32), (?_ : Fits _ data)⟩
  · obtain ⟨_, _, hread⟩ | hmissing | hshort := hattempt
    · exact Codec.word_read_le hread
    · cases hmissing
      decide
    · cases hshort
      decide
  · obtain ⟨_, _, hread⟩ | hmissing | hshort := hdata
    · exact readValue_fits hread
    · cases hmissing
    · cases hshort

/-- Of a job that was read from any text, and whose data has no floating-point numbers, the next delivery,
every dead letter and every response are read back as they were written. -/
theorem derived_texts_readBack {t : String} {job : Job} (hread : Job.codec.ofText t = .ok job)
    (hfree : FloatFree job.data) :
    (job.attempt < lastAttempt → ∃ next, job.next = .ok next ∧ next.id = job.id ∧
      next.attempt = job.attempt + 1 ∧ next.data = job.data ∧
      Job.codec.ofText (Job.codec.text next) = .ok next) ∧
    (∀ queueName reason reading nanos, Clock.recordTime reading = .ok nanos →
      let entry := DeadLetterEntry.ofJob queueName job reason (.ofEpochNanos nanos)
      DeadLetterEntry.codec.ofText (DeadLetterEntry.codec.text entry) = .ok entry) ∧
    ∀ error,
      let response := JobResponse.rejection job error
      JobResponse.codec.ofText (JobResponse.codec.text response) = .ok response := by
  obtain ⟨hattempt, hfits⟩ := fits_of_ofText hread
  refine ⟨fun hlast => ?_, fun queueName reason reading nanos hreading => ?_, fun error => ?_⟩
  · have hnext : job.next = .ok { job with attempt := job.attempt + 1 } := if_pos hlast
    have hback : Job.codec.ReadsBack nestingLimit { job with attempt := job.attempt + 1 } :=
      readsBack (nestingLimit - 1) hlast hfits hfree
    exact ⟨_, hnext, rfl, rfl, rfl, hback.ofText⟩
  · exact Codec.ReadsBack.ofText (DeadLetterEntry.readsBack (nestingLimit - 1) hattempt hfits hfree
      (Time.Moment.isRegular_ofEpochNanos hreading))
  · exact Codec.ReadsBack.ofText (JobResponse.readsBack (nestingLimit - 2) _)

/-- An envelope as an array, with a name twice and the least and the greatest whole number. -/
def sampleArray : String :=
  "[\"j1\",7,\x7b\"n\":[-9223372036854775808,18446744073709551615],\"b\":null,\"b\":\"\\t\"\x7d]"

/-- The job that is read from it. -/
def sampleArrayJob : Job :=
  ⟨"j1", 7, .object [("b", .string "\t"),
    ("n", .array [.number (.whole (-9223372036854775808)), .number (.whole 18446744073709551615)])]⟩

/-- Its next delivery, a dead letter and a response for it are read back. -/
theorem sample_derived_readBack :
    let entry := DeadLetterEntry.ofJob "requests" sampleArrayJob "no \"query\"" (.ofEpochNanos 1700000000120000000)
    let response := JobResponse.rejection sampleArrayJob (Validation.Violation.queryLength 5).toError
    Job.codec.ofText sampleArray = .ok sampleArrayJob ∧ FloatFree sampleArrayJob.data ∧
      sampleArrayJob.attempt < lastAttempt ∧
      (∃ next, sampleArrayJob.next = .ok next ∧ next.data = sampleArrayJob.data ∧
        Job.codec.ofText (Job.codec.text next) = .ok next) ∧
      Clock.recordTime 1700000000120000000 = .ok 1700000000120000000 ∧
      DeadLetterEntry.codec.ofText (DeadLetterEntry.codec.text entry) = .ok entry ∧
      JobResponse.codec.ofText (JobResponse.codec.text response) = .ok response := by
  have hread : Job.codec.ofText sampleArray = .ok sampleArrayJob := by with_unfolding_all rfl
  have hfree : FloatFree sampleArrayJob.data := by
    refine .object fun m hm => ?_
    simp only [List.mem_cons, List.not_mem_nil, or_false] at hm
    obtain rfl | rfl := hm
    · exact .string _
    · refine .array fun item hitem => ?_
      simp only [List.mem_cons, List.not_mem_nil, or_false] at hitem
      obtain rfl | rfl := hitem <;> exact .whole _
  have hattempt : sampleArrayJob.attempt < lastAttempt := by decide
  have hdate := Clock.recordTime_eq_ok.2 ⟨rfl, (by decide : (0 : Int) ≤ 1700000000120000000), by decide⟩
  obtain ⟨hdelivery, hletter, hresponse⟩ := derived_texts_readBack hread hfree
  obtain ⟨next, hnext, -, -, hdata, hback⟩ := hdelivery hattempt
  exact ⟨hread, hfree, hattempt, ⟨next, hnext, hdata, hback⟩, hdate, hletter _ _ _ _ hdate, hresponse _⟩

end Job

end JobQueue
