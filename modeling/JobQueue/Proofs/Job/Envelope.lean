import JobQueue.Job
import JobQueue.Proofs.Json.Value

/-! The envelopes of a job: whatever is read from a text that was written for a job has its id. -/

namespace JobQueue

namespace Json

/-- The next member is read by its name. -/
theorem exists_of_readMembers {σ : Type} {member : String → σ → Reader σ} {fuel : Nat} {first : Bool}
    {name : String} {s s' : σ} {cs cs' rest : List Char}
    (hname : nextName first cs = .ok (some (quoteChars name.toList ++ '"' :: rest)))
    (h : readMembers member (fuel + 1) first s cs = .ok (s', cs')) :
    ∃ s₁ cs₁, member name s rest = .ok (s₁, cs₁) ∧
      readMembers member fuel false s₁ cs₁ = .ok (s', cs') := by
  obtain ⟨name?, hfound, h⟩ := exists_of_bind_eq_ok h
  cases hname.symm.trans hfound
  obtain ⟨⟨found, cs⟩, hread, h⟩ := exists_of_bind_eq_ok h
  cases (readString_quoteChars name rest).symm.trans hread
  obtain ⟨⟨s₁, cs₁⟩, hmember, h⟩ := exists_of_bind_eq_ok h
  exact ⟨s₁, cs₁, hmember, h⟩

/-- A free slot takes what its field reads. -/
theorem Row.exists_of_readMember_self {α β σ : Type} {depth : Nat} {field : Field α} {rest : Row β σ}
    {slots : σ} {slots' : Option α × σ} {cs cs' : List Char}
    (h : (Row.cons field rest).readMember depth field.name (none, slots) (':' :: cs) =
      .ok (slots', cs')) :
    ∃ a, field.codec.read depth cs = .ok (a, cs') ∧ slots' = (some a, slots) := by
  rw [readMember, if_pos rfl] at h
  obtain ⟨value, hcolon, h⟩ := exists_of_bind_eq_ok h
  cases hcolon
  obtain ⟨⟨a, cs⟩, hread, h⟩ := exists_of_bind_eq_ok h
  cases h
  exact ⟨a, hread, rfl⟩

/-- A slot that is full is the value of its field. -/
theorem Row.complete_full {α β σ : Type} {field : Field α} {rest : Row β σ} {a : α}
    {slots : Option α × σ} {values : α × β} (hslot : slots.1 = some a)
    (h : (Row.cons field rest).complete slots = .ok values) :
    values.1 = a ∧ rest.complete slots.2 = .ok values.2 := by
  obtain ⟨slot, slots⟩ := slots
  obtain rfl : slot = some a := hslot
  rw [complete] at h
  obtain ⟨b, hrest, h⟩ := exists_of_bind_eq_ok h
  cases h
  exact ⟨rfl, hrest⟩

/-- A slot that is full stays as it is, and any other member goes on to the other fields. -/
theorem Row.readMember_full {α β σ : Type} {depth : Nat} {name : String} {field : Field α}
    {rest : Row β σ} {a : α} {slots : Option α × σ} {slots' : Option α × σ} {cs cs' : List Char}
    (hslot : slots.1 = some a)
    (h : (Row.cons field rest).readMember depth name slots cs = .ok (slots', cs')) :
    slots'.1 = some a ∧ rest.readMember depth name slots.2 cs = .ok (slots'.2, cs') := by
  obtain ⟨slot, slots⟩ := slots
  obtain rfl : slot = some a := hslot
  rw [Row.readMember] at h
  split at h
  · cases h
  · obtain ⟨⟨slots, cs⟩, hrest, h⟩ := exists_of_bind_eq_ok h
    cases h
    exact ⟨rfl, hrest⟩

end Json

namespace Job

open Json

/-- A text that a queue could hold for a job of the given id. -/
def IsEnvelope (id envelope : String) : Prop :=
  ∃ job : Job, job.id = id ∧ envelope = Job.codec.text job

theorem isEnvelope_text (job : Job) : IsEnvelope job.id (Job.codec.text job) :=
  ⟨job, rfl, rfl⟩

theorem next_id {job next : Job} (h : job.next = .ok next) : next.id = job.id := by
  unfold Job.next at h
  split at h
  · cases h; rfl
  · cases h

theorem next_attempt {job next : Job} (h : job.next = .ok next) : next.attempt = job.attempt + 1 := by
  unfold Job.next at h
  split at h
  · cases h; rfl
  · cases h

/-- The text of a job starts with its id and its attempt. -/
theorem exists_text_toList (job : Job) :
    ∃ rest, (Job.codec.text job).toList =
      '{' :: '"' :: (quoteChars "id".toList ++ '"' :: ':' :: '"' ::
        (quoteChars job.id.toList ++ '"' :: ',' :: '"' :: (quoteChars "attempt".toList ++
          '"' :: ':' :: (Text.natDigits job.attempt ++ ',' :: rest)))) := by
  refine ⟨commaSeparated [memberText "data" job.data.chars] ++ ['}'], ?_⟩
  simp [Codec.text, Job.codec, Codec.record, objectText, Row.memberChars, Field.required,
    Field.defaulted, commaSeparated, memberText, quoted, Codec.string, Codec.word32, Codec.word,
    Codec.any]

/-- What is read from the text of a job has the id and the attempt of the job. -/
theorem ofText_text {job job' : Job} (h : Job.codec.ofText (Job.codec.text job) = .ok job') :
    job'.id = job.id ∧ job'.attempt = job.attempt := by
  obtain ⟨rest, htext⟩ := exists_text_toList job
  rw [Codec.ofText, document, htext] at h
  obtain ⟨⟨read, cs⟩, hread, h⟩ := exists_of_bind_eq_ok h
  obtain ⟨⟨slots, cs⟩, hmembers, hread⟩ := exists_of_bind_eq_ok hread
  obtain ⟨values, hvalues, hread⟩ := exists_of_bind_eq_ok hread
  obtain ⟨cs, -, hread⟩ := exists_of_bind_eq_ok hread
  cases hread
  -- The first two members are the id and the attempt, and their slots are full from then on.
  obtain ⟨full, cs, hmember, hmembers⟩ := exists_of_readMembers rfl hmembers
  change Row.readMember _ (Field.required "id" Codec.string).name (.cons _ _) (none, _) _ = _ at hmember
  obtain ⟨id, hid, rfl⟩ := Row.exists_of_readMember_self hmember
  cases (readString_quoteChars job.id _).symm.trans hid
  rw [List.length_cons] at hmembers
  obtain ⟨full, cs, hmember, hmembers⟩ := exists_of_readMembers rfl hmembers
  obtain ⟨⟨later, cs⟩, hmember, heq⟩ := exists_of_bind_eq_ok hmember
  cases heq
  change Row.readMember _ (Field.defaulted "attempt" Codec.word32 firstAttempt).name (.cons _ _)
    (none, _) _ = _ at hmember
  obtain ⟨attempt, hattempt, rfl⟩ := Row.exists_of_readMember_self hmember
  obtain rfl : attempt = job.attempt := Codec.word_read_natDigits hattempt
  obtain ⟨hid, hattempt⟩ := readMembers_induction
    (P := fun slots => slots.1 = some job.id ∧ slots.2.1 = some job.attempt)
    (fun _ _ _ _ _ hs h => by
      obtain ⟨hid, hrest⟩ := Row.readMember_full hs.1 h
      exact ⟨hid, (Row.readMember_full hs.2 hrest).1⟩) _ _ ⟨rfl, rfl⟩ hmembers
  obtain ⟨hvalue, hrest⟩ := Row.complete_full hid hvalues
  obtain ⟨hcount, -⟩ := Row.complete_full hattempt hrest
  dsimp only at h
  split at h
  · cases h
    exact ⟨hvalue, hcount⟩
  · cases h

theorem ofText_text_id {job job' : Job} (h : Job.codec.ofText (Job.codec.text job) = .ok job') :
    job'.id = job.id :=
  (ofText_text h).1

/-- An envelope of an id is read as a job of that id. -/
theorem IsEnvelope.id_eq {id envelope : String} {job : Job} (h : IsEnvelope id envelope)
    (hread : Job.codec.ofText envelope = .ok job) : job.id = id := by
  obtain ⟨job', rfl, rfl⟩ := h
  exact ofText_text_id hread

end Job

end JobQueue
