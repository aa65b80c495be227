import JobQueue.Proofs.Json.Value
import JobQueue.Proofs.Text.Trim
import JobQueue.Validation

/-! Well-formed requests. Validation accepts exactly the payloads that are well formed, with the request
that they carry, and for any other payload it names the first rule that this one breaks. The request that it
makes is in normal form: written as JSON, it is accepted again, as the same request. -/

namespace JobQueue

/-! ### The first of some things -/

/-- Of some things in their order, the first one with a property. -/
def IsFirst {α : Type} (P : α → Prop) (as : List α) (a : α) : Prop :=
  ∃ before after, as = before ++ a :: after ∧ (∀ b ∈ before, ¬ P b) ∧ P a

namespace IsFirst

variable {α : Type} {P : α → Prop} {as bs : List α} {a a' : α}

theorem mem (h : IsFirst P as a) : a ∈ as := by
  obtain ⟨before, after, rfl, -, -⟩ := h
  simp

theorem head (h : P a) : IsFirst P (a :: as) a :=
  ⟨[], as, rfl, nofun, h⟩

theorem append_left (h : IsFirst P as a) : IsFirst P (as ++ bs) a := by
  obtain ⟨before, after, rfl, hbefore, ha⟩ := h
  exact ⟨before, after ++ bs, by simp, hbefore, ha⟩

theorem append_right (has : ∀ b ∈ as, ¬ P b) (h : IsFirst P bs a) : IsFirst P (as ++ bs) a := by
  obtain ⟨before, after, rfl, hbefore, ha⟩ := h
  refine ⟨as ++ before, after, by simp, fun b hb => ?_, ha⟩
  rcases List.mem_append.1 hb with hb | hb
  · exact has b hb
  · exact hbefore b hb

theorem cons (ha : ¬ P a') (h : IsFirst P bs a) : IsFirst P (a' :: bs) a := by
  have hsingle : ∀ b ∈ [a'], ¬ P b := by simpa using ha
  exact append_right hsingle h

/-- There is only one first thing. -/
theorem eq (h : IsFirst P as a) (h' : IsFirst P as a') : a = a' := by
  obtain ⟨before, after, rfl, hbefore, ha⟩ := h
  obtain ⟨before', after', heq, hbefore', ha'⟩ := h'
  induction before generalizing before' with
  | nil =>
    cases before' with
    | nil => simp_all
    | cons b before' => simp_all
  | cons b before ih =>
    cases before' with
    | nil => simp_all
    | cons b' before' =>
      simp only [List.cons_append, List.cons.injEq] at heq
      exact ih (fun b hb => hbefore b (.tail _ hb)) before' heq.2 fun b hb => hbefore' b (.tail _ hb)

end IsFirst

namespace Validation

/-! ### Rules -/

/-- A member of a payload is a text that has, between the blanks at its ends, the given core. -/
def Carries (payload : Json) (name core : String) : Prop :=
  ∃ s, payload.get? name = some (.string s) ∧ Text.IsCore s core

/-- A payload is an object with a query of 1 to `maxLength` characters and with a client that is not blank,
names no other job than the one it belongs to, and carries the request. -/
structure WellFormed (maxLength : Nat) (id : String) (payload : Json) (request : JobRequest) : Prop where
  isObject : ∃ members, payload = .object members
  query : Carries payload "query" request.query
  length : 1 ≤ request.query.length ∧ request.query.length ≤ maxLength
  client : Carries payload "clientId" request.clientId
  client_ne : request.clientId ≠ ""
  job : ∀ value, payload.get? "jobId" = some value → value = .string id
  names : request.jobId = id

/-- What it means that a payload breaks a rule, whatever it does about the others. -/
def Breaks (id : String) (payload : Json) : Violation → Prop
  | .notObject => ∀ members, payload ≠ .object members
  | .queryType => ∀ s, payload.get? "query" ≠ some (.string s)
  | .queryEmpty => Carries payload "query" ""
  | .queryLength most => ∃ query, Carries payload "query" query ∧ most < query.length
  | .clientId => ∀ clientId, Carries payload "clientId" clientId → clientId = ""
  | .jobId => ∃ value, payload.get? "jobId" = some value ∧ value ≠ .string id

def queryRules (maxLength : Nat) : List Violation :=
  [.queryType, .queryEmpty, .queryLength maxLength]

/-- All rules in the order in which they count. -/
def rules (maxLength : Nat) : List Violation :=
  [.notObject] ++ (queryRules maxLength ++ [.clientId, .jobId])

/-! ### Checks -/

variable {maxLength : Nat} {id : String} {payload : Json} {request request' : JobRequest}

theorem Carries.eq {name core core' : String} (h : Carries payload name core)
    (h' : Carries payload name core') : core = core' := by
  obtain ⟨s, hs, hcore⟩ := h
  obtain ⟨s', hs', hcore'⟩ := h'
  rw [hs] at hs'
  cases hs'
  exact hcore.eq hcore'

theorem carries_trim {name s : String} (h : payload.get? name = some (.string s)) :
    Carries payload name (Text.trim s) :=
  ⟨s, h, Text.isCore_trim s⟩

/-- A check of some rules finds the first one that is broken, and gives a value with a property if there is
none. -/
structure Settles {α : Type} (P : Violation → Prop) (rules : List Violation) (R : α → Prop)
    (r : Except Violation α) : Prop where
  ok : ∀ a, r = .ok a → (∀ v ∈ rules, ¬ P v) ∧ R a
  error : ∀ v, r = .error v → IsFirst P rules v

namespace Settles

variable {α β : Type} {P : Violation → Prop} {vs ws : List Violation} {R : α → Prop} {S : β → Prop}

theorem of_ok {a : α} (h : ∀ v ∈ vs, ¬ P v) (ha : R a) : Settles P vs R (.ok a) where
  ok := by
    rintro _ ⟨⟩
    exact ⟨h, ha⟩
  error := nofun

theorem of_error {v : Violation} (h : IsFirst P vs v) : Settles P vs R (.error v) where
  ok := nofun
  error := by
    rintro _ ⟨⟩
    exact h

/-- One check after another. -/
theorem bind {r : Except Violation α} {f : α → Except Violation β} (h : Settles P vs R r)
    (hf : ∀ a, R a → Settles P ws S (f a)) : Settles P (vs ++ ws) S (r >>= f) := by
  cases r with
  | error v => exact of_error (h.error v rfl).append_left
  | ok a =>
    obtain ⟨hvs, ha⟩ := h.ok a rfl
    constructor
    · intro b hb
      obtain ⟨hws, hS⟩ := (hf a ha).ok b hb
      refine ⟨fun v hv => ?_, hS⟩
      rcases List.mem_append.1 hv with hv | hv
      · exact hvs v hv
      · exact hws v hv
    · intro v hv
      exact ((hf a ha).error v hv).append_right hvs

theorem error_iff {r : Except Violation α} (h : Settles P vs R r) {v : Violation} :
    r = .error v ↔ IsFirst P vs v := by
  refine ⟨h.error v, fun hv => ?_⟩
  cases r with
  | ok a =>
    have ⟨_, _, _, _, hbroken⟩ := hv
    exact absurd hbroken ((h.ok a rfl).1 v hv.mem)
  | error u => rw [(h.error u rfl).eq hv]

end Settles

theorem checkQuery_settles : Settles (Breaks id payload) (queryRules maxLength)
    (fun query => Carries payload "query" query ∧ 1 ≤ query.length ∧ query.length ≤ maxLength)
    (checkQuery maxLength payload) := by
  unfold checkQuery
  split
  next s hget =>
    have htype : ¬ Breaks id payload .queryType := fun h => h s hget
    have hcarries := carries_trim hget
    dsimp only
    split_ifs with hempty hlong
    · rw [String.isEmpty_iff.1 hempty] at hcarries
      exact .of_error (.cons htype (.head hcarries))
    all_goals
      have hne : ¬ Breaks id payload .queryEmpty := fun h => hempty (by simp [hcarries.eq h])
    · exact .of_error (.cons htype (.cons hne (.head ⟨_, hcarries, hlong⟩)))
    · have hshort : ¬ Breaks id payload (.queryLength maxLength) := by
        rintro ⟨query, hquery, hlength⟩
        exact hlong (hcarries.eq hquery ▸ hlength)
      refine .of_ok (by simp [queryRules, htype, hne, hshort]) ⟨hcarries, ?_, by omega⟩
      have : (Text.trim s).length ≠ 0 := fun h => hempty (by simp [String.length_eq_zero_iff.1 h])
      omega
  next hget => exact .of_error (.head fun s hs => hget s hs)

theorem checkClientId_settles : Settles (Breaks id payload) [.clientId]
    (fun clientId => Carries payload "clientId" clientId ∧ clientId ≠ "") (checkClientId payload) := by
  unfold checkClientId
  split
  next s hget =>
    have hcarries := carries_trim hget
    dsimp only
    split_ifs with hempty
    · rw [String.isEmpty_iff.1 hempty] at hcarries
      exact .of_error (.head fun clientId h => h.eq hcarries)
    · have hne : Text.trim s ≠ "" := fun h => hempty (by simp [h])
      exact .of_ok (by simpa [Breaks] using ⟨_, hcarries, hne⟩) ⟨hcarries, hne⟩
  next hget =>
    refine .of_error (.head fun clientId h => ?_)
    obtain ⟨s, hs, -⟩ := h
    exact absurd hs (hget s)

theorem checkJobId_settles : Settles (Breaks id payload) [.jobId]
    (fun _ => ∀ value, payload.get? "jobId" = some value → value = .string id)
    (checkJobId id payload) := by
  unfold checkJobId
  split
  next hget => exact .of_ok (by simp [Breaks, hget]) (by simp [hget])
  next s hget =>
    split_ifs with hs
    · exact .of_ok (by simp [Breaks, hget, hs]) (by simp [hget, hs])
    · exact .of_error (.head ⟨_, hget, by simpa using hs⟩)
  next value hother hget =>
    refine .of_error (.head ⟨value, hget, ?_⟩)
    rintro rfl
    exact hother _ rfl

/-- Validation goes through all rules in their order. -/
theorem check_settles : Settles (Breaks id payload) (rules maxLength)
    (WellFormed maxLength id payload) (check maxLength id payload) := by
  unfold check
  split
  next members =>
    have hobject : ∀ v ∈ [Violation.notObject], ¬ Breaks id (.object members) v := by simp [Breaks]
    have hstart : Settles _ _ (fun _ => True) (.ok ()) := .of_ok hobject trivial
    refine hstart.bind (f := fun _ => _) fun _ _ => ?_
    refine checkQuery_settles.bind fun query hquery => ?_
    refine checkClientId_settles.bind fun clientId hclientId => ?_
    refine checkJobId_settles.bind fun _ hjobId => .of_ok nofun ?_
    exact ⟨⟨members, rfl⟩, hquery.1, hquery.2, hclientId.1, hclientId.2, hjobId, rfl⟩
  next hother => exact .of_error (.head fun members h => hother members h)

/-! ### Well-formed requests -/

namespace WellFormed

theorem not_breaks (h : WellFormed maxLength id payload request) :
    ∀ v ∈ rules maxLength, ¬ Breaks id payload v := by
  obtain ⟨s, hs, -⟩ := h.query
  obtain ⟨members, hmembers⟩ := h.isObject
  have hempty : ¬ Carries payload "query" "" := fun hc => by
    have := h.length.1
    simp [h.query.eq hc] at this
  have hlong : ∀ query, Carries payload "query" query → query.length ≤ maxLength := fun query hc =>
    h.query.eq hc ▸ h.length.2
  have hclient : ∃ clientId, Carries payload "clientId" clientId ∧ clientId ≠ "" :=
    ⟨_, h.client, h.client_ne⟩
  simpa [rules, queryRules, Breaks, hs, hempty] using ⟨⟨members, hmembers⟩, hlong, hclient, h.job⟩

/-- A payload carries one request. -/
theorem eq (h : WellFormed maxLength id payload request) (h' : WellFormed maxLength id payload request') :
    request = request' := by
  obtain ⟨id, query, clientId⟩ := request
  obtain ⟨id', query', clientId'⟩ := request'
  have hid : id = id' := h.names.trans h'.names.symm
  have hquery : query = query' := h.query.eq h'.query
  have hclientId : clientId = clientId' := h.client.eq h'.client
  rw [hid, hquery, hclientId]

end WellFormed

theorem check_ok_iff : check maxLength id payload = .ok request ↔ WellFormed maxLength id payload request := by
  refine ⟨fun h => (check_settles.ok request h).2, fun h => ?_⟩
  cases hcheck : check maxLength id payload with
  | error v =>
    have hfirst := check_settles.error v hcheck
    have ⟨_, _, _, _, hbroken⟩ := hfirst
    exact absurd hbroken (h.not_breaks v hfirst.mem)
  | ok request' => rw [h.eq (check_settles.ok request' hcheck).2]

theorem validate_ok_iff {job : Job} :
    validate maxLength job = .ok request ↔ WellFormed maxLength job.id job.data request := by
  rw [← check_ok_iff, validate]
  cases check maxLength job.id job.data <;> simp [Except.mapError]

theorem validate_error_iff {job : Job} {error : ValidationError} :
    validate maxLength job = .error error ↔
      ∃ v, IsFirst (Breaks job.id job.data) (rules maxLength) v ∧ error = v.toError := by
  simp only [← check_settles.error_iff, validate]
  cases check maxLength job.id job.data <;> simp [Except.mapError, eq_comm]

end Validation

/-! ### Requests as JSON -/

namespace JobRequest

open Json

/-- A request as a payload. -/
def payload (request : JobRequest) : Json :=
  ofMembers [("jobId", .string request.jobId), ("query", .string request.query),
    ("clientId", .string request.clientId)]

theorem get?_payload (request : JobRequest) (name : String) :
    request.payload.get? name =
      if name = "clientId" then some (.string request.clientId)
      else if name = "query" then some (.string request.query)
      else if name = "jobId" then some (.string request.jobId)
      else none := by
  simp [payload, ofMembers, get?, lookup_insertMember]

/-- The text of a request is that of its payload. -/
theorem ofText_text (request : JobRequest) : Json.ofText (codec.text request) = .ok request.payload := by
  let members : List (String × Json) :=
    [("jobId", .string request.jobId), ("query", .string request.query), ("clientId", .string request.clientId)]
  have hvalues : ∀ m ∈ members, ∀ rest, MayFollow rest →
      readValue (nestingLimit - 1) (m.2.chars ++ rest) = .ok (m.2, rest) := by
    intro m hm rest hrest
    obtain ⟨s, hs⟩ : ∃ s, m.2 = .string s := by
      simp only [members, List.mem_cons, List.not_mem_nil, or_false] at hm
      rcases hm with rfl | rfl | rfl <;> exact ⟨_, rfl⟩
    rw [hs]
    exact readValue_chars (.string s) (.string s) hrest
  have hread := readValue_objectText hvalues []
  rw [List.append_nil] at hread
  have hchars : (codec.text request).toList = objectText (memberChars members) := by
    rw [Codec.text, String.toList_ofList]
    rfl
  rw [Json.ofText, document, hchars]
  exact bind_eq_of_eq_ok hread

end JobRequest

namespace Validation

variable {maxLength : Nat} {id : String} {payload : Json} {request : JobRequest}

/-- A request that was carried carries itself. -/
theorem WellFormed.own (h : WellFormed maxLength id payload request) :
    WellFormed maxLength id request.payload request where
  isObject := ⟨_, rfl⟩
  query := by
    obtain ⟨_, _, hcore⟩ := h.query
    exact ⟨request.query, by simp [request.get?_payload], hcore.bare.isCore⟩
  length := h.length
  client := by
    obtain ⟨_, _, hcore⟩ := h.client
    exact ⟨request.clientId, by simp [request.get?_payload], hcore.bare.isCore⟩
  client_ne := h.client_ne
  job := by simp [request.get?_payload, h.names]
  names := h.names

/-- Validation accepts exactly the well-formed payloads, with the request that they carry; for any other one
it gives the error of the first rule that it breaks. The text of an accepted request is accepted again, as
the same request. -/
theorem accepts_well_formed (maxLength : Nat) (job : Job) :
    (∀ request, validate maxLength job = .ok request ↔ WellFormed maxLength job.id job.data request) ∧
    (∀ error, validate maxLength job = .error error ↔
      ∃ v, IsFirst (Breaks job.id job.data) (rules maxLength) v ∧ error = v.toError) ∧
    ∀ request, validate maxLength job = .ok request →
      ∃ payload, Json.ofText (JobRequest.codec.text request) = .ok payload ∧
        ∀ attempt, validate maxLength ⟨job.id, attempt, payload⟩ = .ok request := by
  refine ⟨fun request => validate_ok_iff, fun error => validate_error_iff, fun request h => ?_⟩
  refine ⟨request.payload, request.ofText_text, fun attempt => ?_⟩
  exact validate_ok_iff.2 (validate_ok_iff.1 h).own

/-- The query has as many characters as it may have, and wide and narrow blanks around it. -/
theorem sample_accepted_again :
    let job : Job := ⟨"j1", 2, .object [("clientId", .string "\u3000c1\t"), ("jobId", .string "j1"),
      ("query", .string "\u00a0caf\u00e9 \n")]⟩
    let request : JobRequest := ⟨"j1", "caf\u00e9", "c1"⟩
    validate 4 job = .ok request ∧
      ∃ payload, Json.ofText (JobRequest.codec.text request) = .ok payload ∧
        validate 4 ⟨"j1", 1, payload⟩ = .ok request := by
  intro job request
  have hvalid : validate 4 job = .ok request := by rfl
  obtain ⟨payload, hread, hagain⟩ := (accepts_well_formed 4 job).2.2 request hvalid
  exact ⟨hvalid, payload, hread, hagain 1⟩

/-- Of several rules that are broken the first one counts. -/
example : validate 3 ⟨"j1", 1, .object [("jobId", .string "j2"), ("query", .string "lean")]⟩ =
    .error ⟨"query must be at most 3 characters", some "query"⟩ := by
  rfl

end Validation

end JobQueue
