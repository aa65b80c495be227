import JobQueue.Proofs.Consumer.DeadLetters
import JobQueue.Proofs.Http.Form
import JobQueue.Proofs.Queue.Settlement

/-! Pages of dead letters that are asked for by their start. An index may count from the end, and so may the
end of the page; but the end that is taken for granted is found from the start before either is set against
the length of the list. A page is what it was asked to be unless its start counts from the end and its end does
not. -/

namespace JobQueue

/-! ### Ranges of a list -/

/-- A range is a part of the list between two positions. -/
theorem Store.slice_eq (items : List String) (start stop : Int) :
    slice items start stop = (items.take (resolveIndex stop items.length + 1).toNat).drop
      (resolveIndex start items.length).toNat := by
  rw [slice]
  generalize resolveIndex start items.length = first
  generalize resolveIndex stop items.length = last
  have hfirst : (max first 0).toNat = first.toNat := by omega
  by_cases hlast : min last (items.length - 1) < max first 0
  · rw [if_pos hlast, eq_comm, List.drop_eq_nil_iff, List.length_take]
    omega
  · have hsize : (min last (items.length - 1) - max first 0 + 1).toNat =
        min (last + 1).toNat items.length - first.toNat := by omega
    rw [if_neg hlast, hfirst, hsize, List.drop_take, List.take_eq_take_iff, List.length_drop]
    omega

namespace DeadLetterLog

/-- Every text can be read. -/
def AllReadable (texts : List String) : Prop :=
  ∀ text ∈ texts, ∃ entry, DeadLetterEntry.codec.ofText text = .ok entry

variable {texts : List String}

theorem readable_cons {text : String} {entry : DeadLetterEntry}
    (h : DeadLetterEntry.codec.ofText text = .ok entry) : readable (text :: texts) = entry :: readable texts := by
  simp [readable, h, Except.toOption]

/-- Entries stand where their texts stand. -/
theorem readable_take (h : AllReadable texts) (stop : Nat) :
    readable (texts.take stop) = (readable texts).take stop := by
  induction texts generalizing stop with
  | nil => simp [readable]
  | cons text texts ih =>
    obtain ⟨⟨entry, hentry⟩, hrest⟩ := List.forall_mem_cons.1 h
    cases stop with
    | zero => rfl
    | succ stop => rw [List.take_succ_cons, readable_cons hentry, readable_cons hentry, ih hrest,
        List.take_succ_cons]

theorem readable_drop (h : AllReadable texts) (start : Nat) :
    readable (texts.drop start) = (readable texts).drop start := by
  induction texts generalizing start with
  | nil => simp [readable]
  | cons text texts ih =>
    obtain ⟨⟨entry, hentry⟩, hrest⟩ := List.forall_mem_cons.1 h
    cases start with
    | zero => rfl
    | succ start => rw [List.drop_succ_cons, readable_cons hentry, ih hrest, List.drop_succ_cons]

/-- The entries in a range of texts that can all be read. -/
theorem readable_slice (h : AllReadable texts) (start stop : Int) :
    readable (Store.slice texts start stop) =
      ((readable texts).take (Store.resolveIndex stop texts.length + 1).toNat).drop
        (Store.resolveIndex start texts.length).toNat := by
  rw [Store.slice_eq, readable_drop, readable_take h]
  exact fun text htext => h text (List.mem_of_mem_take htext)

end DeadLetterLog

/-! ### Commands about dead letters -/

namespace World

variable {world : World}

/-- A command to a client that answers runs in its store, and the client answers the next one, too. -/
theorem perform_answered {site : Site} (h : (world.client site).Answers) {c : Command} {a : c.Answer}
    {store : Store} (hrun : (world.client site).store.run world.elapsed c = .ok (a, store)) :
    ∃ after, world.perform (.command site c) = (after, .ok (.ok a)) ∧ (after.client site).Answers ∧
      (after.client site).store = store := by
  refine ⟨_, by rw [perform, h.run hrun], ?_⟩
  rw [client_setClient_self]
  exact ⟨h, rfl⟩

variable (config : QueueConfig) (h : (world.client .deadLetters).Answers)

include h

theorem perform_llen_letters :
    ∃ after, world.perform (.command .deadLetters (.llen config.deadLetterKey)) =
        (after, .ok (.ok (config.letters world).length)) ∧
      (after.client .deadLetters).Answers ∧ config.letters after = config.letters world := by
  obtain ⟨after, hperform, hanswers, hstore⟩ := perform_answered h (c := .llen config.deadLetterKey) rfl
  exact ⟨after, hperform, hanswers, by rw [QueueConfig.letters, hstore, QueueConfig.letters]⟩

theorem perform_rpush_letter (text : String) :
    ∃ after, world.perform (.command .deadLetters (.rpush config.deadLetterKey text)) =
        (after, .ok (.ok ())) ∧
      (after.client .deadLetters).Answers ∧ config.letters after = config.letters world ++ [text] := by
  obtain ⟨after, hperform, hanswers, hstore⟩ := perform_answered h (c := .rpush config.deadLetterKey text) rfl
  refine ⟨after, hperform, hanswers, ?_⟩
  rw [QueueConfig.letters, hstore]
  exact Keyspace.get_put_self ..

theorem perform_lrange_letters (start stop : Int) :
    ∃ after, world.perform (.command .deadLetters (.lrange config.deadLetterKey start stop)) =
        (after, .ok (.ok (Store.slice (config.letters world) start stop))) ∧
      (after.client .deadLetters).Answers ∧ config.letters after = config.letters world := by
  obtain ⟨after, hperform, hanswers, hstore⟩ :=
    perform_answered h (c := .lrange config.deadLetterKey start stop) rfl
  exact ⟨after, hperform, hanswers, by rw [QueueConfig.letters, hstore, QueueConfig.letters]⟩

end World

namespace Http

/-! ### What is behind a response -/

/-- A page as it is, before it is written, or why there is none. -/
abbrev PageOutcome : Type :=
  Except PageQueryFault (Except StoreError (Nat × List DeadLetterEntry))

/-- The page that a query asks for. -/
def requested (config : QueueConfig) (query : String) : Program PageOutcome :=
  match PageQuery.ofText query with
  | .error fault => .done (.error fault)
  | .ok query => (page config query).bind fun r => .done (.ok r)

def PageOutcome.response : PageOutcome → Response
  | .error fault => .plain 400 ("Failed to deserialize query string: " ++ fault.message)
  | .ok (.error _) => .plain 503 "failed to read dead-letter entries"
  | .ok (.ok (count, entries)) => .json (pageText count entries)

/-- A request for dead letters. -/
def pageRequest (query : String) : Request :=
  ⟨"GET", "/dead-letter", query⟩

/-- Counts a response and gives it. -/
def counted (request : Request) (response : Response) : Program Response :=
  .step (.count (.request .answered request.method request.path response.status)) fun _ =>
    .step (.count (.request .timed request.method request.path response.status)) fun _ => .done response

/-- The endpoint reads a page, and all it does afterwards is to count its response. -/
theorem Endpoints.serve_pageRequest (endpoints : Endpoints) (query : String) :
    endpoints.serve (pageRequest query) = (requested endpoints.queue query).bind fun outcome =>
      counted (pageRequest query) outcome.response := by
  have hread : endpoints.respond (pageRequest query) =
      (requested endpoints.queue query).bind fun outcome => .done outcome.response := by
    show deadLetters endpoints.queue query = _
    rw [deadLetters, requested]
    cases PageQuery.ofText query with
    | error fault => rfl
    | ok query =>
      simp only [Program.bind_eq, Program.bind_assoc]
      refine congrArg _ (funext fun r => ?_)
      cases r <;> rfl
  rw [serve, Program.bind_eq, hread, Program.bind_assoc]
  rfl

theorem run_counted (request : Request) (response : Response) (world : World) :
    ∃ after, (counted request response).run world = (after, .ok response) :=
  ⟨_, rfl⟩

variable {world : World}

/-- What a page has, as the commands for it are answered one after the other. The log stays as it is. -/
theorem run_page (config : QueueConfig) (query : PageQuery) (h : (world.client .deadLetters).Answers) :
    ∃ after, (page config query).run world = (after, .ok (.ok ((config.letters world).length,
        DeadLetterLog.readable (Store.slice (config.letters world) query.first query.last)))) ∧
      (after.client .deadLetters).Answers ∧ config.letters after = config.letters world := by
  obtain ⟨counted, hcount, hanswers, hsame⟩ := World.perform_llen_letters config h
  obtain ⟨listed, hlist, hanswers', hsame'⟩ :=
    World.perform_lrange_letters config hanswers query.first query.last
  rw [hsame] at hlist
  refine ⟨listed, ?_, hanswers', hsame'.trans hsame⟩
  simp only [page, DeadLetterLog.count, DeadLetterLog.entries, Program.send, Program.perform,
    Program.bind_eq, Program.bind, Program.run, hcount, hlist]
  rfl

/-- The response to a query that is read. -/
theorem run_serve (endpoints : Endpoints) {text : String} {query : PageQuery} (h : (world.client .deadLetters).Answers)
    (hquery : PageQuery.ofText text = .ok query) :
    ∃ after, (endpoints.serve (pageRequest text)).run world =
      (after, .ok (.json (pageText (endpoints.queue.letters world).length (DeadLetterLog.readable
        (Store.slice (endpoints.queue.letters world) query.first query.last))))) := by
  obtain ⟨paged, hpage, -, -⟩ := run_page endpoints.queue query h
  generalize DeadLetterLog.readable _ = entries at hpage ⊢
  obtain ⟨after, hcounted⟩ := run_counted (pageRequest text) (.json (pageText _ entries)) paged
  refine ⟨after, ?_⟩
  rw [endpoints.serve_pageRequest, Program.run_bind, requested, hquery]
  simp only [Program.run_bind, hpage]
  exact hcounted

/-! ### Pages by their start -/

/-- The entries that are asked for: those from the start on, as many as there are to a page. -/
def asked (start : Int) (entries : List DeadLetterEntry) : List DeadLetterEntry :=
  (entries.drop (Store.resolveIndex start entries.length).toNat).take PageQuery.defaultSize.toNat

/-- The entries from the start to the end that is taken for granted. -/
def paged (start : Int) (entries : List DeadLetterEntry) : List DeadLetterEntry :=
  (entries.take (Store.resolveIndex (PageQuery.last ⟨some start, none⟩) entries.length + 1).toNat).drop
    (Store.resolveIndex start entries.length).toNat

variable {entries : List DeadLetterEntry} {start : Int}

theorem last_eq (start : Int) :
    PageQuery.last ⟨some start, none⟩ = min (start + 99) Word.signedMax64 := rfl

theorem last_of_neg (h : start < 0) : PageQuery.last ⟨some start, none⟩ = start + 99 := by
  have hlimit : (99 : Int) ≤ Word.signedMax64 := by decide
  rw [last_eq]
  omega

theorem asked_eq (start : Int) (entries : List DeadLetterEntry) : asked start entries =
    (entries.take ((Store.resolveIndex start entries.length).toNat + 100)).drop
      (Store.resolveIndex start entries.length).toNat := by
  rw [List.drop_take, Nat.add_sub_cancel_left]
  rfl

/-- How many positions have an index. No list in memory has more items. -/
def indexCount : Nat := Word.signedMax64 + 1

/-- A page from a position on ends after a hundred entries, and with the last position that has an index. -/
theorem paged_natCast (position : Nat) (entries : List DeadLetterEntry) : paged position entries =
    (entries.take (min (position + 100) indexCount)).drop position := by
  have hindex : Store.resolveIndex position entries.length = position :=
    if_neg (Int.not_lt.2 (Int.natCast_nonneg position))
  have hlast : Store.resolveIndex (PageQuery.last ⟨some (position : Int), none⟩) entries.length =
      min ((position : Int) + 99) Word.signedMax64 := by
    rw [last_eq, Store.resolveIndex, if_neg]
    omega
  have hend : ∀ limit : Nat, (min ((position : Int) + 99) limit + 1).toNat =
      min (position + 100) (limit + 1) := by omega
  rw [paged, hlast, hindex, hend, Int.toNat_natCast, indexCount]

/-- A page from the front has the entries that are asked for. -/
theorem paged_of_nonneg (hstart : 0 ≤ start) (hlength : entries.length ≤ indexCount) :
    paged start entries = asked start entries := by
  obtain ⟨position, rfl⟩ := Int.eq_ofNat_of_zero_le hstart
  have hindex : Store.resolveIndex position entries.length = position :=
    if_neg (Int.not_lt.2 (Int.natCast_nonneg position))
  rw [paged_natCast, asked_eq, hindex, Int.toNat_natCast]
  refine congrArg _ (List.take_eq_take_iff.2 ?_)
  omega

/-- So has one of which the end counts from the end, too. -/
theorem paged_of_le (hstart : start ≤ -100) (hleast : -(entries.length : Int) ≤ start) :
    paged start entries = asked start entries := by
  have hindex : Store.resolveIndex start entries.length = entries.length + start :=
    if_pos (by omega)
  have hend : Store.resolveIndex (start + 99) entries.length = entries.length + (start + 99) :=
    if_pos (by omega)
  rw [paged, asked_eq, last_of_neg (by omega), hend, hindex]
  refine congrArg _ (congrArg (entries.take ·) ?_)
  omega

/-- In between the start counts from the end of the list, and the end of the page from its front. -/
theorem paged_across (hstart : -100 < start) (hneg : start < 0) :
    paged start entries = (entries.take (start + 100).toNat).drop (entries.length + start).toNat := by
  have hindex : Store.resolveIndex start entries.length = entries.length + start := if_pos hneg
  have hend : Store.resolveIndex (start + 99) entries.length = start + 99 := if_neg (by omega)
  rw [paged, last_of_neg hneg, hend, hindex]
  refine congrArg _ (congrArg (entries.take ·) ?_)
  omega

/-- Then the page has what is asked for if the list is so short that its end comes first. -/
theorem across_eq_asked_iff (hstart : -100 < start) (hneg : start < 0)
    (hleast : -(entries.length : Int) ≤ start) :
    paged start entries = asked start entries ↔ (entries.length : Int) ≤ start + 100 := by
  have hindex : Store.resolveIndex start entries.length = entries.length + start := if_pos hneg
  rw [paged_across hstart hneg, asked_eq, hindex]
  constructor
  · intro heq
    have hlength := congrArg List.length heq
    simp only [List.length_drop, List.length_take] at hlength
    omega
  · intro hshort
    refine congrArg _ (List.take_eq_take_iff.2 ?_)
    omega

theorem paged_eq_asked_iff (hleast : -(entries.length : Int) ≤ start)
    (hlength : entries.length ≤ indexCount) :
    paged start entries = asked start entries ↔
      0 ≤ start ∨ start ≤ -100 ∨ (entries.length : Int) ≤ start + 100 := by
  by_cases hnonneg : 0 ≤ start
  · simp [hnonneg, paged_of_nonneg hnonneg hlength]
  by_cases hfar : start ≤ -100
  · simp [hfar, paged_of_le hfar hleast]
  rw [across_eq_asked_iff (Int.not_le.1 hfar) (Int.not_le.1 hnonneg) hleast]
  simp [hnonneg, hfar]

/-- The response to a request that gives a start and nothing else, if every dead letter can be read. -/
theorem run_serve_start (endpoints : Endpoints) (h : (world.client .deadLetters).Answers)
    (hread : DeadLetterLog.AllReadable (endpoints.queue.letters world)) (hleast : Word.signedMin64 ≤ start)
    (hmost : start ≤ Word.signedMax64) :
    let entries := DeadLetterLog.readable (endpoints.queue.letters world)
    ∃ after, (endpoints.serve (pageRequest (PageQuery.startText start))).run world =
      (after, .ok (.json (pageText entries.length (paged start entries)))) := by
  have hlength := DeadLetterLog.length_readable hread
  obtain ⟨after, hrun⟩ := run_serve endpoints h (PageQuery.ofText_startText hleast hmost)
  rw [DeadLetterLog.readable_slice hread, ← hlength] at hrun
  exact ⟨after, hrun⟩

/-- A page that is asked for by its start alone has the entries that are asked for unless the start counts from
the end, the end of the page does not, and the list is longer than that. -/
theorem pages_from_start (endpoints : Endpoints) (start : Int) (h : (world.client .deadLetters).Answers)
    (hread : DeadLetterLog.AllReadable (endpoints.queue.letters world))
    (hlength : Word.signedMin64 ≤ -((endpoints.queue.letters world).length : Int))
    (hleast : -((endpoints.queue.letters world).length : Int) ≤ start) (hmost : start ≤ Word.signedMax64) :
    let entries := DeadLetterLog.readable (endpoints.queue.letters world)
    ∃ after shown, (endpoints.serve (pageRequest (PageQuery.startText start))).run world =
        (after, .ok (.json (pageText entries.length shown))) ∧
      (start ≤ -100 ∨ 0 ≤ start → shown = asked start entries) ∧
      (-100 < start → start < 0 →
        shown = (entries.take (start + 100).toNat).drop (entries.length + start).toNat) ∧
      (shown = asked start entries ↔ 0 ≤ start ∨ start ≤ -100 ∨ (entries.length : Int) ≤ start + 100) := by
  intro entries
  have hsame : entries.length = (endpoints.queue.letters world).length := DeadLetterLog.length_readable hread
  rw [← hsame] at hlength hleast
  obtain ⟨after, hrun⟩ := run_serve_start endpoints h hread (Int.le_trans hlength hleast) hmost
  have hlimits : Word.signedMin64 = -(indexCount : Int) := by decide
  have hiff := paged_eq_asked_iff hleast (by omega)
  refine ⟨after, paged start entries, hrun, fun hside => hiff.2 ?_, paged_across, hiff⟩
  omega

/-! ### Fixed inputs -/

def sampleEntry : DeadLetterEntry :=
  .ofJob "requests" (.first "j1" .null) "boom" (.ofEpochNanos 0)

theorem sampleEntry_readsBack :
    DeadLetterEntry.codec.ofText (DeadLetterEntry.codec.text sampleEntry) = .ok sampleEntry := by
  have hfits : Json.Fits (Json.nestingLimit - 1) .null := .null
  have htime : (Time.Moment.ofEpochNanos 0).IsRegular :=
    Time.Moment.isRegular_ofEpochNanos (show Clock.recordTime 0 = .ok 0 by decide +kernel)
  exact (DeadLetterEntry.readsBack (Json.nestingLimit - 1) (by decide) hfits .null htime).ofText

def sampleEndpoints : Endpoints :=
  ⟨.sample, .empty, none⟩

/-- A world with a number of dead letters. -/
def sampleLetters (count : Nat) : World :=
  { World.new [] false 0 with
    jobs := { Client.empty with
      store := Store.empty.setList QueueConfig.sample.deadLetterKey
        (List.replicate count (DeadLetterEntry.codec.text sampleEntry)) } }

theorem letters_sampleLetters (count : Nat) : QueueConfig.sample.letters (sampleLetters count) =
    List.replicate count (DeadLetterEntry.codec.text sampleEntry) :=
  Keyspace.get_put_self ..

theorem allReadable_sampleLetters (count : Nat) :
    DeadLetterLog.AllReadable (QueueConfig.sample.letters (sampleLetters count)) := by
  rw [letters_sampleLetters]
  intro text htext
  rw [List.eq_of_mem_replicate htext]
  exact ⟨_, sampleEntry_readsBack⟩

theorem readable_sampleLetters (count : Nat) :
    DeadLetterLog.readable (QueueConfig.sample.letters (sampleLetters count)) =
      List.replicate count sampleEntry := by
  rw [letters_sampleLetters]
  induction count with
  | zero => rfl
  | succ count ih =>
    rw [List.replicate_succ, DeadLetterLog.readable_cons sampleEntry_readsBack, ih, ← List.replicate_succ]

/-- A page of these from a position on. -/
theorem readable_slice_sampleLetters (count position : Nat) :
    DeadLetterLog.readable (Store.slice (QueueConfig.sample.letters (sampleLetters count))
      (PageQuery.first ⟨some position, none⟩) (PageQuery.last ⟨some position, none⟩)) =
        List.replicate (min (min (position + 100) indexCount) count - position) sampleEntry := by
  have hread := allReadable_sampleLetters count
  have hpage := paged_natCast position (DeadLetterLog.readable (QueueConfig.sample.letters (sampleLetters count)))
  rw [DeadLetterLog.readable_slice hread, ← DeadLetterLog.length_readable hread]
  refine hpage.trans ?_
  rw [readable_sampleLetters, List.take_replicate, List.drop_replicate]

/-- The last one of two letters is asked for, and the page has it. -/
theorem sample_last_letter :
    ∃ after, (sampleEndpoints.serve (pageRequest "start=-1")).run (sampleLetters 2) =
      (after, .ok (.json (pageText 2 [sampleEntry]))) := by
  have hanswers : ((sampleLetters 2).client .deadLetters).Answers := fun _ => ⟨rfl, rfl⟩
  have hlength : (QueueConfig.sample.letters (sampleLetters 2)).length = 2 :=
    congrArg List.length (letters_sampleLetters 2)
  obtain ⟨after, shown, hrun, -, -, hiff⟩ := pages_from_start sampleEndpoints (-1) hanswers
    (allReadable_sampleLetters 2) (hlength ▸ by decide) (hlength ▸ by decide) (by decide)
  have hentries : DeadLetterLog.readable (sampleEndpoints.queue.letters (sampleLetters 2)) =
    [sampleEntry, sampleEntry] := readable_sampleLetters 2
  rw [hentries] at hrun hiff
  obtain rfl : shown = [sampleEntry] := hiff.2 (by decide)
  exact ⟨after, hrun⟩

/-- The last one of a hundred letters is asked for, and the page is empty. -/
theorem sample_last_letter_missing : ∃ after,
    (sampleEndpoints.serve (pageRequest "start=-1")).run (sampleLetters 100) =
      (after, .ok (.json (pageText 100 []))) ∧
    asked (-1) (DeadLetterLog.readable (QueueConfig.sample.letters (sampleLetters 100))) = [sampleEntry] ∧
    pageText 100 [] ≠ pageText 100 [sampleEntry] := by
  have hanswers : ((sampleLetters 100).client .deadLetters).Answers := fun _ => ⟨rfl, rfl⟩
  obtain ⟨after, hrun⟩ := run_serve_start sampleEndpoints hanswers
    (allReadable_sampleLetters 100) (show Word.signedMin64 ≤ -1 by decide) (by decide)
  have hentries : DeadLetterLog.readable (sampleEndpoints.queue.letters (sampleLetters 100)) =
    List.replicate 100 sampleEntry := readable_sampleLetters 100
  rw [hentries, paged_across (by decide) (by decide)] at hrun
  have hasked : asked (-1) (List.replicate 100 sampleEntry) = [sampleEntry] := rfl
  have htext : DeadLetterEntry.codec.text sampleEntry ≠ "" := by
    intro hempty
    have hreads := sampleEntry_readsBack
    rw [hempty] at hreads
    cases hreads
  have hother : pageText 100 [] ≠ pageText 100 [sampleEntry] := by
    intro hsame
    have hlength := congrArg String.length hsame
    simp only [pageText, String.length_append, List.map_nil, List.map_cons, String.intercalate_nil,
      String.intercalate_singleton, String.length_empty] at hlength
    exact htext (String.length_eq_zero_iff.1 (by omega))
  exact ⟨after, hrun, (congrArg _ hentries).trans hasked, hother⟩

end Http

end JobQueue
