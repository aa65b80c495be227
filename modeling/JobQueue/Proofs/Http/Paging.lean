import JobQueue.Proofs.Http.Pages

/-! Paging through the dead letters while they are recorded. One client asks for page after page, each a page
further on than the one before, until it gets one that is not full, and meanwhile any others record entries
and ask for pages, command by command in any order. The log only grows at its end, so that what stood on a
page stands there for good, and the pages in a row are the front of the log. -/

namespace JobQueue

open Http

/-! ### The readers of a log -/

inductive ReaderOp where
  | record (entry : DeadLetterEntry)
  | get (query : String)

inductive ReaderReply where
  | recorded (result : Except StoreError Unit)
  | got (outcome : PageOutcome)

def ReaderOp.program (config : QueueConfig) : ReaderOp → Program ReaderReply
  | record entry => (DeadLetterLog.record config entry).bind fun r => .done (.recorded r)
  | get query => (requested config query).bind fun outcome => .done (.got outcome)

/-- Clients that record dead letters and that ask for pages of them. -/
abbrev QueueConfig.readers (config : QueueConfig) : Clients where
  Op := ReaderOp
  Reply := ReaderReply
  Thing := Empty
  program := ReaderOp.program config
  needs _ := none
  gains _ _ := none

/-- What readers do. -/
inductive ReaderOp.Does (config : QueueConfig) : ReaderOp → Effect → Prop where
  | record (entry : DeadLetterEntry) : Does config (.record entry)
      (.command .deadLetters (.rpush config.deadLetterKey (DeadLetterEntry.codec.text entry)))
  | count (query : String) : Does config (.get query) (.command .deadLetters (.llen config.deadLetterKey))
  | list (query : String) (start stop : Int) :
      Does config (.get query) (.command .deadLetters (.lrange config.deadLetterKey start stop))

section

variable {config : QueueConfig}

theorem ReaderOp.program_does (op : ReaderOp) : (op.program config).Each (op.Does config) := by
  cases op with
  | record entry => exact ⟨.record entry, fun _ => trivial⟩
  | get query =>
    refine Program.Each.bind ?_ fun _ => trivial
    rw [requested]
    cases PageQuery.ofText query with
    | error => trivial
    | ok q =>
      refine ⟨.count query, fun r => ?_⟩
      cases r with
      | error => trivial
      | ok count =>
        refine ⟨.list query _ _, fun r => ?_⟩
        cases r <;> trivial

theorem ReaderOp.Does.records_or_spares {op : ReaderOp} {e : Effect} (h : op.Does config e) :
    (∃ text, e = .command .deadLetters (.rpush config.deadLetterKey text)) ∨
      ∀ site c, e = .command site c → c.changesList config.deadLetterKey = false := by
  cases h with
  | record entry => exact .inl ⟨_, rfl⟩
  | count | list => exact .inr fun site c heq => by cases heq; rfl

/-- A reader that puts an entry to the log records it. -/
theorem ReaderOp.Does.recorded {op : ReaderOp} {d : Deed} {text : String} (h : op.Does config d.e)
    (htext : config.letter? d = some text) :
    ∃ entry, op = .record entry ∧ text = DeadLetterEntry.codec.text entry := by
  obtain ⟨e, a⟩ := d
  cases h with
  | record entry =>
    refine ⟨entry, rfl, ?_⟩
    cases a with
    | error => cases htext
    | ok =>
      rw [QueueConfig.letter?, if_pos rfl] at htext
      exact (Option.some.inj htext).symm
  | count | list => cases htext

end

namespace QueueConfig

open Scene

variable {config : QueueConfig} {K : Conditions} {world : World} {s : Scene config.readers}
  {history earlier : List (Event config.readers)}

/-! ### The log at a moment -/

/-- The texts of the dead letters after a history. -/
def textsAfter (config : QueueConfig) (world : World) (history : List (Event config.readers)) : List String :=
  config.letters world ++ shown config.letter? history

/-- The entries of the log after a history. -/
def logAfter (config : QueueConfig) (world : World) (history : List (Event config.readers)) :
    List DeadLetterEntry :=
  DeadLetterLog.readable (config.textsAfter world history)

theorem letters_eq (h : Reachable K world s) :
    config.letters s.world = config.textsAfter world s.history := by
  have hshows : World.Shows (fun e => ∃ op : ReaderOp, op.Does config e) config.letters config.letter? :=
    shows_letters_of fun _ ⟨_, he⟩ => he.records_or_spares
  exact h.shows hshows fun op => op.program_does.mono fun _ he => ⟨op, he⟩

/-- Texts are only ever added. -/
theorem textsAfter_grows (h : earlier <:+ history) :
    config.textsAfter world earlier <+: config.textsAfter world history := by
  obtain ⟨later, rfl⟩ := h
  rw [textsAfter, textsAfter, shown_append, ← List.append_assoc]
  exact List.prefix_append ..

theorem logAfter_grows (h : earlier <:+ history) :
    config.logAfter world earlier <+: config.logAfter world history :=
  (textsAfter_grows h).filterMap _

theorem length_logAfter_le (h : earlier <:+ history) :
    (config.logAfter world earlier).length ≤ (config.logAfter world history).length :=
  (logAfter_grows h).length_le

section

variable {n time : Nat} {op : ReaderOp} {wall : Int} {later : List (Event config.readers)}

/-- What is read is a part of the log as it is at that moment. -/
theorem listed_at {start stop : Int} {items : List String} (h : Reachable K world s)
    (hhistory : s.history = later ++ .did n op time wall
      (.command .deadLetters (.lrange config.deadLetterKey start stop)) (.ok items) :: earlier) :
    items = Store.slice (config.textsAfter world earlier) start stop := by
  obtain ⟨before, world', hbefore, rfl, happened⟩ := exists_happens_of_history h hhistory
  obtain ⟨error, herror, -⟩ | ⟨items', hitems, hrun⟩ := happened.ran
  · cases herror
  · cases hitems
    rw [← letters_eq hbefore]
    exact (Prod.mk.inj (Except.ok.inj hrun)).1.symm

theorem counted_at {count : Nat} (h : Reachable K world s)
    (hhistory : s.history = later ++ .did n op time wall
      (.command .deadLetters (.llen config.deadLetterKey)) (.ok count) :: earlier) :
    count = (config.textsAfter world earlier).length := by
  obtain ⟨before, world', hbefore, rfl, happened⟩ := exists_happens_of_history h hhistory
  obtain ⟨error, herror, -⟩ | ⟨count', hcount, hrun⟩ := happened.ran
  · cases herror
  · cases hcount
    rw [← letters_eq hbefore]
    exact (Prod.mk.inj (Except.ok.inj hrun)).1.symm

end

end QueueConfig

/-- Whatever a call has done, it did after it had begun. -/
theorem Scene.exists_moment {C : Clients} {K : Conditions} {world : World} {s : Scene C} {n : Nat} {op : C.Op}
    {later before : List (Event C)} {d : Deed} (h : Reachable K world s)
    (hhistory : s.history = later ++ .began n op :: before) (hd : d ∈ deeds n s.history) :
    ∃ after op' time wall earlier, s.history = after ++ .did n op' time wall d.e d.a :: earlier ∧
      before <:+ earlier := by
  have hnothing := deeds_eq_nil_of_history h hhistory
  have hlater : d ∈ deeds n later := by
    rw [hhistory, deeds, List.filterMap_append] at hd
    refine (List.mem_append.1 hd).resolve_right fun hbefore => ?_
    change d ∈ deeds n before at hbefore
    rw [hnothing] at hbefore
    cases hbefore
  obtain ⟨op', time, wall, hdid⟩ := exists_of_mem_deeds hlater
  obtain ⟨after, between, rfl⟩ := List.append_of_mem hdid
  refine ⟨after, op', time, wall, between ++ .began n op :: before, ?_, ?_⟩
  · rw [hhistory, List.append_assoc, List.cons_append]
  · exact ⟨between ++ [.began n op], by simp⟩

/-! ### Pages -/

section

variable {config : QueueConfig} {K : Conditions} {world : World} {s : Scene config.readers} {n count : Nat}
  {query : String} {entries : List DeadLetterEntry} {deeds : List Deed}

/-- A page is what has come of two commands. -/
theorem Http.page_leads {query : PageQuery}
    (h : (page config query).Leads deeds (.done (.ok (count, entries)))) :
    ∃ items, deeds = [⟨.command .deadLetters (.lrange config.deadLetterKey query.first query.last), .ok items⟩,
        ⟨.command .deadLetters (.llen config.deadLetterKey), .ok count⟩] ∧
      entries = DeadLetterLog.readable items := by
  obtain ⟨counted, later, rfl, hlist⟩ := Program.leads_step_done h
  cases counted with
  | error => cases (Program.leads_done hlist).2
  | ok count' =>
    obtain ⟨listed, last, rfl, hlast⟩ := Program.leads_step_done hlist
    cases listed with
    | error => cases (Program.leads_done hlast).2
    | ok items =>
      obtain ⟨rfl, hdone⟩ := Program.leads_done hlast
      cases hdone
      exact ⟨items, rfl, rfl⟩

theorem Http.requested_leads
    (h : (requested config query).Leads deeds (.done (.ok (.ok (count, entries))))) :
    ∃ q items, PageQuery.ofText query = .ok q ∧
      deeds = [⟨.command .deadLetters (.lrange config.deadLetterKey q.first q.last), .ok items⟩,
        ⟨.command .deadLetters (.llen config.deadLetterKey), .ok count⟩] ∧
      entries = DeadLetterLog.readable items := by
  rw [requested] at h
  cases hquery : PageQuery.ofText query with
  | error =>
    rw [hquery] at h
    cases (Program.leads_done h).2
  | ok q =>
    rw [hquery] at h
    obtain ⟨r, hpage, hr⟩ := h.of_map_done
    cases hr
    obtain ⟨items, hdeeds, hentries⟩ := page_leads hpage
    exact ⟨q, items, rfl, hdeeds, hentries⟩

/-- A page shows a part of the log as it was at one moment after the request began, and counts the log as it was
at another one. -/
theorem QueueConfig.exists_page_moments {later before : List (Event config.readers)}
    (h : Scene.Reachable K world s) (hhistory : s.history = later ++ .began n (.get query) :: before)
    (hended : .ended n (.get query) (.got (.ok (.ok (count, entries)))) ∈ s.history) :
    ∃ q listed counted, PageQuery.ofText query = .ok q ∧
      (before <:+ listed ∧ listed <:+ s.history ∧
        entries = DeadLetterLog.readable (Store.slice (config.textsAfter world listed) q.first q.last)) ∧
      before <:+ counted ∧ count = (config.textsAfter world counted).length := by
  obtain ⟨-, hleads, -⟩ := h.tracked.ended n _ _ hended
  obtain ⟨outcome, hrequested, hreply⟩ := hleads.of_map_done
  cases hreply
  obtain ⟨q, items, hquery, hdeeds, rfl⟩ := Http.requested_leads hrequested
  have hlist := Scene.exists_moment h hhistory (hdeeds ▸ List.mem_cons_self)
  have hcount := Scene.exists_moment h hhistory (hdeeds ▸ List.mem_cons_of_mem _ List.mem_cons_self)
  obtain ⟨after, op, time, wall, listed, hlisted, hsince⟩ := hlist
  obtain ⟨after', op', time', wall', counted, hcounted, hsince'⟩ := hcount
  have hitems := listed_at h hlisted
  refine ⟨q, listed, counted, hquery, ⟨hsince, ?_, by rw [hitems]⟩, hsince', counted_at h hcounted⟩
  rw [hlisted]
  exact ⟨after ++ [_], by rw [List.append_assoc, List.singleton_append]⟩

end

/-! ### Logs that can be read -/

/-- Every dead letter there was can be read, and so can every one that is recorded. -/
structure Legible (config : QueueConfig) (world : World) (history : List (Event config.readers)) : Prop where
  letters : DeadLetterLog.AllReadable (config.letters world)
  records : ∀ n entry, .began n (.record entry) ∈ history →
    DeadLetterEntry.codec.ofText (DeadLetterEntry.codec.text entry) = .ok entry

section

variable {config : QueueConfig} {K : Conditions} {world : World} {s : Scene config.readers}
  {earlier history : List (Event config.readers)}

theorem Legible.of_suffix (hl : Legible config world history) (h : earlier <:+ history) :
    Legible config world earlier :=
  ⟨hl.letters, fun n entry hbegan => hl.records n entry (h.subset hbegan)⟩

/-- What stands on the log was recorded. -/
theorem exists_record_of_shown (h : Scene.Reachable K world s) {text : String}
    (htext : text ∈ Scene.shown config.letter? s.history) :
    ∃ n entry, .began n (.record entry) ∈ s.history ∧ text = DeadLetterEntry.codec.text entry := by
  rw [← Scene.map_snd_signed] at htext
  obtain ⟨⟨n, _⟩, hsigned, rfl⟩ := List.mem_map.1 htext
  obtain ⟨d, hd, hletter⟩ := Scene.mem_signed.1 hsigned
  obtain ⟨op, time, wall, hdid⟩ := Scene.exists_of_mem_deeds hd
  have hdoes := h.tracked.did_each hdid op.program_does
  obtain ⟨entry, rfl, htext⟩ := hdoes.recorded hletter
  exact ⟨n, entry, h.tracked.did _ _ _ _ _ _ hdid, htext⟩

theorem Legible.allReadable (hl : Legible config world s.history) (h : Scene.Reachable K world s) :
    DeadLetterLog.AllReadable (config.textsAfter world s.history) := by
  intro text htext
  obtain hold | hnew := List.mem_append.1 htext
  · exact hl.letters text hold
  · obtain ⟨n, entry, hbegan, rfl⟩ := exists_record_of_shown h hnew
    exact ⟨entry, hl.records n entry hbegan⟩

/-- What a call has recorded stands on the log. -/
theorem Legible.mem_logAfter (hl : Legible config world s.history) (h : Scene.Reachable K world s) {n : Nat}
    {entry : DeadLetterEntry} (hended : .ended n (.record entry) (.recorded (.ok ())) ∈ s.history) :
    entry ∈ config.logAfter world s.history := by
  obtain ⟨hbegan, hleads, -⟩ := h.tracked.ended n _ _ hended
  obtain ⟨r, hrecord, hr⟩ := hleads.of_map_done
  cases hr
  obtain ⟨a, later, hdeeds, hlater⟩ := Program.leads_step_done hrecord
  obtain ⟨rfl, hdone⟩ := Program.leads_done hlater
  cases hdone
  have hsigned : (n, DeadLetterEntry.codec.text entry) ∈ Scene.signed config.letter? s.history := by
    rw [Scene.mem_signed, hdeeds]
    exact ⟨_, List.mem_singleton_self _, if_pos rfl⟩
  have hshown := List.mem_map_of_mem (f := Prod.snd) hsigned
  rw [Scene.map_snd_signed] at hshown
  refine List.mem_filterMap.2 ⟨_, List.mem_append_right _ hshown, ?_⟩
  rw [hl.records n entry hbegan]
  rfl

end

/-! ### Page after page -/

/-- A page that a client has got. -/
structure Visit (config : QueueConfig) where
  /-- What had happened when the page was asked for. -/
  before : List (Event config.readers)
  count : Nat
  entries : List DeadLetterEntry

/-- The pages that a client has got, the last one first. Each was asked for once the pages before it were there
and full, from where these end. -/
inductive Browses (config : QueueConfig) : List (Event config.readers) → List (Visit config) → Prop where
  | nil (history : List (Event config.readers)) : Browses config history []
  | next {history later before : List (Event config.readers)} {visits : List (Visit config)} {n count : Nat}
      {entries : List DeadLetterEntry} (h : Browses config before visits)
      (hfull : ∀ v ∈ visits, 100 ≤ v.entries.length)
      (hasked : history =
        later ++ .began n (.get (PageQuery.startText (100 * visits.length : Nat))) :: before)
      (hgot : .ended n (.get (PageQuery.startText (100 * visits.length : Nat)))
        (.got (.ok (.ok (count, entries)))) ∈ history) :
      Browses config history (⟨before, count, entries⟩ :: visits)

/-- The entries on the pages, in the order in which the pages were got. -/
def onPages {config : QueueConfig} (visits : List (Visit config)) : List DeadLetterEntry :=
  visits.reverse.flatMap Visit.entries

section

variable {config : QueueConfig} {K : Conditions} {world : World} {s : Scene config.readers}
  {visits : List (Visit config)}

/-- How far the pages have got if there are so many indices. -/
structure Progress (config : QueueConfig) (world : World) (indices : Nat)
    (history : List (Event config.readers)) (visits : List (Visit config)) (reach : Nat) : Prop where
  pages : onPages visits = (config.logAfter world history).take reach
  within : reach ≤ (config.logAfter world history).length
  /-- Full pages are a hundred entries each. -/
  full : (∀ v ∈ visits, 100 ≤ v.entries.length) → reach = 100 * visits.length
  /-- A page that is not full goes as far as the log, or as far as indices do. -/
  short : ∀ v ∈ visits.head?, v.entries.length < 100 →
    min (config.logAfter world v.before).length indices ≤ reach
  counted : ∀ v ∈ visits, (config.logAfter world v.before).length ≤ v.count

/-- Two parts of a list in a row. -/
theorem take_append_drop_take {α : Type} (l : List α) (n m : Nat) :
    l.take n ++ (l.take m).drop n = l.take (max n m) := by
  by_cases hnm : n ≤ m
  · have hfront : (l.take m).take n = l.take n := by rw [List.take_take, Nat.min_eq_left hnm]
    rw [Nat.max_eq_right hnm, ← hfront, List.take_append_drop]
  · have hnothing : (l.take m).drop n = [] := by
      rw [List.drop_eq_nil_iff, List.length_take]
      omega
    rw [Nat.max_eq_left (Nat.le_of_not_le hnm), hnothing, List.append_nil]

/-- A page that was asked for from a position on, as a part of the log as it is now. -/
theorem exists_page_size {later before : List (Event config.readers)} {n position count : Nat}
    {entries : List DeadLetterEntry} (h : Scene.Reachable K world s) (hl : Legible config world s.history)
    (hhistory : s.history = later ++ .began n (.get (PageQuery.startText position)) :: before)
    (hended : .ended n (.get (PageQuery.startText position)) (.got (.ok (.ok (count, entries)))) ∈ s.history) :
    (config.logAfter world before).length ≤ count ∧ ∃ size, (config.logAfter world before).length ≤ size ∧
      size ≤ (config.logAfter world s.history).length ∧
      entries = ((config.logAfter world s.history).take
        (min size (min (position + 100) indexCount))).drop position := by
  obtain ⟨q, listed, counted, hquery, ⟨hsince, hwithin, rfl⟩, hsince', rfl⟩ :=
    QueueConfig.exists_page_moments h hhistory hended
  have hq : q = ⟨some (position : Int), none⟩ := by
    by_cases hlimit : (position : Int) ≤ Word.signedMax64
    · have hleast : Word.signedMin64 ≤ (position : Int) :=
        Int.le_trans (by decide) (Int.natCast_nonneg position)
      rw [PageQuery.ofText_startText hleast hlimit] at hquery
      exact (Except.ok.inj hquery).symm
    · obtain ⟨fault, hfault⟩ := PageQuery.exists_ofText_startText_error (.inr (Int.not_le.1 hlimit))
      rw [hfault] at hquery
      cases hquery
  refine ⟨?_, (config.logAfter world listed).length, QueueConfig.length_logAfter_le hsince,
    QueueConfig.length_logAfter_le hwithin, ?_⟩
  · refine Nat.le_trans (List.length_filterMap_le ..) ?_
    exact (QueueConfig.textsAfter_grows hsince').length_le
  · have hread : DeadLetterLog.AllReadable (config.textsAfter world listed) := fun text htext =>
      hl.allReadable h text ((QueueConfig.textsAfter_grows hwithin).subset htext)
    have hpage := paged_natCast position (config.logAfter world listed)
    have hfront : config.logAfter world listed =
        (config.logAfter world s.history).take (config.logAfter world listed).length :=
      List.prefix_iff_eq_take.1 (QueueConfig.logAfter_grows hwithin)
    rw [hq, DeadLetterLog.readable_slice hread, ← DeadLetterLog.length_readable hread]
    refine hpage.trans ?_
    generalize (config.logAfter world listed).length = size at hfront ⊢
    rw [hfront, List.take_take, Nat.min_comm]

/-- One more page. -/
theorem Progress.next {before history : List (Event config.readers)} {indices reach count size : Nat}
    {entries : List DeadLetterEntry} (hp : Progress config world indices before visits reach)
    (hfull : ∀ v ∈ visits, 100 ≤ v.entries.length) (hsuffix : before <:+ history)
    (hcount : (config.logAfter world before).length ≤ count)
    (hsince : (config.logAfter world before).length ≤ size)
    (hsize : size ≤ (config.logAfter world history).length)
    (hentries : entries = ((config.logAfter world history).take
      (min size (min (100 * visits.length + 100) indices))).drop (100 * visits.length)) :
    Progress config world indices history (⟨before, count, entries⟩ :: visits)
      (max reach (min size (min (100 * visits.length + 100) indices))) := by
  have hreach := hp.full hfull
  have hlog : config.logAfter world before <+: config.logAfter world history :=
    QueueConfig.logAfter_grows hsuffix
  have hlength : entries.length =
      min size (min (100 * visits.length + 100) indices) - 100 * visits.length := by
    rw [hentries, List.length_drop, List.length_take]
    omega
  have hwithin := hp.within
  constructor
  · have hpages : onPages (⟨before, count, entries⟩ :: visits) = onPages visits ++ entries := by
      simp [onPages]
    have hfront : (config.logAfter world before).take reach = (config.logAfter world history).take reach := by
      obtain ⟨added, hadded⟩ := hlog
      rw [← hadded, List.take_append_of_le_length hwithin]
    rw [hpages, hp.pages, hfront, hentries, ← hreach, take_append_drop_take]
  · have hle := hlog.length_le
    omega
  · intro hall
    have hpage : 100 ≤ entries.length := hall _ List.mem_cons_self
    rw [List.length_cons]
    omega
  · intro v hv hshort
    obtain rfl : _ = v := Option.some.inj hv
    -- A page that has room left ends where the log did when it was read, or with the last index.
    dsimp only at hshort ⊢
    omega
  · exact List.forall_mem_cons.2 ⟨hcount, hp.counted⟩

theorem Browses.exists_progress {history : List (Event config.readers)} (hb : Browses config history visits)
    (h : Scene.Reachable K world s) (hhistory : s.history = history) (hl : Legible config world history) :
    ∃ reach, Progress config world indexCount history visits reach := by
  induction hb generalizing s with
  | nil => exact ⟨0, rfl, Nat.zero_le _, fun _ => rfl, nofun, nofun⟩
  | @next history later before visits n count entries hb hfull hasked hgot ih =>
    subst hhistory
    have hsuffix : before <:+ s.history := by
      rw [hasked]
      exact List.suffix_append_of_suffix (List.suffix_cons ..)
    -- The pages before this one were got in the run up to the scene in which it is asked for.
    obtain ⟨s', hs', hbefore⟩ := Scene.exists_of_suffix h hsuffix
    obtain ⟨reach, hprogress⟩ := ih hs' hbefore (hl.of_suffix hsuffix)
    obtain ⟨hcount, size, hsince, hsize, hentries⟩ := exists_page_size h hl hasked hgot
    exact ⟨_, hprogress.next hfull hsuffix hcount hsince hsize hentries⟩

/-- Pages are asked for one after another. -/
theorem Browses.before_suffix {history : List (Event config.readers)} (hb : Browses config history visits) :
    ∀ v ∈ visits, v.before <:+ history := by
  induction hb with
  | nil => exact nofun
  | @next history later before visits n count entries hb hfull hasked hgot ih =>
    have hsuffix : before <:+ history := by
      rw [hasked]
      exact List.suffix_append_of_suffix (List.suffix_cons ..)
    exact List.forall_mem_cons.2 ⟨hsuffix, fun v hv => (ih v hv).trans hsuffix⟩

theorem Browses.before_suffix_last {history : List (Event config.readers)} {last : Visit config}
    (hb : Browses config history (last :: visits)) : ∀ v ∈ last :: visits, v.before <:+ last.before := by
  cases hb with
  | next hb hfull hasked hgot => exact List.forall_mem_cons.2 ⟨List.suffix_refl _, hb.before_suffix⟩

/-- Pages that a client asks for in a row while entries are recorded, up to one that is not full, are the front of
the log, and hold all that had been recorded when any of them was asked for. A page counts at least what had been
recorded when it was asked for. -/
theorem pages_complete {last : Visit config} (h : Scene.Reachable K world s)
    (hl : Legible config world s.history) (hb : Browses config s.history (last :: visits))
    (hlast : last.entries.length < 100) :
    (∀ endpoints : Endpoints, endpoints.queue = config → ∀ query,
      endpoints.serve (pageRequest query) = (requested config query).bind fun outcome =>
        Http.counted (pageRequest query) outcome.response) ∧
    onPages (last :: visits) <+: DeadLetterLog.readable (config.letters s.world) ∧
    ∀ v ∈ last :: visits, (config.logAfter world v.before).length ≤ v.count ∧
      ((config.logAfter world v.before).length ≤ indexCount →
        config.logAfter world v.before <+: onPages (last :: visits) ∧
        ∀ n entry, .ended n (.record entry) (.recorded (.ok ())) ∈ v.before →
          entry ∈ onPages (last :: visits)) := by
  obtain ⟨reach, hprogress⟩ := hb.exists_progress h rfl hl
  refine ⟨fun endpoints hqueue query => hqueue ▸ endpoints.serve_pageRequest query, ?_,
    fun v hv => ⟨hprogress.counted v hv, fun hindices => ?_⟩⟩
  · rw [hprogress.pages, QueueConfig.letters_eq h]
    exact List.take_prefix ..
  have hsuffix := hb.before_suffix v hv
  have hsince : (config.logAfter world v.before).length ≤ (config.logAfter world last.before).length :=
    QueueConfig.length_logAfter_le (hb.before_suffix_last v hv)
  have hreach := hprogress.short last rfl hlast
  have hall : config.logAfter world v.before <+: onPages (last :: visits) := by
    rw [hprogress.pages]
    exact List.prefix_take_iff.2 ⟨QueueConfig.logAfter_grows hsuffix,
      Nat.le_trans (Nat.le_min.2 ⟨hsince, hindices⟩) hreach⟩
  refine ⟨hall, fun n entry hended => hall.subset ?_⟩
  obtain ⟨s', hs', hbefore⟩ := Scene.exists_of_suffix h hsuffix
  have hl' := hl.of_suffix hsuffix
  rw [← hbefore] at hended hl' ⊢
  exact hl'.mem_logAfter hs' hended

end

/-! ### Requests and records -/

section

variable {config : QueueConfig} {K : Conditions} {world : World} {begun : Nat}
  {history : List (Event config.readers)} {query : String} {q : PageQuery}

/-- What a request does whose query is read, and whose commands are answered. -/
theorem ReaderOp.exists_steps (config : QueueConfig) (h : PageQuery.ofText query = .ok q) (count : Nat)
    (items : List String) :
    ∃ counted listed, (get query).program config =
        .step (.command .deadLetters (.llen config.deadLetterKey)) counted ∧
      counted (.ok count) =
        .step (.command .deadLetters (.lrange config.deadLetterKey q.first q.last)) listed ∧
      listed (.ok items) = .done (.got (.ok (.ok (count, DeadLetterLog.readable items)))) := by
  rw [program, requested, h]
  exact ⟨_, _, rfl, rfl, rfl⟩

theorem ReaderOp.run_record {after : World} {entry : DeadLetterEntry}
    {r : Except StoreError Unit} (h : world.perform (.command .deadLetters
      (.rpush config.deadLetterKey (DeadLetterEntry.codec.text entry))) = (after, .ok r)) :
    (config.readers.program (.record entry)).run world = (after, .ok (.recorded r)) := by
  simp only [program, DeadLetterLog.record, Program.send, Program.perform, Program.bind, Program.run, h]

/-- A request that runs alone gets its page of the log as it is, and leaves it so. -/
theorem QueueConfig.exists_get_alone (h : (world.client .deadLetters).Answers)
    (hquery : PageQuery.ofText query = .ok q) :
    ∃ after later, Scene.Run K ⟨world, [], [], begun, history⟩
        ⟨after, [], [], begun + 1, later ++ .began begun (.get query) :: history⟩ ∧
      (after.client .deadLetters).Answers ∧ config.letters after = config.letters world ∧
      .ended begun (.get query) (.got (.ok (.ok ((config.letters world).length, DeadLetterLog.readable
        (Store.slice (config.letters world) q.first q.last))))) ∈ later ∧
      ∀ n op, .began n op ∉ later := by
  obtain ⟨after, hpage, hanswers, hsame⟩ := run_page config q h
  have hprogram : (config.readers.program (.get query)).run world = (after, .ok (.got (.ok (.ok
      ((config.letters world).length, DeadLetterLog.readable
        (Store.slice (config.letters world) q.first q.last)))))) := by
    change ((requested config query).bind fun outcome => .done (ReaderReply.got outcome)).run world = _
    rw [requested, hquery]
    simp only [Program.run_bind, hpage, Program.run]
  refine ⟨after, _, Scene.run_alone rfl hprogram, hanswers, hsame, List.mem_cons_self, fun n op hbegan => ?_⟩
  obtain hended | hdid := List.mem_cons.1 hbegan
  · cases hended
  · obtain ⟨_, _, _, _, heq⟩ := Program.exists_did_of_mem_events hdid
    cases heq

/-- An entry that is recorded between the two commands of a request may be on its page, and is not counted. -/
theorem QueueConfig.exists_record_between (h : (world.client .deadLetters).Answers)
    (hquery : PageQuery.ofText query = .ok q) (entry : DeadLetterEntry) :
    ∃ s : Scene config.readers, Scene.Run K ⟨world, [], [], begun, history⟩ s ∧
      .began begun (.get query) :: history <:+ s.history ∧
      .ended begun (.get query) (.got (.ok (.ok ((config.letters world).length, DeadLetterLog.readable
        (Store.slice (config.letters world ++ [DeadLetterEntry.codec.text entry]) q.first q.last))))) ∈
          s.history ∧
      ∀ n other, .began n (.record other) ∈ s.history → .began n (.record other) ∈ history ∨ other = entry := by
  obtain ⟨w₁, hcount, hanswers₁, hsame⟩ := World.perform_llen_letters config h
  obtain ⟨w₂, hrecord, hanswers₂, hadded⟩ :=
    World.perform_rpush_letter config hanswers₁ (DeadLetterEntry.codec.text entry)
  obtain ⟨w₃, hlist, -, -⟩ := World.perform_lrange_letters config hanswers₂ q.first q.last
  rw [hadded, hsame] at hlist
  obtain ⟨counted, listed, hprogram, hcounted, hlisted⟩ :=
    ReaderOp.exists_steps config hquery (config.letters world).length _
  have hbegun : Scene.Run (C := config.readers) K ⟨world, [], [], begun, history⟩
      ⟨world, [⟨begun, .get query, (ReaderOp.get query).program config⟩], [], begun + 1,
        .began begun (.get query) :: history⟩ :=
    .single (Scene.Step.begins (C := config.readers) (.get query) rfl)
  rw [hprogram] at hbegun
  have hasked := hbegun.tail (Scene.step_of_perform [] [] hcount)
  rw [hcounted] at hasked
  have hrecorded := hasked.trans (Scene.run_alone rfl (ReaderOp.run_record hrecord))
  have hgot := hrecorded.tail (Scene.step_of_perform [] [] hlist)
  rw [hlisted] at hgot
  refine ⟨_, hgot.tail (Scene.Step.ends begun _ _ [] []), ?_, List.mem_cons_self, fun n other hbegan => ?_⟩
  · exact ((List.suffix_append [_, _] _).trans (List.suffix_append _ _)).trans
      ((List.suffix_cons _ _).trans (List.suffix_cons _ _))
  · have hearlier := (List.mem_cons.1 ((List.mem_cons.1 hbegan).resolve_left nofun)).resolve_left nofun
    obtain hrequest | ⟨-, hsame⟩ := Scene.began_of_run_alone hearlier
    · simp only [List.mem_cons, reduceCtorEq, Event.began.injEq, and_false, false_or] at hrequest
      exact .inl hrequest
    · exact .inr (ReaderOp.record.inj hsame)

end

/-! ### Fixed inputs -/

/-- There are a hundred letters, which fill the first page. Another one is recorded between the two commands of the
request for the second page. It is alone on that page, and is not counted. -/
theorem sample_pages_complete :
    ∃ (s : Scene QueueConfig.sample.readers) (first second : Visit .sample),
      Scene.Reachable .reliable (sampleLetters 100) s ∧ Browses .sample s.history [second, first] ∧
      first.count = 100 ∧ first.entries = List.replicate 100 sampleEntry ∧
      second.count = 100 ∧ second.entries = [sampleEntry] ∧
      onPages [second, first] <+: DeadLetterLog.readable (QueueConfig.sample.letters s.world) ∧
      QueueConfig.sample.logAfter (sampleLetters 100) second.before <+: onPages [second, first] := by
  have hanswers : ((sampleLetters 100).client .deadLetters).Answers := fun _ => ⟨rfl, rfl⟩
  have hquery : ∀ position : Nat, position ≤ 100 →
      PageQuery.ofText (PageQuery.startText position) = .ok ⟨some position, none⟩ := fun position h =>
    PageQuery.ofText_startText (Int.le_trans (by decide) (Int.natCast_nonneg position))
      (Int.le_trans (Int.ofNat_le.2 h) (by decide))
  have hcount : (QueueConfig.sample.letters (sampleLetters 100)).length = 100 := by
    rw [letters_sampleLetters, List.length_replicate]
  have hadded : QueueConfig.sample.letters (sampleLetters 100) ++ [DeadLetterEntry.codec.text sampleEntry] =
      QueueConfig.sample.letters (sampleLetters 101) := by
    rw [letters_sampleLetters, letters_sampleLetters, ← List.replicate_succ']
  obtain ⟨world, later, hfirst, hanswers', hsame, hgot, hnothing⟩ :=
    @QueueConfig.exists_get_alone .sample .reliable _ 0 [] _ _ hanswers (hquery 0 (by decide))
  obtain ⟨s, hsecond, ⟨later', hasked⟩, hgot', hrecords⟩ :=
    QueueConfig.exists_record_between (K := .reliable) hanswers' (hquery 100 (by decide)) sampleEntry
  rw [hcount, readable_slice_sampleLetters] at hgot
  rw [hsame, hcount, hadded, readable_slice_sampleLetters] at hgot'
  have hrun : Scene.Reachable .reliable (sampleLetters 100) s := hfirst.trans hsecond
  have hlegible : Legible .sample (sampleLetters 100) s.history := by
    refine ⟨allReadable_sampleLetters 100, fun n entry hbegan => ?_⟩
    obtain hold | rfl := hrecords n entry hbegan
    · obtain hlater | hrequest := List.mem_append.1 hold
      · exact absurd hlater (hnothing n _)
      · simp at hrequest
    · exact sampleEntry_readsBack
  have hbrowse : Browses .sample s.history [⟨_, 100, [sampleEntry]⟩, ⟨[], 100, List.replicate 100 sampleEntry⟩] :=
    .next (.next (.nil []) nofun rfl (List.mem_append_left _ hgot)) (by simp) hasked.symm hgot'
  obtain ⟨-, hfront, hall⟩ := pages_complete hrun hlegible hbrowse (show 1 < 100 by decide)
  have hindices : (QueueConfig.sample.logAfter (sampleLetters 100)
      (later ++ [.began 0 (.get (PageQuery.startText (0 : Nat)))])).length ≤ indexCount := by
    have hletters := QueueConfig.letters_eq hfirst
    rw [QueueConfig.logAfter, ← hletters, hsame, readable_sampleLetters, List.length_replicate]
    decide
  obtain ⟨-, hbefore⟩ := hall _ List.mem_cons_self
  exact ⟨s, _, _, hrun, hbrowse, rfl, rfl, rfl, rfl, hfront, (hbefore hindices).1⟩

end JobQueue
