import JobQueue.Proofs.Queue.Effects
import JobQueue.Proofs.Queue.Holding
import JobQueue.Proofs.Reliable
import JobQueue.Proofs.Store.Flow

/-! What the operations of a queue do to the waiting and the delayed envelopes from their beginning to their
end. A promotion lets wait exactly those that it has itself taken off the delayed ones, a retry schedules
one, and a delivery is read from what it took off the waiting ones. -/

namespace JobQueue

open QueueAction
open Time (Duration)

namespace Queue

variable (config : QueueConfig)

/-- Whatever was let wait had just been taken off the delayed ones. The last deed comes first. -/
def Paired : List Deed → Prop
  | [] => True
  | d :: earlier =>
    (∀ envelope, d.puts config.waitKey (· == envelope) = true →
      ∃ rest, earlier = ⟨.command .jobs (.zrem config.delayedKey envelope), .ok true⟩ :: rest) ∧
    Paired earlier

variable {config}

/-- A deed that lets nothing wait. -/
theorem Paired.cons {d : Deed} {deeds : List Deed} (hd : ∀ p, d.puts config.waitKey p = false)
    (h : Paired config deeds) : Paired config (d :: deeds) :=
  ⟨fun _ hputs => Bool.noConfusion ((hd _).symm.trans hputs), h⟩

theorem Paired.append {later earlier : List Deed} (hlater : Paired config later)
    (hearlier : Paired config earlier) : Paired config (later ++ earlier) := by
  induction later with
  | nil => exact hearlier
  | cons d later ih =>
    refine ⟨fun envelope hputs => ?_, ih hlater.2⟩
    obtain ⟨rest, rfl⟩ := hlater.1 envelope hputs
    exact ⟨rest ++ earlier, rfl⟩

theorem Paired.of_append {later earlier : List Deed} (h : Paired config (later ++ earlier)) :
    Paired config earlier := by
  induction later with
  | nil => exact h
  | cons d later ih => exact ih h.2

/-- Nothing was let wait more often than it was taken off. -/
theorem Paired.countP_le (p : String → Bool) : {deeds : List Deed} → Paired config deeds →
    deeds.countP (Deed.puts config.waitKey p) ≤ deeds.countP (Deed.removes config.delayedKey p)
  | [], _ => Nat.le_refl _
  | d :: earlier, h => by
    cases hputs : d.puts config.waitKey p with
    | false =>
      have ih := Paired.countP_le p h.2
      rw [List.countP_cons, List.countP_cons, hputs]
      simp only [Bool.false_eq_true, if_false]
      omega
    | true =>
      obtain ⟨envelope, henvelope, hself⟩ := Deed.exists_of_puts hputs
      obtain ⟨rest, rfl⟩ := h.1 envelope hself
      have ih := Paired.countP_le p h.2.2
      have hremoves : Deed.removes config.delayedKey p
          ⟨.command .jobs (.zrem config.delayedKey envelope), .ok true⟩ = true := by
        simp [Deed.removes, henvelope]
      have hkeeps : Deed.puts config.waitKey p
          ⟨.command .jobs (.zrem config.delayedKey envelope), .ok true⟩ = false := rfl
      simp only [List.countP_cons, hputs, hkeeps, hremoves, if_true, Bool.false_eq_true, if_false]
      omega
termination_by deeds => deeds.length

/-! ### Promotions -/

variable (config)

theorem promoteAll_cons (envelope : String) (due : List String) (promoted : Nat) :
    (promoteAll config (envelope :: due) promoted).run =
      .step (.command .jobs (.zrem config.delayedKey envelope)) fun
        | .error error => .done (.error (.store error))
        | .ok true =>
          .step (.command .jobs (.lpush config.waitKey envelope)) fun
            | .error error => .done (.error (.store error))
            | .ok () => (promoteAll config due (promoted + 1)).run
        | .ok false => (promoteAll config due promoted).run := by
  refine congrArg (Program.step _) (funext fun removed => ?_)
  obtain error | _ | _ := removed
  · rfl
  · rfl
  · refine congrArg (Program.step _) (funext fun pushed => ?_)
    cases pushed <;> rfl

variable {config}

/-- A promotion on its way: what it has let wait it has taken off, and in the end it has counted it, unless
a command gave an error. -/
structure Promotes (config : QueueConfig) (promoted : Nat) (deeds : List Deed)
    (q : Program (Except QueueError Nat)) : Prop where
  paired : Paired config deeds
  count : ∀ count, q = .done (.ok count) →
    count = promoted + deeds.countP (Deed.puts config.waitKey fun _ => true)
  error : ∀ error, q = .done (.error error) → ∃ d ∈ deeds, ¬ d.IsAnswered

/-- A command that gives an error ends a promotion. -/
theorem Promotes.of_error {promoted : Nat} {c : Command} {error : StoreError} {deeds : List Deed}
    (hputs : ∀ p, Deed.puts config.waitKey p ⟨.command .jobs c, .error error⟩ = false)
    (h : Paired config deeds) :
    Promotes config promoted (⟨.command .jobs c, .error error⟩ :: deeds)
      (.done (.error (.store error))) :=
  ⟨h.cons hputs, nofun, fun _ _ => ⟨_, .head _, fun hanswered => hanswered c error rfl⟩⟩

/-- What a promotion does later adds to what it has done before. -/
theorem Promotes.after {promoted : Nat} {later earlier : List Deed} {q : Program (Except QueueError Nat)}
    (h : Promotes config (promoted + earlier.countP (Deed.puts config.waitKey fun _ => true)) later q)
    (hearlier : Paired config earlier) : Promotes config promoted (later ++ earlier) q := by
  refine ⟨h.paired.append hearlier, fun count heq => ?_, fun error heq => ?_⟩
  · rw [h.count count heq, List.countP_append]
    omega
  · obtain ⟨d, hd, hrefused⟩ := h.error error heq
    exact ⟨d, List.mem_append_left _ hd, hrefused⟩

theorem promoteAll_leads {due : List String} {promoted : Nat} {deeds : List Deed}
    {q : Program (Except QueueError Nat)} (h : (promoteAll config due promoted).run.Leads deeds q) :
    Promotes config promoted deeds q := by
  induction due generalizing promoted deeds with
  | nil =>
    obtain ⟨rfl, rfl⟩ := Program.leads_done h
    exact ⟨trivial, fun count heq => by cases heq; rfl, nofun⟩
  | cons envelope due ih =>
    have hfirst : ∀ removed, Paired config [⟨.command .jobs (.zrem config.delayedKey envelope), removed⟩] :=
      fun removed => Paired.cons (fun _ => rfl) trivial
    rw [promoteAll_cons] at h
    obtain ⟨rfl, rfl⟩ | ⟨removed, later, rfl, hlater⟩ := Program.leads_step h
    · exact ⟨trivial, nofun, nofun⟩
    obtain error | _ | _ := removed
    · obtain ⟨rfl, rfl⟩ := Program.leads_done hlater
      exact .of_error (fun _ => rfl) trivial
    · exact (ih hlater).after (hfirst _)
    · obtain ⟨rfl, rfl⟩ | ⟨pushed, last, rfl, hlast⟩ := Program.leads_step hlater
      · exact ⟨hfirst _, nofun, nofun⟩
      obtain error | _ := pushed
      · obtain ⟨rfl, rfl⟩ := Program.leads_done hlast
        exact .of_error (fun _ => rfl) (hfirst _)
      · have hboth : Paired config [⟨.command .jobs (.lpush config.waitKey envelope), .ok ()⟩,
            ⟨.command .jobs (.zrem config.delayedKey envelope), .ok true⟩] := by
          refine ⟨fun envelope' hputs => ⟨[], ?_⟩, hfirst _⟩
          obtain rfl : envelope = envelope' := by simpa [Deed.puts] using hputs
          rfl
        have hone : List.countP (Deed.puts config.waitKey fun _ => true)
            [⟨.command .jobs (.lpush config.waitKey envelope), .ok ()⟩,
              ⟨.command .jobs (.zrem config.delayedKey envelope), .ok true⟩] = 1 := by
          simp [Deed.puts]
        have hrest := ih hlast
        rw [← hone] at hrest
        rw [List.append_assoc]
        exact hrest.after hboth

theorem promoteDue_run : (promoteDue config).run =
    .step .clock fun reading => (Program.ofExcept (Clock.recordTime reading)).bind fun nanos =>
      .step (.command .jobs (.zrangebyscore config.delayedKey "-inf"
          (String.ofList (Text.intDigits (nanos / Time.nanosPerMilli))))) fun
        | .error error => .done (.error (.store error))
        | .ok due => (promoteAll config due 0).run := by
  rw [promoteDue, run_clockMillis_bind]
  refine congrArg (Program.step _) (funext fun reading => ?_)
  refine congrArg (Program.bind _) (funext fun nanos => ?_)
  exact congrArg (Program.step _) (funext fun due => by cases due <;> rfl)

theorem promoteDue_leads {deeds : List Deed} {q : Program (Except QueueError Nat)}
    (h : (promoteDue config).run.Leads deeds q) : Promotes config 0 deeds q := by
  rw [promoteDue_run] at h
  obtain ⟨rfl, rfl⟩ | ⟨reading, later, rfl, hlater⟩ := Program.leads_step h
  · exact ⟨trivial, nofun, nofun⟩
  have hclock : Paired config [⟨.clock, reading⟩] := Paired.cons (fun _ => rfl) trivial
  cases hread : Clock.recordTime reading with
  | error p =>
    rw [hread] at hlater
    obtain ⟨rfl, rfl⟩ := Program.leads_panic hlater
    exact ⟨hclock, nofun, nofun⟩
  | ok nanos =>
    rw [hread] at hlater
    obtain ⟨rfl, rfl⟩ | ⟨listed, last, rfl, hlast⟩ := Program.leads_step hlater
    · exact ⟨hclock, nofun, nofun⟩
    obtain error | due := listed
    · obtain ⟨rfl, rfl⟩ := Program.leads_done hlast
      exact .of_error (fun _ => rfl) hclock
    · rw [List.append_assoc]
      exact Promotes.after (promoteAll_leads hlast) (Paired.cons (fun _ => rfl) hclock)

/-! ### Retries and deliveries -/

variable (config)

/-- Lets nothing wait and schedules nothing. -/
def Still (e : Effect) : Prop :=
  ∀ a p, Deed.puts config.waitKey p ⟨e, a⟩ = false ∧ Deed.schedules config.delayedKey p ⟨e, a⟩ = false

variable {config} in
/-- Something that is put on another list does not wait. -/
theorem still_rpush {site : Site} {suffix value : String} (h : suffix ≠ "wait") :
    Still config (.command site (.rpush (config.key suffix) value)) := by
  rintro (error | _) p
  · exact ⟨rfl, rfl⟩
  · exact ⟨by rw [Deed.puts, QueueConfig.waitKey, config.key_beq_false h, Bool.false_and], rfl⟩

theorem still_quiet : Quiet config (Still config) where
  clock _ _ := ⟨rfl, rfl⟩
  count _ _ _ _ := ⟨rfl, rfl⟩
  pop := by
    have hkey : (config.activeKey == config.waitKey) = false := config.key_beq_false (by decide)
    rintro (error | _ | envelope) p
    · exact ⟨rfl, rfl⟩
    · exact ⟨rfl, rfl⟩
    · exact ⟨by rw [Deed.puts, hkey, Bool.false_and], rfl⟩
  archive _ := still_rpush (by decide)
  bury _ := still_rpush (by decide)
  release _ _ _ := ⟨rfl, rfl⟩

theorem atMost_bind {α β : Type} {P : Deed → Bool} {m n : Nat} {x : QueueAction α} {f : α → QueueAction β}
    (hx : x.run.AtMost P m) (hf : ∀ a, (f a).run.AtMost P n) : (x >>= f).run.AtMost P (m + n) := by
  refine Program.AtMost.bind hx fun r => ?_
  cases r with
  | ok a => exact hf a
  | error error => exact Program.atMost_done _

/-- Whether a delivery has a next one, the envelope of which is of a kind. -/
def continues (p : String → Bool) (reserved : ReservedJob) : Bool :=
  match reserved.job.next with
  | .ok next => p (Job.codec.text next)
  | .error _ => false

/-- A retry schedules the next delivery once. -/
theorem retry_atMost (reserved : ReservedJob) (delay : Duration) (p : String → Bool) :
    (retry config reserved delay).run.AtMost (Deed.schedules config.delayedKey p)
      (continues p reserved).toNat := by
  rw [retry, run_ofExcept_bind, continues]
  cases reserved.job.next with
  | error fault => exact Program.atMost_panic fault
  | ok next =>
    have hquiet : ∀ e, Still config e → ∀ a, Deed.schedules config.delayedKey p ⟨e, a⟩ = false :=
      fun e h a => (h a p).2
    have hstill := still_quiet config
    have hsend : ∀ due, (QueueAction.send
        (.zadd config.delayedKey (Job.codec.text next) due)).run.AtMost
          (Deed.schedules config.delayedKey p) ((p (Job.codec.text next)).toNat + 0) := by
      refine fun due => Program.AtMost.step (fun r => ?_) fun r => Program.atMost_done _
      cases r with
      | ok _ => simp [Deed.schedules]
      | error _ => exact Nat.zero_le _
    have hall := atMost_bind (m := 0) (.of_each ((each_clockMillis hstill.clock).mono hquiet)) fun now =>
      atMost_bind (m := 0) (.of_each ((each_ofExcept (dueAt now delay)).mono hquiet)) fun due =>
        atMost_bind (n := 0) (hsend due) fun _ =>
          .of_each ((hstill.release_each reserved.envelope).mono hquiet)
    simp only [Nat.zero_add, Nat.add_zero] at hall
    exact hall

/-- A delivery is read from an envelope that was taken off the waiting ones. -/
theorem dequeue_leads {deeds : List Deed} {reserved : ReservedJob}
    (h : (dequeue config).run.Leads deeds (.done (.ok (some reserved)))) :
    reserved.IsRead ∧ ⟨.command .jobs (.rpoplpush config.waitKey config.activeKey),
      .ok (some reserved.envelope)⟩ ∈ deeds := by
  obtain ⟨r, later, earlier, rfl, hsend, hlater⟩ := Program.leads_bind_done h
  obtain ⟨r', rfl, rfl⟩ := leads_send hsend
  obtain error | _ | envelope := r'
  · obtain ⟨-, heq⟩ := Program.leads_done hlater
    cases heq
  · obtain ⟨-, heq⟩ := Program.leads_done hlater
    cases heq
  · have hafter : Except.mapError QueueError.store (.ok (some envelope)) = .ok (some envelope) := rfl
    cases hread : Job.codec.ofText envelope with
    | ok job =>
      simp only [hafter, ExceptT.bindCont, hread] at hlater
      obtain ⟨-, heq⟩ := Program.leads_done hlater
      cases heq
      exact ⟨hread, by simp⟩
    | error fault =>
      simp only [hafter, ExceptT.bindCont, hread] at hlater
      have hgives : Program.Gives (fun r => ∀ reserved, r ≠ .ok (some reserved)) (do
          send (.rpush config.failedKey envelope)
          release config envelope
          throw (.unreadable fault) : QueueAction (Option ReservedJob)).run :=
        gives_bind nofun fun _ => gives_bind nofun fun _ => nofun
      exact absurd rfl (hlater.gives hgives reserved)

end Queue

end JobQueue
