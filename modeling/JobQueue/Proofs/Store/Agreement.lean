import JobQueue.Proofs.Json.Numeral
import JobQueue.Proofs.Store.Ranking
import JobQueue.Proofs.Store.Server
import JobQueue.Proofs.Text.Numeral
import JobQueue.Store.Remote

/-! A server and a store in memory agree when the same values have not expired, and the same items and members are
in the lists and sorted sets. Every command that clients of a queue send keeps it so, and means the same answer,
unless the server refuses it or a value is set at the key of a list or a sorted set. -/

namespace JobQueue

/-! ### What is seen of an entry -/

namespace StoreServer

/-- The text that has not expired, and when it does. -/
def textOf (now : Nat) : Option Entry → Option (String × Nat)
  | some (.text value expiry) => some (value, expiry) |>.filter fun (_, expiry) => now < expiry
  | _ => none

def itemsOf : Option Entry → List String
  | some (.list items _ _) => items
  | _ => []

def membersOf : Option Entry → List (Int × String)
  | some (.sortedSet members _) => members
  | _ => []

variable {now : Nat} {server after : StoreServer} {key : String} {reply : Reply}

theorem views_of_held_none (h : server.held now key = none) :
    textOf now (server.entries.get key) = none ∧ itemsOf (server.entries.get key) = [] ∧
      membersOf (server.entries.get key) = [] := by
  rw [held] at h
  cases hentry : server.entries.get key with
  | none => exact ⟨rfl, rfl, rfl⟩
  | some entry =>
    rw [hentry] at h
    cases entry with
    | text value expiry => exact ⟨by simpa [textOf, Entry.isLive] using h, rfl, rfl⟩
    | list | sortedSet => cases h

theorem entries_of_held {entry : Entry} (h : server.held now key = some entry) :
    server.entries.get key = some entry ∧ entry.isLive now = true :=
  Option.filter_eq_some_iff.1 h

/-- Where there are items to change, there is nothing else. -/
theorem views_of_items {items : List String} (h : server.items now key = .ok items) :
    itemsOf (server.entries.get key) = items ∧ items.length ≤ listLimit ∧
      textOf now (server.entries.get key) = none ∧ membersOf (server.entries.get key) = [] := by
  rw [StoreServer.items] at h
  split at h
  next hheld =>
    cases h
    obtain ⟨htext, hitems, hmembers⟩ := views_of_held_none hheld
    exact ⟨hitems, Nat.zero_le _, htext, hmembers⟩
  next hheld =>
    cases h
    rw [(entries_of_held hheld).1]
    exact ⟨rfl, ‹_›, rfl, rfl⟩
  next => cases h

/-- Where there are members to change, there is nothing else. -/
theorem views_of_members {members : List (Int × String)} (h : server.members now key = .ok members) :
    membersOf (server.entries.get key) = members ∧ textOf now (server.entries.get key) = none ∧
      itemsOf (server.entries.get key) = [] := by
  rw [StoreServer.members] at h
  split at h
  next hheld =>
    cases h
    obtain ⟨htext, hitems, hmembers⟩ := views_of_held_none hheld
    exact ⟨hmembers, htext, hitems⟩
  next hheld =>
    cases h
    rw [(entries_of_held hheld).1]
    exact ⟨rfl, rfl, rfl⟩
  next => cases h

theorem exists_of_putItems (now : Nat) {items : List String} (h : server.putItems key items = .ok after) :
    ∃ entry, after = server.put key entry ∧ textOf now entry = none ∧ itemsOf entry = items ∧
      membersOf entry = [] := by
  rw [putItems] at h
  split at h
  next hnil =>
    cases h
    exact ⟨none, rfl, rfl, hnil.symm, rfl⟩
  · split at h
    · cases h
      exact ⟨_, rfl, rfl, rfl, rfl⟩
    · cases h

theorem exists_of_putMembers (now : Nat) (members : List (Int × String)) :
    ∃ entry, server.putMembers key members = server.put key entry ∧ textOf now entry = none ∧
      itemsOf entry = [] ∧ membersOf entry = members := by
  refine ⟨_, rfl, ?_⟩
  split
  next hnil => exact ⟨rfl, rfl, hnil.symm⟩
  next => exact ⟨rfl, rfl, rfl⟩

/-! ### Lists, sorted sets and bounds -/

theorem range_eq_slice (items : List String) (start stop : Int) :
    range items start stop = Store.slice items start stop := by
  have hindex : ∀ i : Int, (if i < 0 then (items.length : Int) + i else i) = Store.resolveIndex i items.length :=
    fun _ => rfl
  simp only [range, Store.slice, hindex]
  generalize Store.resolveIndex start items.length = first
  generalize Store.resolveIndex stop items.length = last
  rw [List.drop_take]
  have hfirst : (max first 0).toNat = first.toNat := by omega
  split
  next hempty =>
    rw [List.take_eq_nil_iff, List.drop_eq_nil_iff]
    omega
  next hsome =>
    rw [hfirst, List.take_eq_take_iff, List.length_drop]
    omega

theorem isBefore_eq (x y : Int × String) : isBefore x y = Store.scoredBefore x y := by
  simp only [isBefore, Store.scoredBefore, Text.bytes_lt_iff]

theorem place_eq_insertScored {x : Int × String} {members : List (Int × String)}
    (h : ∀ y ∈ members, y.2 ≠ x.2) : place x members = Store.insertScored x members := by
  induction members with
  | nil => rfl
  | cons y members ih =>
    obtain ⟨hy, hmembers⟩ := List.forall_mem_cons.1 h
    have hplace := ih hmembers
    simp only [place, List.takeWhile_cons, List.dropWhile_cons, isBefore_eq, Store.insertScored,
      Store.scoredBefore_total hy] at hplace ⊢
    cases Store.scoredBefore y x with
    | true => simpa using hplace
    | false => rfl

theorem readInteger_intDigits {i j : Int} (h : readInteger (String.ofList (Text.intDigits i)) = .ok j) :
    j = i ∧ Text.readSigned (String.ofList (Text.intDigits i)) = .ok i := by
  obtain hread | ⟨fault, hread⟩ := Text.readSigned_intDigits_or i <;> rw [readInteger, hread] at h <;> cases h
  exact ⟨rfl, hread⟩

/-- A text with a character that no number has is none. -/
theorem intDigits_ne {i : Int} {cs : List Char} {c : Char} (hc : c ∈ cs) (hsign : c ≠ '-')
    (hdigit : Text.isDigit c = false) : Text.intDigits i ≠ cs := by
  rintro rfl
  obtain rfl | htrue := Text.mem_intDigits hc
  · exact hsign rfl
  · rw [hdigit] at htrue
    cases htrue

/-- A number stands for itself as a bound, both on a server and in memory. -/
theorem read_intDigits {i : Int} {bound : Bound} (h : Bound.read (String.ofList (Text.intDigits i)) = .ok bound) :
    bound = .inclusive i ∧ Store.boundScore (String.ofList (Text.intDigits i)) = i := by
  have hne (s : String) (hs : 'i' ∈ s.toList) : String.ofList (Text.intDigits i) ≠ s := by
    rintro rfl
    rw [String.toList_ofList] at hs
    exact intDigits_ne hs (by decide) (by decide) rfl
  have hlow := hne "-inf" (by decide)
  rw [Bound.read, if_neg hlow, if_neg (not_or.2 ⟨hne "+inf" (by decide), hne "inf" (by decide)⟩)] at h
  rw [Store.boundScore, if_neg hlow]
  dsimp only at h
  split at h
  next cs hcs =>
    rw [String.toList_ofList] at hcs
    exact absurd hcs (intDigits_ne (.head cs) (by decide) (by decide))
  next =>
    obtain hread | ⟨fault, hread⟩ := Text.readSigned_intDigits_or i <;> rw [hread] at h ⊢ <;> cases h
    exact ⟨rfl, rfl⟩

end StoreServer

/-! ### Agreement -/

/-- The value under a key that has not expired, and when it does. -/
def Store.live (store : Store) (now : Nat) (key : String) : Option (String × Nat) :=
  (store.values.get key).filter fun (_, expiry) => now < expiry

theorem Store.isSet_eq_isSome (store : Store) (now : Nat) (key : String) :
    store.isSet now key = (store.live now key).isSome := by
  rw [isSet, live, Option.isSome_filter]

namespace StoreServer

/-- A server and a store in memory hold the same at a time. -/
structure Agrees (now : Nat) (server : StoreServer) (store : Store) : Prop where
  texts : ∀ key, textOf now (server.entries.get key) = store.live now key
  lists : ∀ key, itemsOf (server.entries.get key) = store.lists.get key
  sortedSets : ∀ key, membersOf (server.entries.get key) = store.sortedSets.get key
  published : server.published = store.published
  /-- Scores have 64 bits. -/
  scores : ∀ key, ∀ x ∈ store.sortedSets.get key, Word.signedMin64 ≤ x.1

variable {now now' : Nat} {server after : StoreServer} {store store' : Store} {key : String} {reply : Reply}

theorem agrees_empty (now : Nat) (listeners : String → Nat) : Agrees now (.empty listeners) .empty :=
  ⟨fun _ => rfl, fun _ => rfl, fun _ => rfl, rfl, fun _ _ h => nomatch h⟩

namespace Agrees

/-- Only values expire. -/
theorem later (h : Agrees now server store) (hlater : now ≤ now') : Agrees now' server store where
  texts key := by
    have htexts := congrArg (Option.filter fun (_, expiry) => now' < expiry) (h.texts key)
    have hnarrow (value : Option (String × Nat)) :
        (value.filter fun (_, expiry) => now < expiry).filter (fun (_, expiry) => now' < expiry) =
          value.filter fun (_, expiry) => now' < expiry := by
      rw [Option.filter_filter]
      congr 1
      funext x
      simp only [Bool.and_eq_right_iff_imp, decide_eq_true_eq]
      omega
    rw [Store.live, hnarrow] at htexts
    rw [Store.live, ← htexts]
    cases server.entries.get key with
    | none => rfl
    | some entry =>
      cases entry with
      | text value expiry => exact (hnarrow (some (value, expiry))).symm
      | list | sortedSet => rfl
  lists := h.lists
  sortedSets := h.sortedSets
  published := h.published
  scores := h.scores

/-- Both change under one key. -/
theorem put (h : Agrees now server store) {entry : Option Entry} (htext : textOf now entry = store'.live now key)
    (hitems : itemsOf entry = store'.lists.get key) (hmembers : membersOf entry = store'.sortedSets.get key)
    (hscores : ∀ x ∈ store'.sortedSets.get key, Word.signedMin64 ≤ x.1)
    (hothers : ∀ other, other ≠ key → store'.values.get other = store.values.get other ∧
      store'.lists.get other = store.lists.get other ∧ store'.sortedSets.get other = store.sortedSets.get other)
    (hpublished : store'.published = store.published) : Agrees now (server.put key entry) store' where
  texts other := by
    by_cases hother : other = key
    · subst hother
      rw [StoreServer.put, Keyspace.get_put_self, htext]
    · rw [StoreServer.put, Keyspace.get_put_of_ne _ _ hother, h.texts, Store.live, Store.live, (hothers other hother).1]
  lists other := by
    by_cases hother : other = key
    · subst hother
      rw [StoreServer.put, Keyspace.get_put_self, hitems]
    · rw [StoreServer.put, Keyspace.get_put_of_ne _ _ hother, h.lists, (hothers other hother).2.1]
  sortedSets other := by
    by_cases hother : other = key
    · subst hother
      rw [StoreServer.put, Keyspace.get_put_self, hmembers]
    · rw [StoreServer.put, Keyspace.get_put_of_ne _ _ hother, h.sortedSets, (hothers other hother).2.2]
  published := h.published.trans hpublished.symm
  scores other := by
    by_cases hother : other = key
    · subst hother
      exact hscores
    · rw [(hothers other hother).2.2]
      exact h.scores other

theorem items_eq {items : List String} (h : Agrees now server store) (hitems : server.items now key = .ok items) :
    items = store.lists.get key ∧ items.length ≤ listLimit := by
  obtain ⟨hview, hlimit, -⟩ := views_of_items hitems
  exact ⟨hview.symm.trans (h.lists key), hlimit⟩

theorem members_eq {members : List (Int × String)} (h : Agrees now server store)
    (hmembers : server.members now key = .ok members) : members = store.sortedSets.get key :=
  (views_of_members hmembers).1.symm.trans (h.sortedSets key)

theorem putItems {old items : List String} (h : Agrees now server store) (hold : server.items now key = .ok old)
    (hput : server.putItems key items = .ok after) : Agrees now after (store.setList key items) := by
  obtain ⟨-, -, htext, hmembers⟩ := views_of_items hold
  obtain ⟨entry, rfl, htext', hitems', hmembers'⟩ := exists_of_putItems now hput
  refine h.put ?_ ?_ ?_ (h.scores key) (fun other hother => ?_) rfl
  · rw [htext', ← htext]
    exact h.texts key
  · rw [hitems']
    exact (Keyspace.get_put_self _ _ _).symm
  · rw [hmembers', ← hmembers]
    exact h.sortedSets key
  · exact ⟨rfl, Keyspace.get_put_of_ne _ _ hother, rfl⟩

theorem putMembers {old members : List (Int × String)} (h : Agrees now server store)
    (hold : server.members now key = .ok old) (hscores : ∀ x ∈ members, Word.signedMin64 ≤ x.1) :
    Agrees now (server.putMembers key members) (store.setSorted key members) := by
  obtain ⟨-, htext, hitems⟩ := views_of_members hold
  obtain ⟨entry, hentry, htext', hitems', hmembers'⟩ := exists_of_putMembers now members
  rw [hentry]
  refine h.put ?_ ?_ ?_ (fun x hx => hscores x ?_) (fun other hother => ?_) rfl
  · rw [htext', ← htext]
    exact h.texts key
  · rw [hitems', ← hitems]
    exact h.lists key
  · rw [hmembers']
    exact (Keyspace.get_put_self _ _ _).symm
  · rwa [Store.setSorted, Keyspace.get_put_self] at hx
  · exact ⟨rfl, rfl, Keyspace.get_put_of_ne _ _ hother⟩

end Agrees

/-! ### Commands -/

/-- A reply means what a command answers in memory, and both agree afterwards. -/
def Matches (now : Nat) (store : Store) (c : Command) (reply : Reply) (after : StoreServer) : Prop :=
  ∃ a store', store.run now c = .ok (a, store') ∧ reply.toAnswer c = .ok a ∧ Agrees now after store'

/-- A count of items fits into a word. -/
theorem toNat_integer {n : Nat} (h : n ≤ listLimit) : (Reply.integer n).toNat = .ok n := by
  have hwrap : ((n : Int) % Word.count64).toNat = n := by
    rw [Int.emod_eq_of_lt (by omega) (by simp only [listLimit, Word.max32, Word.count64] at *; omega)]
    exact Int.toNat_natCast n
  exact congrArg _ hwrap

theorem toTexts_data (texts : List String) : (Reply.bulk (texts.map .data)).toTexts = .ok texts := by
  have hall : ((texts.map Reply.data).mapM Reply.toText : Except RedisFault (List String)) = .ok texts := by
    induction texts with
    | nil => rfl
    | cons text texts ih =>
      rw [List.map_cons, List.mapM_cons, ih]
      rfl
  exact hall

namespace Agrees

variable (h : Agrees now server store)

include h

theorem set {value : String} {seconds : Nat} {i : Int}
    (hread : readInteger (String.ofList (Text.natDigits seconds)) = .ok i)
    (hfree : ∀ entry, server.held now key = some entry → entry.isCollection = false)
    (hset : server.set now key value i = .ok (reply, after)) :
    Matches now store (.set key value seconds) reply after := by
  have hseconds : i = seconds := (readInteger_intDigits (i := (seconds : Int)) hread).1
  subst hseconds
  rw [StoreServer.set] at hset
  split at hset
  · cases hset
  next hexpiry =>
    have hlive := h.texts key
    split at hset
    next entry hheld =>
      -- What is there is no list and no sorted set, so that it is there in memory too.
      cases hset
      obtain ⟨hentry, hthere⟩ := entries_of_held hheld
      have hset : store.isSet now key = true := by
        rw [Store.isSet_eq_isSome, ← hlive, hentry]
        cases entry with
        | text value expiry => simpa [textOf, Entry.isLive] using hthere
        | list | sortedSet => cases hfree _ hheld
      exact ⟨false, store, by rw [Store.run, Store.set, if_pos hset], rfl, h⟩
    next hheld =>
      cases hset
      obtain ⟨htext, hitems, hmembers⟩ := views_of_held_none hheld
      have hset : store.isSet now key = false := by
        rw [Store.isSet_eq_isSome, ← hlive, htext]
        rfl
      have hreach : now + seconds * Time.nanosPerSecond < Store.clockLimit * Time.nanosPerSecond := by
        simp only [Time.nanosPerMilli, Time.nanosPerSecond, Store.clockLimit] at hexpiry ⊢
        omega
      refine ⟨true, _, by rw [Store.run, Store.set, if_neg (by simp [hset])]; exact if_pos hreach, rfl, ?_⟩
      refine h.put ?_ ?_ ?_ (h.scores key) (fun other hother => ?_) rfl
      · rw [Store.live, Keyspace.get_put_self, Int.toNat_natCast]
        rfl
      · exact hitems.symm.trans (h.lists key)
      · exact hmembers.symm.trans (h.sortedSets key)
      · exact ⟨Keyspace.get_put_of_ne _ _ hother, rfl, rfl⟩

theorem push {change : List String → List String}
    (hpush : server.push now key change = .ok (reply, after)) :
    Agrees now after (store.setList key (change (store.lists.get key))) := by
  obtain ⟨items, hitems, hpush⟩ := Json.exists_of_bind_eq_ok hpush
  obtain ⟨after, hput, hpush⟩ := Json.exists_of_bind_eq_ok hpush
  cases hpush
  rw [← (h.items_eq hitems).1]
  exact h.putItems hitems hput

theorem remove {value : String} (hremove : server.remove now key 1 value = .ok (reply, after)) :
    Matches now store (.lrem key 1 value) reply after := by
  obtain ⟨items, hitems, hremove⟩ := Json.exists_of_bind_eq_ok hremove
  obtain ⟨after, hput, hremove⟩ := Json.exists_of_bind_eq_ok hremove
  cases hremove
  obtain ⟨rfl, hlimit⟩ := h.items_eq hitems
  have hkept : without 1 value (store.lists.get key) = Store.removeFirst value 1 (store.lists.get key) :=
    (Store.removeFirst_one value _).symm
  have hcount := toNat_integer ((Nat.sub_le _ (Store.removeFirst value 1 (store.lists.get key)).length).trans hlimit)
  have hfewer : (Store.removeFirst value 1 (store.lists.get key)).length ≤ (store.lists.get key).length := by
    rw [Store.removeFirst_one]
    exact List.length_erase_le
  rw [hkept] at hput ⊢
  rw [Int.ofNat_sub hfewer] at hcount
  exact ⟨_, _, rfl, hcount, h.putItems hitems hput⟩

theorem rotate {target : String} (hrotate : server.rotate now key target = .ok (reply, after)) :
    Matches now store (.rpoplpush key target) reply after := by
  obtain ⟨items, hitems, hrotate⟩ := Json.exists_of_bind_eq_ok hrotate
  obtain ⟨rfl, -⟩ := h.items_eq hitems
  cases hlast : (store.lists.get key).getLast? with
  | none =>
    rw [hlast] at hrotate
    cases hrotate
    exact ⟨none, store, congrArg Except.ok (Store.rotate_of_none hlast), rfl, h⟩
  | some value =>
    rw [hlast] at hrotate
    obtain ⟨items, hitems', hrotate⟩ := Json.exists_of_bind_eq_ok hrotate
    obtain ⟨between, hput, hrotate⟩ := Json.exists_of_bind_eq_ok hrotate
    obtain ⟨others, hothers, hrotate⟩ := Json.exists_of_bind_eq_ok hrotate
    obtain ⟨after, hput', hrotate⟩ := Json.exists_of_bind_eq_ok hrotate
    cases hrotate
    obtain ⟨rfl, -⟩ := h.items_eq hitems'
    have hbetween := h.putItems hitems hput
    obtain ⟨rfl, -⟩ := hbetween.items_eq hothers
    refine ⟨some value, _, congrArg Except.ok (Prod.ext ?_ (Store.rotate_of_some hlast)), rfl,
      hbetween.putItems hothers hput'⟩
    rw [Store.rotate_fst, hlast]

theorem rank {member : String} {score i : Int} (hread : readInteger (String.ofList (Text.intDigits score)) = .ok i)
    (hrank : server.rank now key i member = .ok (reply, after)) :
    Matches now store (.zadd key member score) reply after := by
  obtain ⟨rfl, hread⟩ := readInteger_intDigits hread
  obtain ⟨members, hmembers, hrank⟩ := Json.exists_of_bind_eq_ok hrank
  cases hrank
  obtain rfl := h.members_eq hmembers
  have hothers : ∀ y ∈ Store.withoutMember member (store.sortedSets.get key), y.2 ≠ member :=
    fun y hy => (Store.mem_withoutMember.1 hy).2
  have hplace := place_eq_insertScored (x := (i, member)) hothers
  refine ⟨(), _, rfl, rfl, ?_⟩
  rw [← hplace]
  refine h.putMembers hmembers fun x hx => ?_
  have hx : x ∈ place (i, member) (Store.withoutMember member (store.sortedSets.get key)) := hx
  rw [hplace, Store.mem_insertScored] at hx
  obtain rfl | hx := hx
  · exact (Text.readSigned_bounds hread).1
  · exact h.scores key x (Store.mem_withoutMember.1 hx).1

theorem between {high : Int} {bound : Bound} (hread : Bound.read (String.ofList (Text.intDigits high)) = .ok bound)
    (hbetween : server.between now key .lowest bound = .ok reply) :
    Matches now store (.zrangebyscore key "-inf" (String.ofList (Text.intDigits high))) reply server := by
  obtain ⟨rfl, hscore⟩ := read_intDigits hread
  obtain ⟨members, hmembers, hbetween⟩ := Json.exists_of_bind_eq_ok hbetween
  cases hbetween
  obtain rfl := h.members_eq hmembers
  refine ⟨_, store, rfl, ?_, h⟩
  have hwithin : (store.sortedSets.get key).filter (fun x =>
        Store.boundScore "-inf" ≤ x.1 && x.1 ≤ Store.boundScore (String.ofList (Text.intDigits high))) =
      (store.sortedSets.get key).filter fun x =>
        Bound.lowest.admitsFrom x.1 && (Bound.inclusive high).admitsTo x.1 := by
    refine List.filter_congr fun x hx => ?_
    have hleast : Store.boundScore "-inf" ≤ x.1 := h.scores key x hx
    rw [hscore, decide_eq_true hleast]
    rfl
  rw [Store.membersWithin, hwithin]
  have htexts := toTexts_data (((store.sortedSets.get key).filter fun x =>
    Bound.lowest.admitsFrom x.1 && (Bound.inclusive high).admitsTo x.1).map (·.2))
  rwa [List.map_map] at htexts

theorem unrank {member : String} (hunrank : server.unrank now key member = .ok (reply, after)) :
    Matches now store (.zrem key member) reply after := by
  obtain ⟨members, hmembers, hunrank⟩ := Json.exists_of_bind_eq_ok hunrank
  cases hunrank
  obtain rfl := h.members_eq hmembers
  refine ⟨_, _, rfl, ?_, h.putMembers hmembers fun x hx => h.scores key x (Store.mem_withoutMember.1 hx).1⟩
  have hcount (b : Bool) : (Reply.integer (if b then 1 else 0)).toAnswer (.zrem key member) = .ok b := by
    cases b <;> rfl
  have hremoved := hcount (decide ((Store.withoutMember member (store.sortedSets.get key)).length <
    (store.sortedSets.get key).length))
  simp only [decide_eq_true_eq] at hremoved
  exact hremoved

end Agrees

/-! ### Any command -/

end StoreServer

/-- The commands that clients of a queue send. -/
inductive Command.IsUsed : Command → Prop where
  | set (key value : String) (seconds : Nat) : IsUsed (.set key value seconds)
  | lpush (key value : String) : IsUsed (.lpush key value)
  | rpush (key value : String) : IsUsed (.rpush key value)
  | lrange (key : String) (start stop : Int) : IsUsed (.lrange key start stop)
  | llen (key : String) : IsUsed (.llen key)
  | lrem (key value : String) : IsUsed (.lrem key 1 value)
  | rpoplpush (source target : String) : IsUsed (.rpoplpush source target)
  | zadd (key member : String) (score : Int) : IsUsed (.zadd key member score)
  | zrangebyscore (key : String) (high : Int) :
      IsUsed (.zrangebyscore key "-inf" (String.ofList (Text.intDigits high)))
  | zrem (key member : String) : IsUsed (.zrem key member)
  | publish (channel message : String) : IsUsed (.publish channel message)

namespace StoreServer

variable {now : Nat} {server after : StoreServer} {store : Store} {reply : Reply}

/-- A command to set a value finds a list or a sorted set under its key. -/
def Clashes (now : Nat) (server : StoreServer) (c : Command) : Prop :=
  c.verb = .set ∧ ∃ entry, server.held now c.key = some entry ∧ entry.isCollection = true

/-- A command that is not refused means on a server what it does in memory. -/
theorem Agrees.execute {c : Command} (hc : c.IsUsed) (h : Agrees now server store) (hclash : ¬Clashes now server c)
    (hexecute : server.execute now c.arguments = .ok (reply, after)) : Matches now store c reply after := by
  cases hc with
  | set key value seconds =>
    obtain ⟨i, hread, hset⟩ := Json.exists_of_bind_eq_ok hexecute
    refine h.set hread (fun entry hheld => ?_) hset
    exact Bool.eq_false_iff.2 fun hcollection => hclash ⟨rfl, entry, hheld, hcollection⟩
  | lpush key value => exact ⟨(), _, rfl, rfl, h.push hexecute⟩
  | rpush key value => exact ⟨(), _, rfl, rfl, h.push hexecute⟩
  | lrange key start stop =>
    obtain ⟨first, hstart, hexecute⟩ := Json.exists_of_bind_eq_ok hexecute
    obtain ⟨last, hstop, hexecute⟩ := Json.exists_of_bind_eq_ok hexecute
    obtain ⟨items, hitems, hexecute⟩ := Json.exists_of_bind_eq_ok hexecute
    cases hexecute
    obtain rfl := (readInteger_intDigits hstart).1
    obtain rfl := (readInteger_intDigits hstop).1
    obtain ⟨rfl, -⟩ := h.items_eq hitems
    refine ⟨_, store, rfl, ?_, h⟩
    rw [range_eq_slice]
    exact toTexts_data _
  | llen key =>
    obtain ⟨items, hitems, hexecute⟩ := Json.exists_of_bind_eq_ok hexecute
    cases hexecute
    obtain ⟨rfl, hlimit⟩ := h.items_eq hitems
    exact ⟨_, store, rfl, toNat_integer hlimit, h⟩
  | lrem key value =>
    obtain ⟨count, hread, hremove⟩ := Json.exists_of_bind_eq_ok hexecute
    obtain rfl := (readInteger_intDigits (i := 1) hread).1
    exact h.remove hremove
  | rpoplpush source target => exact h.rotate hexecute
  | zadd key member score =>
    obtain ⟨i, hread, hrank⟩ := Json.exists_of_bind_eq_ok hexecute
    exact h.rank hread hrank
  | zrangebyscore key high =>
    obtain ⟨low, hlow, hexecute⟩ := Json.exists_of_bind_eq_ok hexecute
    cases hlow
    obtain ⟨bound, hread, hexecute⟩ := Json.exists_of_bind_eq_ok hexecute
    obtain ⟨reply, hbetween, hexecute⟩ := Json.exists_of_bind_eq_ok hexecute
    cases hexecute
    exact h.between hread hbetween
  | zrem key member => exact h.unrank hexecute
  | publish channel message =>
    cases hexecute
    exact ⟨(), _, rfl, rfl, h.texts, h.lists, h.sortedSets, congrArg (· ++ [(channel, message)]) h.published, h.scores⟩

end StoreServer

end JobQueue
