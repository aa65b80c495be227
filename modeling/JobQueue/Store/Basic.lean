import JobQueue.Panic
import JobQueue.Store.Command
import JobQueue.Store.Keyspace
import JobQueue.Time.Duration

/-! A store in memory, and what every command does to it. -/

namespace JobQueue

/-- Expiring values, lists, sorted sets, and the messages published so far. The members of a sorted
set stand in increasing order of their score, and members of one score in increasing order. -/
structure Store where
  /-- Values with the time at which they expire, in nanoseconds. -/
  values : Keyspace (Option (String × Nat))
  lists : Keyspace (List String)
  sortedSets : Keyspace (List (Int × String))
  published : List (String × String)

namespace Store

def empty : Store :=
  ⟨.const none, .const [], .const [], []⟩

/-! ### Values -/

/-- The seconds up to which the clock can count. -/
def clockLimit : Nat := Word.signedMax64 + 1

/-- Whether a key has a value that has not expired. -/
def isSet (store : Store) (now : Nat) (key : String) : Bool :=
  (store.values.get key).any fun (_, expiry) => now < expiry

def set (now : Nat) (key value : String) (seconds : Nat) (store : Store) :
    Except Panic (Bool × Store) :=
  if store.isSet now key then .ok (false, store)
  else
    let expiry := now + seconds * Time.nanosPerSecond
    if expiry < clockLimit * Time.nanosPerSecond
    then .ok (true, { store with values := store.values.put key (some (value, expiry)) })
    else .error .deadlineOverflow

/-! ### Lists -/

/-- An index that may count from the end. -/
def resolveIndex (index : Int) (length : Nat) : Int :=
  if index < 0 then length + index else index

/-- The items from one index to another, both of them included. -/
def slice (items : List String) (start stop : Int) : List String :=
  let first := max (resolveIndex start items.length) 0
  let last := min (resolveIndex stop items.length) (items.length - 1)
  if last < first then [] else (items.drop first.toNat).take (last - first + 1).toNat

/-- The items without the first `limit` occurrences of a value. -/
def removeFirst (value : String) : Nat → List String → List String
  | 0, items => items
  | _, [] => []
  | limit + 1, item :: items =>
    if item = value then removeFirst value limit items
    else item :: removeFirst value (limit + 1) items

/-- How many occurrences a count stands for. -/
def removalLimit (count : Int) (items : List String) : Nat :=
  if count = 0 then items.length else count.natAbs

def setList (store : Store) (key : String) (items : List String) : Store :=
  { store with lists := store.lists.put key items }

def pushFront (store : Store) (key value : String) : Store :=
  store.setList key (value :: store.lists.get key)

def pushBack (store : Store) (key value : String) : Store :=
  store.setList key (store.lists.get key ++ [value])

/-- Takes the last item of one list and puts it to the front of another. -/
def rotate (store : Store) (source target : String) : Option String × Store :=
  match (store.lists.get source).getLast? with
  | none => (none, store)
  | some value =>
    (some value,
      (store.setList source (store.lists.get source).dropLast).pushFront target value)

/-! ### Sorted sets -/

/-- The order of the members of a sorted set. -/
def scoredBefore (x y : Int × String) : Bool :=
  x.1 < y.1 || (x.1 == y.1 && x.2 < y.2)

/-- Puts a member before the first one that comes after it. -/
def insertScored (x : Int × String) : List (Int × String) → List (Int × String)
  | [] => [x]
  | y :: ys => if scoredBefore x y then x :: y :: ys else y :: insertScored x ys

def withoutMember (member : String) (set : List (Int × String)) : List (Int × String) :=
  set.filter fun x => x.2 ≠ member

/-- The score that a bound stands for. A bound that cannot be read is the greatest score. -/
def boundScore (bound : String) : Int :=
  if bound = "-inf" then Word.signedMin64
  else match Text.readSigned bound with
    | .ok i => i
    | .error _ => Word.signedMax64

def membersWithin (low high : Int) (set : List (Int × String)) : List String :=
  (set.filter fun x => low ≤ x.1 && x.1 ≤ high).map (·.2)

def setSorted (store : Store) (key : String) (set : List (Int × String)) : Store :=
  { store with sortedSets := store.sortedSets.put key set }

/-! ### Commands -/

/-- What a command answers at time `now`, and the store after it. -/
def run (now : Nat) (store : Store) : (c : Command) → Except Panic (c.Answer × Store)
  | .set key value seconds => store.set now key value seconds
  | .lpush key value => .ok ((), store.pushFront key value)
  | .rpush key value => .ok ((), store.pushBack key value)
  | .lrange key start stop => .ok (slice (store.lists.get key) start stop, store)
  | .llen key => .ok ((store.lists.get key).length, store)
  | .lrem key count value =>
    let items := store.lists.get key
    let kept := removeFirst value (removalLimit count items) items
    .ok (items.length - kept.length, store.setList key kept)
  | .rpoplpush source target => .ok (store.rotate source target)
  | .zadd key member score =>
    let set := withoutMember member (store.sortedSets.get key)
    .ok ((), store.setSorted key (insertScored (score, member) set))
  | .zrangebyscore key low high =>
    .ok (membersWithin (boundScore low) (boundScore high) (store.sortedSets.get key), store)
  | .zrem key member =>
    let set := store.sortedSets.get key
    let kept := withoutMember member set
    .ok (kept.length < set.length, store.setSorted key kept)
  | .publish channel message =>
    .ok ((), { store with published := store.published ++ [(channel, message)] })

end Store

end JobQueue
