import JobQueue.Proofs.Text.Bytes
import JobQueue.Store.Keyspace
import JobQueue.Store.Wire
import JobQueue.Time.Duration

/-! A store server, in the forms of its commands that clients of a queue use. All keys are in one space: there is
a text, a list or a sorted set under a key, and a command for one of them is refused at a key that has another.
Nothing that is empty is kept. Scores are kept exactly. -/

namespace JobQueue

namespace StoreServer

/-- How many items a list can have. -/
def listLimit : Nat := Word.max32

/-- What is kept under a key. -/
inductive Entry where
  /-- A text, with the time at which it expires, in nanoseconds. -/
  | text (value : String) (expiry : Nat)
  | list (items : List String) (filled : items ≠ []) (fits : items.length ≤ listLimit)
  /-- Members with their scores, in their order. -/
  | sortedSet (members : List (Int × String)) (filled : members ≠ [])

namespace Entry

def isLive (now : Nat) : Entry → Bool
  | text _ expiry => now < expiry
  | _ => true

/-- A list or a sorted set. -/
def isCollection : Entry → Bool
  | text .. => false
  | _ => true

end Entry

end StoreServer

structure StoreServer where
  entries : Keyspace (Option StoreServer.Entry)
  /-- The channels and messages of what was published so far. -/
  published : List (String × String)
  /-- How many clients hear what is published on a channel. -/
  listeners : String → Nat

namespace StoreServer

def empty (listeners : String → Nat) : StoreServer :=
  ⟨.const none, [], listeners⟩

/-! ### Refusals -/

def wrongType : RedisFault :=
  .extension "WRONGTYPE" (some "Operation against a key holding the wrong kind of value")

def noRoom : RedisFault :=
  .extension "OOM" (some "command not allowed when used memory > 'maxmemory'.")

def badInteger : RedisFault :=
  .signalled .response (some "value is not an integer or out of range")

def badExpiry : RedisFault :=
  .signalled .response (some "invalid expire time in 'set' command")

def badBound : RedisFault :=
  .signalled .response (some "min or max is not a float")

def badSyntax : RedisFault :=
  .signalled .response (some "syntax error")

/-! ### Arguments -/

def readInteger (s : String) : Except RedisFault Int :=
  (Text.readSigned s).mapError fun _ => badInteger

/-- A bound of a range of scores. -/
inductive Bound where
  | lowest | highest
  | inclusive (score : Int)
  | exclusive (score : Int)

namespace Bound

/-- Reads a bound. A bracket in front excludes the score. -/
def read (s : String) : Except RedisFault Bound :=
  if s = "-inf" then .ok lowest
  else if s = "+inf" ∨ s = "inf" then .ok highest
  else
    let bound := match s.toList with
      | '(' :: cs => (Text.readSigned (String.ofList cs)).map exclusive
      | _ => (Text.readSigned s).map inclusive
    bound.mapError fun _ => badBound

/-- Whether a range from this bound on has a score. -/
def admitsFrom (score : Int) : Bound → Bool
  | lowest => true
  | highest => false
  | inclusive least => least ≤ score
  | exclusive less => less < score

/-- Whether a range up to this bound has a score. -/
def admitsTo (score : Int) : Bound → Bool
  | lowest => false
  | highest => true
  | inclusive most => score ≤ most
  | exclusive more => score < more

end Bound

/-! ### Lists and sorted sets -/

/-- The items between two indices, with those. Negative indices count from the end. -/
def range (items : List String) (start stop : Int) : List String :=
  let index (i : Int) : Int := if i < 0 then items.length + i else i
  (items.take (index stop + 1).toNat).drop (index start).toNat

/-- The items without some occurrences of a value: a number of them from the front or, if that is negative, from
the end, and all of them for zero. -/
def without (count : Int) (value : String) (items : List String) : List String :=
  let eraseNext (items : List String) := items.erase value
  if count = 0 then items.filter (· ≠ value)
  else if 0 < count then eraseNext^[count.natAbs] items
  else (eraseNext^[count.natAbs] items.reverse).reverse

/-- Members are in the order of their scores, and those with the same one in that of their bytes. -/
def isBefore (x y : Int × String) : Bool :=
  x.1 < y.1 || (x.1 == y.1 && Text.bytes x.2 < Text.bytes y.2)

/-- Puts a member in its place. -/
def place (x : Int × String) (members : List (Int × String)) : List (Int × String) :=
  members.takeWhile (isBefore · x) ++ x :: members.dropWhile (isBefore · x)

/-! ### What is under a key -/

section

variable (now : Nat) (server : StoreServer) (key : String)

/-- What there is under a key at a time. -/
def held : Option Entry :=
  (server.entries.get key).filter (·.isLive now)

def items : Except RedisFault (List String) :=
  match server.held now key with
  | none => .ok []
  | some (.list items _ _) => .ok items
  | some _ => .error wrongType

def members : Except RedisFault (List (Int × String)) :=
  match server.held now key with
  | none => .ok []
  | some (.sortedSet members _) => .ok members
  | some _ => .error wrongType

def put (entry : Option Entry) : StoreServer :=
  { server with entries := server.entries.put key entry }

def putItems (items : List String) : Except RedisFault StoreServer :=
  if filled : items = [] then .ok (server.put key none)
  else if fits : items.length ≤ listLimit then .ok (server.put key (some (.list items filled fits)))
  else .error noRoom

def putMembers (members : List (Int × String)) : StoreServer :=
  server.put key (if filled : members = [] then none else some (.sortedSet members filled))

/-! ### Commands -/

/-- Sets a text that expires after some seconds, unless there is something under the key. -/
def set (value : String) (seconds : Int) : Except RedisFault (Reply × StoreServer) :=
  if seconds ≤ 0 ∨ Word.signedMax64 < now / Time.nanosPerMilli + seconds * 1000 then .error badExpiry
  else match server.held now key with
    | some _ => .ok (.nil, server)
    | none => .ok (.okay, server.put key (some (.text value (now + seconds.toNat * Time.nanosPerSecond))))

/-- Changes a list by a push, and replies how long it is. -/
def push (change : List String → List String) : Except RedisFault (Reply × StoreServer) := do
  let items := change (← server.items now key)
  return (.integer items.length, ← server.putItems key items)

def remove (count : Int) (value : String) : Except RedisFault (Reply × StoreServer) := do
  let items ← server.items now key
  let kept := without count value items
  return (.integer (items.length - kept.length), ← server.putItems key kept)

/-- Moves the last item of a list to the front of another. -/
def rotate (target : String) : Except RedisFault (Reply × StoreServer) := do
  match (← server.items now key).getLast? with
  | none => return (.nil, server)
  | some value =>
    let server ← server.putItems key (← server.items now key).dropLast
    return (.data value, ← server.putItems target (value :: (← server.items now target)))

/-- Gives a member a score, and replies whether it is new. -/
def rank (score : Int) (member : String) : Except RedisFault (Reply × StoreServer) := do
  let members ← server.members now key
  let others := members.filter (·.2 ≠ member)
  return (.integer (if others.length = members.length then 1 else 0),
    server.putMembers key (place (score, member) others))

def between (low high : Bound) : Except RedisFault Reply := do
  let within := (← server.members now key).filter fun x => low.admitsFrom x.1 && high.admitsTo x.1
  return .bulk (within.map fun x => .data x.2)

/-- Removes a member, and replies how many were removed. No member is there twice. -/
def unrank (member : String) : Except RedisFault (Reply × StoreServer) := do
  let members ← server.members now key
  let others := members.filter (·.2 ≠ member)
  return (.integer (if others.length < members.length then 1 else 0), server.putMembers key others)

end

/-- What a server replies to a command, which it sees as its arguments, and the server afterwards. -/
def execute (now : Nat) (server : StoreServer) (arguments : List String) :
    Except RedisFault (Reply × StoreServer) :=
  match arguments.head?.bind Verb.ofName?, arguments.tail with
  | some .set, [key, value, "EX", seconds, "NX"] => do server.set now key value (← readInteger seconds)
  | some .lpush, [key, value] => server.push now key (value :: ·)
  | some .rpush, [key, value] => server.push now key (· ++ [value])
  | some .lrange, [key, start, stop] => do
    let start ← readInteger start
    let stop ← readInteger stop
    return (.bulk ((range (← server.items now key) start stop).map .data), server)
  | some .llen, [key] => do return (.integer (← server.items now key).length, server)
  | some .lrem, [key, count, value] => do server.remove now key (← readInteger count) value
  | some .rpoplpush, [source, target] => server.rotate now source target
  | some .zadd, [key, score, member] => do server.rank now key (← readInteger score) member
  | some .zrangebyscore, [key, low, high] => do
    return (← server.between now key (← Bound.read low) (← Bound.read high), server)
  | some .zrem, [key, member] => server.unrank now key member
  | some .publish, [channel, message] =>
    .ok (.integer (server.listeners channel), { server with published := server.published ++ [(channel, message)] })
  | _, _ => .error badSyntax

/-- A command that is refused changes nothing. -/
def respond (now : Nat) (server : StoreServer) (arguments : List String) : StoreServer × Except RedisFault Reply :=
  match server.execute now arguments with
  | .ok (reply, after) => (after, .ok reply)
  | .error fault => (server, .error fault)

end StoreServer

end JobQueue
