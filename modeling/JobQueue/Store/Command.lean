import JobQueue.Store.Error

/-! The commands of the shared store, each of which is one atomic step, and what they answer. -/

namespace JobQueue

/-- The kinds of commands. -/
inductive Verb where
  | set | lpush | rpush | lrange | llen | lrem | rpoplpush | zadd | zrangebyscore | zrem | publish
  deriving DecidableEq, Repr

namespace Verb

def name : Verb → String
  | set => "SET"
  | lpush => "LPUSH"
  | rpush => "RPUSH"
  | lrange => "LRANGE"
  | llen => "LLEN"
  | lrem => "LREM"
  | rpoplpush => "RPOPLPUSH"
  | zadd => "ZADD"
  | zrangebyscore => "ZRANGEBYSCORE"
  | zrem => "ZREM"
  | publish => "PUBLISH"

def all : List Verb :=
  [set, lpush, rpush, lrange, llen, lrem, rpoplpush, zadd, zrangebyscore, zrem, publish]

def ofName? (s : String) : Option Verb :=
  all.find? (·.name == s)

end Verb

inductive Command where
  /-- Sets a value that expires, unless the key has one. -/
  | set (key value : String) (seconds : Nat)
  | lpush (key value : String)
  | rpush (key value : String)
  | lrange (key : String) (start stop : Int)
  | llen (key : String)
  /-- Removes occurrences of a value. -/
  | lrem (key : String) (count : Int) (value : String)
  /-- Moves the last item of one list to the front of another. -/
  | rpoplpush (source target : String)
  | zadd (key member : String) (score : Int)
  | zrangebyscore (key low high : String)
  | zrem (key member : String)
  | publish (channel message : String)
  deriving DecidableEq, Repr

namespace Command

def verb : Command → Verb
  | set .. => .set
  | lpush .. => .lpush
  | rpush .. => .rpush
  | lrange .. => .lrange
  | llen .. => .llen
  | lrem .. => .lrem
  | rpoplpush .. => .rpoplpush
  | zadd .. => .zadd
  | zrangebyscore .. => .zrangebyscore
  | zrem .. => .zrem
  | publish .. => .publish

/-- The key that a command names first. -/
def key : Command → String
  | set key _ _ => key
  | lpush key _ => key
  | rpush key _ => key
  | lrange key _ _ => key
  | llen key => key
  | lrem key _ _ => key
  | rpoplpush source _ => source
  | zadd key _ _ => key
  | zrangebyscore key _ _ => key
  | zrem key _ => key
  | publish channel _ => channel

/-- What a command answers: whether it set or removed something, how much there is or was removed,
or the texts it found. -/
abbrev Answer : Command → Type
  | set .. => Bool
  | lpush .. => Unit
  | rpush .. => Unit
  | lrange .. => List String
  | llen .. => Nat
  | lrem .. => Nat
  | rpoplpush .. => Option String
  | zadd .. => Unit
  | zrangebyscore .. => List String
  | zrem .. => Bool
  | publish .. => Unit

/-- What a client gets for a command. -/
abbrev Result (c : Command) : Type := Except StoreError c.Answer

end Command

end JobQueue
