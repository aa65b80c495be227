import JobQueue.Store.Command
import JobQueue.Text.Numeral
import JobQueue.Url.Percent

/-! Commands and replies on the wire: the arguments of a command, how the text of a reply is read, and
what a reply means as the answer of a command. -/

namespace JobQueue

namespace Command

private def natText (n : Nat) : String := String.ofList (Text.natDigits n)

private def intText (i : Int) : String := String.ofList (Text.intDigits i)

/-- A command as a server sees it. -/
def arguments : Command → List String
  | set key value seconds => ["SET", key, value, "EX", natText seconds, "NX"]
  | lpush key value => ["LPUSH", key, value]
  | rpush key value => ["RPUSH", key, value]
  | lrange key start stop => ["LRANGE", key, intText start, intText stop]
  | llen key => ["LLEN", key]
  | lrem key count value => ["LREM", key, intText count, value]
  | rpoplpush source target => ["RPOPLPUSH", source, target]
  | zadd key member score => ["ZADD", key, intText score, member]
  | zrangebyscore key low high => ["ZRANGEBYSCORE", key, low, high]
  | zrem key member => ["ZREM", key, member]
  | publish channel message => ["PUBLISH", channel, message]

end Command

namespace Reply

/-! ### What a reply means -/

/-- A text. A status of success counts as one. -/
def toText (reply : Reply) : Except RedisFault String :=
  match reply with
  | data s => .ok s
  | okay => .ok "OK"
  | status s => .ok s
  | _ => .error (.incompatible .notString reply)

/-- A text, or nothing. -/
def toText? : Reply → Except RedisFault (Option String)
  | nil => .ok none
  | reply => reply.toText.map some

/-- An unsigned number of 64 bits. A negative one wraps around. -/
def toNat (reply : Reply) : Except RedisFault Nat :=
  let ofText (s : String) : Except RedisFault Nat :=
    match Text.readUnsigned Word.max64 s with
    | .ok n => .ok n
    | .error _ => .error (.incompatible .notNumeral reply)
  match reply with
  | integer i => .ok (i % Word.count64).toNat
  | status s => ofText s
  | data s => ofText s
  | _ => .error (.incompatible .notNumeric reply)

/-- Texts. A single one counts as a list of one, and nothing as an empty list. -/
def toTexts (reply : Reply) : Except RedisFault (List String) :=
  match reply with
  | data s => .ok [s]
  | bulk items => items.mapM toText
  | nil => .ok []
  | _ => .error (.incompatible .notVector reply)

/-- The answer that a reply to a command stands for. -/
def toAnswer (reply : Reply) : (c : Command) → Except RedisFault c.Answer
  | .set .. => reply.toText?.map Option.isSome
  | .lpush .. => .ok ()
  | .rpush .. => .ok ()
  | .lrange .. => reply.toTexts
  | .llen .. => reply.toNat
  | .lrem .. => reply.toNat
  | .rpoplpush .. => reply.toText?
  | .zadd .. => .ok ()
  | .zrangebyscore .. => reply.toTexts
  | .zrem .. => reply.toNat.map fun n => 0 < n
  | .publish .. => .ok ()

/-! ### How a reply is read -/

/-- The line at the front, and what follows its end. -/
def splitLine : List UInt8 → Option (List UInt8 × List UInt8)
  | 13 :: 10 :: rest => some ([], rest)
  | b :: rest => (splitLine rest).map fun (line, rest) => (b :: line, rest)
  | [] => none

/-- The error that a server signals with a line. -/
def errorOfLine (line : String) : RedisFault :=
  let code := String.ofList (line.toList.takeWhile (· ≠ ' '))
  let detail := match line.toList.dropWhile (· ≠ ' ') with
    | [] => none
    | _ :: detail => some (String.ofList detail)
  match ServerError.ofCode? code with
  | some error => .signalled error detail
  | none => .extension code detail

mutual

/-- Reads a reply off the front of some bytes, below a number of levels. There is none if the bytes
end too early or are no reply. -/
def read : (levels : Nat) → List UInt8 → Option (Except RedisFault Reply × List UInt8)
  | 0, _ => none
  | levels + 1, kind :: bytes => do
    let (lineBytes, rest) ← splitLine bytes
    let line ← Percent.textOf? lineBytes
    match Char.ofNat kind.toNat with
    | '+' => some (.ok (if line = "OK" then okay else status line), rest)
    | '-' => some (.error (errorOfLine line), rest)
    | ':' => do
      let i ← (Text.readSigned line).toOption
      some (.ok (integer i), rest)
    | '$' => do
      let length ← (Text.readSigned line).toOption
      if length < 0 then some (.ok nil, rest)
      else
        let text ← Percent.textOf? (rest.take length.toNat)
        match rest.drop length.toNat with
        | 13 :: 10 :: after => some (.ok (data text), after)
        | _ => none
    | '*' => do
      let length ← (Text.readSigned line).toOption
      if length < 0 then some (.ok nil, rest)
      else
        let (items, after) ← readAll levels length.toNat rest
        some (items.map bulk, after)
    | _ => none
  | _, [] => none

/-- Reads a number of replies. The first error among them counts. -/
def readAll : (levels count : Nat) → List UInt8 →
    Option (Except RedisFault (List Reply) × List UInt8)
  | _, 0, bytes => some (.ok [], bytes)
  | levels, count + 1, bytes => do
    let (item, rest) ← read levels bytes
    let (items, rest) ← readAll levels count rest
    match item, items with
    | .error fault, _ => some (.error fault, rest)
    | .ok _, .error fault => some (.error fault, rest)
    | .ok item, .ok items => some (.ok (item :: items), rest)

end

/-- How many levels of lists a reply may have. -/
def levelLimit : Nat := 100

def ofText? (s : String) : Option (Except RedisFault Reply) :=
  (read levelLimit s.toUTF8.toList).map (·.1)

end Reply

end JobQueue
