/-! Targets of requests: a path with a query, an address with a scheme and a server before them, a server
alone, or an asterisk. -/

namespace JobQueue.Http

structure Target where
  path : String
  query : String
  deriving DecidableEq, Repr

namespace Target

/-! ### Characters -/

def isSchemeChar (c : Char) : Bool :=
  c.isAlphanum || c == '+' || c == '-' || c == '.' || c == '~'

/-- Whether a character may stand in the name of a server. -/
def isServerChar (c : Char) : Bool :=
  c.isAlphanum || "!$&'()*+,-.:;=@[]_~%".toList.contains c

/-- Whether a character ends the name of a server. -/
def endsServer (c : Char) : Bool :=
  c == '/' || c == '?' || c == '#'

/-- Whether a character may stand in a path. -/
def isPathChar (c : Char) : Bool :=
  '!' ≤ c && c ≠ '#' && c ≠ '<' && c ≠ '>' && c ≠ '?' && c ≠ '\x60' && c ≠ '\x7f'

/-- Whether a character may stand in a query. -/
def isQueryChar (c : Char) : Bool :=
  '!' ≤ c && c ≠ '"' && c ≠ '#' && c ≠ '<' && c ≠ '>' && c ≠ '\x7f'

/-! ### Servers -/

/-- What was seen so far of the name of a server. Credentials and brackets have colons and percent
signs of their own. -/
structure Server where
  colons : Nat
  opened : Bool
  closed : Bool
  percent : Bool

namespace Server

def start : Server :=
  ⟨0, false, false, false⟩

/-- How many colons there may be within brackets or credentials. -/
def mostColons : Nat := 8

/-- The server with one character more. -/
def add? (server : Server) (c : Char) : Option Server :=
  if !isServerChar c then none
  else match c with
    | ':' => if server.colons < mostColons then some { server with colons := server.colons + 1 } else none
    | '[' => if server.percent || server.opened then none else some { server with opened := true }
    | ']' =>
      if server.opened && !server.closed then
        some { server with closed := true, colons := 0, percent := false }
      else none
    | '@' => some { server with colons := 0, percent := false }
    | '%' => some { server with percent := true }
    | _ => some server

/-- Whether a text names a server, possibly with credentials before it and a port after it. -/
def isName (cs : List Char) : Bool :=
  match cs.foldlM add? start with
  | none => false
  | some server =>
    server.opened == server.closed && server.colons ≤ 1 && !server.percent && !cs.isEmpty
      && cs.getLast? != some '@'

end Server

/-! ### Targets -/

/-- How many bytes a target may have. -/
def longest : Nat := 65534

def longestScheme : Nat := 64

/-- What follows a scheme and the signs after it. -/
def afterScheme? (cs : List Char) : Option (Nat × List Char) :=
  match cs.dropWhile isSchemeChar with
  | ':' :: '/' :: '/' :: rest => some ((cs.takeWhile isSchemeChar).length, rest)
  | _ => none

/-- A path, which is the root if nothing stands there, and a query. What follows a number sign is not
part of them. -/
def readPath? (cs : List Char) : Option Target :=
  let shown := cs.takeWhile (· ≠ '#')
  let path := shown.takeWhile (· ≠ '?')
  let query := (shown.dropWhile (· ≠ '?')).drop 1
  if path.all isPathChar && query.all isQueryChar then
    some ⟨if path.isEmpty then "/" else String.ofList path, String.ofList query⟩
  else none

def ofText? (s : String) : Option Target :=
  if longest < s.utf8ByteSize then none
  else match s.toList with
    | [] => none
    | ['*'] => some ⟨"*", ""⟩
    | '/' :: cs => readPath? ('/' :: cs)
    | cs =>
      match afterScheme? cs with
      | none => if Server.isName cs then some ⟨"", ""⟩ else none
      | some (length, rest) =>
        if length ≤ longestScheme && Server.isName (rest.takeWhile fun c => !endsServer c) then
          readPath? (rest.dropWhile fun c => !endsServer c)
        else none

end Target

end JobQueue.Http
