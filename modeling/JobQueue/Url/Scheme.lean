/-! Schemes of addresses, as far as they decide how the rest is read. -/

namespace JobQueue.Url

/-- How the rest of an address is read. -/
inductive SchemeKind where
  | file
  /-- A scheme that belongs to a port. -/
  | special (port : Nat)
  | plain
  deriving DecidableEq, Repr

namespace SchemeKind

def ofScheme : String → SchemeKind
  | "http" => special 80
  | "ws" => special 80
  | "https" => special 443
  | "wss" => special 443
  | "ftp" => special 21
  | "file" => file
  | _ => plain

def isSpecial (kind : SchemeKind) : Bool :=
  kind != plain

/-- The port that is used unless another one is given. -/
def port? : SchemeKind → Option Nat
  | special port => some port
  | _ => none

/-- Whether a character separates the segments of a path. -/
def isSlash (kind : SchemeKind) (c : Char) : Bool :=
  c == '/' || (kind.isSpecial && c == '\\')

/-- Whether a character ends an authority. -/
def endsAuthority (kind : SchemeKind) (c : Char) : Bool :=
  kind.isSlash c || c == '?' || c == '#'

end SchemeKind

end JobQueue.Url
