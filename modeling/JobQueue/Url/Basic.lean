import JobQueue.Text.Numeral

/-! Addresses: what they consist of in normal form, and how they are written. -/

namespace JobQueue

/-- The machine that an address names. -/
inductive UrlHost where
  | domain (name : String)
  /-- The address in four bytes, as a number. -/
  | ipv4 (address : Nat)
  /-- The address in eight pieces of 16 bits. -/
  | ipv6 (pieces : List Nat)
  deriving DecidableEq, Repr

structure Authority where
  username : String
  password : Option String
  host : Option UrlHost
  /-- The port, unless it is the one that belongs to the scheme. -/
  port : Option Nat
  deriving DecidableEq, Repr

structure Url where
  scheme : String
  authority : Option Authority
  path : String
  query : Option String
  fragment : Option String
  deriving DecidableEq, Repr

/-- Why a text is no address. -/
inductive UrlFault where
  | noScheme | emptyHost | badPort | badIpv4 | badIpv6 | badName | badHostChar
  deriving DecidableEq, Repr

namespace UrlFault

def message : UrlFault → String
  | noScheme => "relative URL without a base"
  | emptyHost => "empty host"
  | badPort => "invalid port number"
  | badIpv4 => "invalid IPv4 address"
  | badIpv6 => "invalid IPv6 address"
  | badName => "invalid international domain name"
  | badHostChar => "invalid domain character"

end UrlFault

namespace UrlHost

/-- The length of the run of zeros at the front. -/
def zeroRun (pieces : List Nat) : Nat :=
  (pieces.takeWhile (· == 0)).length

/-- The length of the longest run of zeros. -/
def longestZeroRun : List Nat → Nat
  | [] => 0
  | p :: ps => max (zeroRun (p :: ps)) (longestZeroRun ps)

def hexText (n : Nat) : String :=
  String.ofList (Nat.toDigits 16 n)

def piecesText (pieces : List Nat) : String :=
  String.intercalate ":" (pieces.map hexText)

/-- The pieces before the first run of zeros of a length, and those after it. -/
def splitZeroRun (length : Nat) : List Nat → List Nat × List Nat
  | [] => ([], [])
  | p :: ps =>
    if zeroRun (p :: ps) = length then ([], (p :: ps).drop length)
    else
      let (before, after) := splitZeroRun length ps
      (p :: before, after)

/-- Pieces in hexadecimal; the first of the longest runs of zeros is left out if it has at least two
of them. -/
def ipv6Text (pieces : List Nat) : String :=
  let length := longestZeroRun pieces
  if length < 2 then piecesText pieces
  else
    let (before, after) := splitZeroRun length pieces
    piecesText before ++ "::" ++ piecesText after

def ipv4Text (address : Nat) : String :=
  String.intercalate "."
    ([3, 2, 1, 0].map fun place =>
      String.ofList (Text.natDigits (address / Nat.pow 256 place % 256)))

def text : UrlHost → String
  | domain name => name
  | ipv4 address => ipv4Text address
  | ipv6 pieces => "[" ++ ipv6Text pieces ++ "]"

end UrlHost

namespace Authority

/-- The credentials with the sign that ends them. -/
def userText (a : Authority) : String :=
  match a.password with
  | some password => a.username ++ ":" ++ password ++ "@"
  | none => if a.username.isEmpty then "" else a.username ++ "@"

def portText (a : Authority) : String :=
  match a.port with
  | some port => ":" ++ String.ofList (Text.natDigits port)
  | none => ""

def text (a : Authority) : String :=
  a.userText ++ (a.host.map UrlHost.text).getD "" ++ a.portText

end Authority

namespace Url

def host? (url : Url) : Option UrlHost :=
  url.authority.bind Authority.host

/-- What stands between the scheme and the path. A path with two slashes at its front must not be
taken for an authority. -/
def authorityText (url : Url) : String :=
  match url.authority with
  | some authority => "//" ++ authority.text
  | none => if url.path.startsWith "//" then "/." else ""

/-- The path and the query, as a request names them. -/
def target (url : Url) : String :=
  url.path ++ (url.query.map ("?" ++ ·)).getD ""

def text (url : Url) : String :=
  url.scheme ++ ":" ++ url.authorityText ++ url.target ++ (url.fragment.map ("#" ++ ·)).getD ""

/-- The same address without credentials. -/
def withoutUser (url : Url) : Url :=
  { url with authority := url.authority.map fun a => { a with username := "", password := none } }

end Url

end JobQueue
