import JobQueue.Text.Split
import JobQueue.Url.Host
import JobQueue.Url.Path

/-! Reading addresses. Special schemes have an authority and a path of segments whatever the text looks
like; other addresses may have a path that is no more than a text. Each part is read off the front
of what the parts before it have left. -/

namespace JobQueue.Url

/-! ### Schemes -/

def isSchemeChar (c : Char) : Bool :=
  c.isAlphanum || c == '+' || c == '-' || c == '.'

/-- The scheme in lower case. -/
def readScheme (cs : List Char) : Except UrlFault String :=
  match cs.head?, cs.dropWhile isSchemeChar with
  | some c, ':' :: _ =>
    if c.isAlpha then .ok (String.ofList ((cs.takeWhile isSchemeChar).map Char.toLower))
    else .error .noScheme
  | _, _ => .error .noScheme

/-! ### Authorities -/

/-- The user name, and the password after the first colon unless it is empty. -/
def readUser (cs : List Char) : String × Option String :=
  let encode (cs : List Char) : String := String.ofList (Percent.encode Percent.userReserved cs)
  let password := (cs.dropWhile (· ≠ ':')).drop 1
  (encode (cs.takeWhile (· ≠ ':')), if password.isEmpty then none else some (encode password))

/-- The texts of host and port. Colons within brackets do not end a host. -/
def splitHost (inBrackets : Bool) : List Char → List Char × List Char
  | [] => ([], [])
  | c :: cs =>
    if c = ':' && !inBrackets then ([], c :: cs)
    else
      let (host, rest) := splitHost (if c = '[' then true else if c = ']' then false else inBrackets) cs
      (c :: host, rest)

/-- A host. Only a scheme that is not special goes without one. -/
def readHost (kind : SchemeKind) (cs : List Char) : Except UrlFault (Option UrlHost) :=
  match kind, cs with
  | .plain, [] => .ok none
  | .plain, cs => (UrlHost.readPlain cs).map some
  | _, [] => .error .emptyHost
  | _, cs => (UrlHost.readSpecial cs).map some

/-- A port after its colon, if there is one, and what follows it. The port that belongs to the scheme is
left out. -/
def readPort (usual : Option Nat) : List Char → Except UrlFault (Option Nat × List Char)
  | ':' :: cs =>
    let digits := cs.takeWhile Text.isDigit
    let rest := cs.dropWhile Text.isDigit
    let port := Text.digitsValue 0 digits
    if port ≤ Word.max16 && (rest.isEmpty || rest.head? = some '\\') then
      .ok (if digits.isEmpty || usual = some port then none else some port, rest)
    else .error .badPort
  | cs => .ok (none, cs)

/-- An authority. Where there is no host there may be nothing else, and not even the sign that ends
credentials if a path follows. -/
def readAuthority (kind : SchemeKind) (cs : List Char) : Except UrlFault (Authority × List Char) := do
  let ends (c : Char) : Bool := kind.endsAuthority c
  let front := cs.takeWhile fun c => !ends c
  let back := cs.dropWhile fun c => !ends c
  let (user, rest) := (Text.splitLast '@' front).getD ([], front)
  let (username, password) := readUser user
  let (name, rest) := splitHost false rest
  if front = ['@'] && !back.isEmpty then throw .emptyHost
  let host ← readHost kind name
  if host.isNone && !rest.isEmpty then throw .emptyHost
  let (port, rest) ← readPort kind.port? rest
  if host.isNone && (!username.isEmpty || password.isSome) then throw .emptyHost
  return (⟨username, password, host, port⟩, rest ++ back)

/-! ### Addresses -/

/-- What follows the scheme, up to the query. -/
structure Body where
  authority : Option Authority
  path : String
  /-- The query and the fragment with the signs before them. -/
  rest : List Char
  deriving DecidableEq, Repr

def endsPath (c : Char) : Bool :=
  c == '?' || c == '#'

namespace Body

/-- A path of segments. -/
def withPath (kind : SchemeKind) (authority : Option Authority) (cs : List Char) : Body where
  authority := authority
  path := (Path.ofText kind (cs.takeWhile fun c => !endsPath c)).text kind
  rest := cs.dropWhile fun c => !endsPath c

/-- A text without the slash at its front. -/
def dropSlash (kind : SchemeKind) (cs : List Char) : List Char :=
  match cs.dropWhile isIgnored with
  | c :: rest => if kind.isSlash c then rest else cs
  | [] => cs

/-- An authority and a path. -/
def ofAuthority (kind : SchemeKind) (cs : List Char) : Except UrlFault Body := do
  let (authority, rest) ← readAuthority kind cs
  if kind == .plain && rest.head?.all endsPath then .ok ⟨some authority, "", rest⟩
  else .ok (withPath kind (some authority) (dropSlash kind rest))

/-- The host of a file and its path. A host that is a drive belongs to the path, and before a drive a
host is left out. -/
def ofFileHost (cs : List Char) : Except UrlFault Body := do
  let ends (c : Char) : Bool := SchemeKind.file.endsAuthority c
  let name := visible (cs.takeWhile fun c => !ends c)
  let rest := cs.dropWhile fun c => !ends c
  let withHost (host : Option UrlHost) (cs : List Char) : Body :=
    withPath .file (some ⟨"", none, host, none⟩) cs
  if Path.isDrive name then return withHost none cs
  else if name.isEmpty then return withHost none rest
  else
    let host ← UrlHost.readSpecial name
    if host = .domain "localhost" then return withHost none rest
    else
      let rest := dropSlash .file rest
      let path := Path.ofText .file (rest.takeWhile fun c => !endsPath c)
      return withHost (if path.onDrive then none else some host) rest

/-- The body of the address of a file, with the characters that are passed over. -/
def ofFile (cs : List Char) : Except UrlFault Body :=
  let once := dropSlash .file cs
  let twice := dropSlash .file once
  if once.length = cs.length then .ok (withPath .file (some ⟨"", none, none, none⟩) cs)
  else if twice.length = once.length then .ok (withPath .file (some ⟨"", none, none, none⟩) once)
  else ofFileHost twice

/-- The body of an address of a scheme that is not special. -/
def ofPlain : List Char → Except UrlFault Body
  | '/' :: '/' :: cs => ofAuthority .plain cs
  | '/' :: cs => .ok (withPath .plain none cs)
  | cs =>
    .ok ⟨none, String.ofList (Percent.encode [] (cs.takeWhile fun c => !endsPath c)),
      cs.dropWhile fun c => !endsPath c⟩

def ofText (kind : SchemeKind) (cs : List Char) : Except UrlFault Body :=
  match kind with
  | .file => ofFile cs
  | .plain => ofPlain (visible cs)
  | kind => ofAuthority kind ((visible cs).dropWhile kind.isSlash)

end Body

/-- A text without the blanks and controls around it. -/
def trimmed (s : String) : List Char :=
  let isOuter (c : Char) : Bool := c ≤ ' '
  ((s.toList.dropWhile isOuter).reverse.dropWhile isOuter).reverse

def ofText (s : String) : Except UrlFault Url := do
  let cs := trimmed s
  let scheme ← readScheme (visible cs)
  let kind := SchemeKind.ofScheme scheme
  let body ← Body.ofText kind ((cs.dropWhile (· ≠ ':')).drop 1)
  let rest := visible body.rest
  let reserved := if kind.isSpecial then Percent.specialQueryReserved else Percent.queryReserved
  let part (reserved cs : List Char) : Option String :=
    if cs.isEmpty then none else some (String.ofList (Percent.encode reserved (cs.drop 1)))
  return {
    scheme
    authority := body.authority
    path := body.path
    query := part reserved ((rest.takeWhile (· ≠ '#')).dropWhile (· ≠ '?'))
    fragment := part Percent.fragmentReserved (rest.dropWhile (· ≠ '#')) }

end JobQueue.Url
