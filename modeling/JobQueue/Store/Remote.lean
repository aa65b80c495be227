import JobQueue.Http.Form
import JobQueue.Store.Wire
import JobQueue.Url.Reader

/-! A client of a store server: how it is found, and what comes of a command that is sent to it. -/

namespace JobQueue

/-- Where a store server listens. -/
inductive StoreEndpoint where
  | network (host : UrlHost) (port : Nat)
  /-- A socket in the file system. -/
  | socket (path : List UInt8)
  deriving DecidableEq, Repr

/-- Where a store server listens, and which of its databases is used. -/
structure StoreAddress where
  endpoint : StoreEndpoint
  database : Int
  deriving DecidableEq, Repr

namespace StoreAddress

def defaultPort : Nat := 6379

def readDatabase (s : String) : Except AddressFault Int :=
  (Text.readSigned s).mapError fun _ => .badDatabase

/-! ### Servers in a network -/

/-- The database that a path names; an empty one names the first. -/
def pathDatabase (path : String) : Except AddressFault Int :=
  let isSlash (c : Char) : Bool := c == '/'
  match (path.toList.dropWhile isSlash).reverse.dropWhile isSlash with
  | [] => .ok 0
  | cs => readDatabase (String.ofList cs.reverse)

/-- Refuses a part of an address whose bytes are no text. -/
def checkText (fault : AddressFault) (part : String) : Except AddressFault Unit :=
  match Percent.textOf? (Percent.decodeBytes part.toList) with
  | some _ => .ok ()
  | none => .error fault

def ofNetworkUrl (url : Url) : Except AddressFault StoreAddress :=
  match url.authority.bind fun authority => authority.host.map (authority, ·) with
  | none => .error .noHost
  | some (authority, host) => do
    if url.scheme = "rediss" then throw .encrypted
    let database ← pathDatabase url.path
    checkText .badUser authority.username
    checkText .badPassword (authority.password.getD "")
    return ⟨.network host (authority.port.getD defaultPort), database⟩

/-! ### Sockets -/

/-- The bytes of a path. A letter with a colon or bar at its end is closed with a slash. -/
def pathBytes (path : String) : List UInt8 :=
  let bytes := Percent.decodeBytes path.toList
  match bytes.reverse with
  | mark :: letter :: _ :: _ =>
    if Url.Path.nameDrive (.ofUInt8 letter) (.ofUInt8 mark) then bytes ++ [47] else bytes
  | _ => bytes

/-- The path to a socket. It is a path on this machine and starts with a slash. -/
def socketPath (url : Url) : Except AddressFault (List UInt8) :=
  if url.path.startsWith "/" && url.host?.all (· == .domain "localhost") then .ok (pathBytes url.path)
  else .error .noPath

/-- The value of the last pair with a name in a query. -/
def lastValue? (name : String) (query : Option String) : Option String :=
  ((Form.pairs (query.getD "")).reverse.find? (·.1 == name)).map Prod.snd

def ofSocketUrl (url : Url) : Except AddressFault StoreAddress := do
  let path ← socketPath url
  let database ← match lastValue? "db" url.query with
    | some value => readDatabase value
    | none => .ok 0
  return ⟨.socket path, database⟩

/-! ### Addresses -/

def ofText (s : String) : Except AddressFault StoreAddress :=
  match Url.ofText s with
  | .error _ => .error .unparsed
  | .ok url =>
    if ["redis", "rediss"].contains url.scheme then ofNetworkUrl url
    else if ["unix", "redis+unix"].contains url.scheme then ofSocketUrl url
    else .error .unparsed

end StoreAddress

/-- What there is at an address: nothing that can be reached, or a server. -/
inductive Link where
  | unreachable
  | server

namespace Link

/-- How many bytes the path to a socket has room in. -/
def socketPathRoom : Nat := 108

/-- Why nothing can be reached by a path. The root is there, but it is no socket. -/
def socketFault (path : List UInt8) : SocketFault :=
  if path.all (· == 47) then .notListening else .missing

/-- Why nothing can be reached in a network. Only this machine has a name, and addresses in digits need
none. -/
def networkFault : UrlHost → RedisFault
  | .domain name =>
    if name = "localhost" || (UrlHost.readIpv4 name.toList).toBool then .unreachable else .unresolved
  | _ => .unreachable

/-- Connects to an endpoint. -/
def reach (link : Link) : StoreEndpoint → Except RedisFault Unit
  | .network host _ =>
    match link with
    | .unreachable => .error (networkFault host)
    | .server => .ok ()
  | .socket path =>
    if path.contains 0 then .error (.socket .badPath)
    else if socketPathRoom ≤ path.length then .error (.socket .longPath)
    else match link with
      | .unreachable => .error (.socket (socketFault path))
      | .server => .ok ()

/-- Connects to the store at an address. -/
def connect (link : Link) (address : String) : Except StoreError StoreAddress := do
  let address ← (StoreAddress.ofText address).mapError fun fault => .redis (.address fault)
  (link.reach address.endpoint).mapError .redis
  return address

end Link

namespace Command

/-- What a client gets for a command to which the server gives a reply or remains silent. -/
def resultOf (c : Command) : Option (Except RedisFault Reply) → c.Result
  | none => .error .timeout
  | some (.error fault) => .error (.redis fault)
  | some (.ok reply) => (reply.toAnswer c).mapError .redis

end Command

end JobQueue
