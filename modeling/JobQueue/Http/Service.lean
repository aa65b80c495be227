import JobQueue.Http.Target
import JobQueue.Program
import JobQueue.Time.Duration
import JobQueue.Url.Reader

/-! The processing service over HTTP: what is sent to it, and which answers count as failures. -/

namespace JobQueue.Http

open Time (Duration)

/-- A request as it is sent. -/
structure SentRequest where
  method : String
  url : Url
  body : Option String
  deriving DecidableEq, Repr

/-- What comes back for a request that was sent. -/
inductive Reception where
  /-- A response, with the address to which it redirects if it names one. -/
  | response (status : Nat) (location : Option Url)
  /-- Nothing within the time limit. -/
  | silence
  /-- The connection could not be made or was lost. -/
  | failure
  deriving DecidableEq, Repr

/-- What comes back for the first of some requests. The others were sent before it, and it may depend on
them. -/
abbrev Network := List SentRequest → Reception

namespace SentRequest

def line (request : SentRequest) : String :=
  request.method ++ " " ++ request.url.target ++ " HTTP/1.1"

/-- The type of the content. -/
def contentType : String := "application/json"

/-- Who sends the request. -/
def userAgent : String := "job-worker"

/-- The request that follows a redirection: the same one again if the status asks for that, else one
that only reads. -/
def redirected (request : SentRequest) (status : Nat) (location : Url) : SentRequest :=
  if status = 307 || status = 308 then { request with url := location }
  else ⟨"GET", location, none⟩

end SentRequest

/-- The processing service at an address, and how long it may take. -/
structure ProcessingService where
  url : Url
  timeout : Duration
  deriving DecidableEq, Repr

namespace ProcessingService

def ofText (url : String) (timeout : Duration) : Except UrlFault ProcessingService :=
  (Url.ofText url).map fun url => ⟨url, timeout⟩

/-- Whether credentials are sent apart from the address: the user name has to be text, and so has the
password if there is no user name. -/
def sendsUserApart (authority : Authority) : Bool :=
  let isText (part : String) : Bool := (Percent.textOf? (Percent.decodeBytes part.toList)).isSome
  isText authority.username && (!authority.username.isEmpty || authority.password.any isText)

def sent (service : ProcessingService) (request : JobRequest) : SentRequest :=
  let url := if service.url.authority.any sendsUserApart then service.url.withoutUser else service.url
  ⟨"POST", url, some (JobRequest.codec.text request)⟩

/-- A failure that concerns an address. -/
def failureAt (what : String) (url : Url) : ProcessingError :=
  ⟨what ++ " for url (" ++ url.text ++ ")"⟩

/-- Only web addresses that can be the target of a request can be sent to. -/
def canSend (url : Url) : Bool :=
  (url.scheme == "http" || url.scheme == "https") && url.host?.isSome
    && (Target.ofText? url.text).isSome

def isRedirection (status : Nat) : Bool :=
  [301, 302, 303, 307, 308].contains status

/-- What a final status means. -/
def judge (status : Nat) : Except ProcessingError Unit :=
  if 400 ≤ status && status < 600 then
    .error ⟨"upstream responded with status " ++ String.ofList (Text.natDigits status)⟩
  else .ok ()

/-- How many redirections are followed. -/
def redirectionLimit : Nat := 10

/-- Sends a request after some earlier ones and follows redirections, up to a number of them. -/
def exchange (network : Network) :
    (redirections : Nat) → (earlier : List SentRequest) → SentRequest → Except ProcessingError Unit
  | redirections, earlier, request =>
    if canSend request.url then
      match network (request :: earlier) with
      | .silence => .error ⟨"upstream timeout"⟩
      | .failure => .error (failureAt "error sending request" request.url)
      | .response status location =>
        match location, redirections with
        | none, _ => judge status
        | some _, 0 =>
          if isRedirection status then .error (failureAt "error following redirect" request.url)
          else judge status
        | some url, left + 1 =>
          if isRedirection status then
            exchange network left (request :: earlier) (request.redirected status url)
          else judge status
    else .error (failureAt "builder error" request.url)

/-- Has a request processed. -/
def process (service : ProcessingService) (network : Network) (request : JobRequest) :
    Except ProcessingError Unit :=
  exchange network redirectionLimit [] (service.sent request)

end ProcessingService

end JobQueue.Http
