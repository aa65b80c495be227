import JobQueue.Store.Reply

/-! Why a store command fails. -/

namespace JobQueue

/-- The errors of a server that have a kind of their own. -/
inductive ServerError where
  | response | execAbort | busyLoading | noScript | moved | ask | tryAgain | clusterDown
  | crossSlot | masterDown | readOnly
  deriving DecidableEq, Repr

namespace ServerError

/-- The word with which a server starts the error, and the kind as it is shown. -/
def names : ServerError → String × String
  | response => ("ERR", "ResponseError")
  | execAbort => ("EXECABORT", "ExecAbortError")
  | busyLoading => ("LOADING", "BusyLoadingError")
  | noScript => ("NOSCRIPT", "NoScriptError")
  | moved => ("MOVED", "Moved")
  | ask => ("ASK", "Ask")
  | tryAgain => ("TRYAGAIN", "TryAgain")
  | clusterDown => ("CLUSTERDOWN", "ClusterDown")
  | crossSlot => ("CROSSSLOT", "CrossSlot")
  | masterDown => ("MASTERDOWN", "MasterDown")
  | readOnly => ("READONLY", "ReadOnly")

def all : List ServerError :=
  [response, execAbort, busyLoading, noScript, moved, ask, tryAgain, clusterDown, crossSlot,
    masterDown, readOnly]

def ofCode? (code : String) : Option ServerError :=
  all.find? (·.names.1 == code)

end ServerError

/-- Why a reply does not fit the answer of a command. -/
inductive Incompatibility where
  | notNumeric | notNumeral | notVector | notString
  deriving DecidableEq, Repr

namespace Incompatibility

def message : Incompatibility → String
  | notNumeric => "Response type not convertible to numeric."
  | notNumeral => "Could not convert from string."
  | notVector => "Response type not vector compatible."
  | notString => "Response type not string compatible."

end Incompatibility

/-- Why an address names no store. -/
inductive AddressFault where
  | unparsed | noHost | noPath | badDatabase | badUser | badPassword | encrypted
  deriving DecidableEq, Repr

namespace AddressFault

def message : AddressFault → String
  | unparsed => "Redis URL did not parse"
  | noHost => "Missing hostname"
  | noPath => "Missing path"
  | badDatabase => "Invalid database number"
  | badUser => "Username is not valid UTF-8 string"
  | badPassword => "Password is not valid UTF-8 string"
  | encrypted => "can't connect with TLS, the feature is not enabled"

end AddressFault

/-- Why a path leads to no socket. -/
inductive SocketFault where
  | missing | notListening | badPath | longPath
  deriving DecidableEq, Repr

namespace SocketFault

def message : SocketFault → String
  | missing => "No such file or directory (os error 2)"
  | notListening => "Connection refused (os error 111)"
  | badPath => "paths must not contain interior null bytes"
  | longPath => "path must be shorter than SUN_LEN"

end SocketFault

/-- What goes wrong between a client and its server. -/
inductive RedisFault where
  | refused
  | unreachable
  /-- The name of the server is not known. -/
  | unresolved
  | socket (cause : SocketFault)
  | address (cause : AddressFault)
  | signalled (error : ServerError) (detail : Option String)
  | extension (code : String) (detail : Option String)
  | incompatible (cause : Incompatibility) (reply : Reply)
  deriving Repr

namespace RedisFault

def message : RedisFault → String
  | refused => "Connection refused- IoError"
  | unreachable => "Network is unreachable (os error 101)"
  | unresolved =>
    "failed to lookup address information: Temporary failure in name resolution"
  | socket cause => cause.message
  | address cause => cause.message ++ "- InvalidClientConfig"
  | signalled error none => "An error was signalled by the server- " ++ error.names.2
  | signalled error (some detail) =>
    "An error was signalled by the server - " ++ error.names.2 ++ ": " ++ detail
  | extension code detail => code ++ ": " ++ detail.getD "Unknown extension error encountered"
  | incompatible cause reply =>
    "Response was of incompatible type - TypeError: " ++ Text.escaped cause.message
      ++ " (response was " ++ reply.describe ++ ")"

end RedisFault

inductive StoreError where
  | timeout
  | redis (cause : RedisFault)
  deriving Repr

namespace StoreError

def message : StoreError → String
  | timeout => "timed out waiting for a response from redis"
  | redis cause => "redis command failed: " ++ cause.message

end StoreError

end JobQueue
