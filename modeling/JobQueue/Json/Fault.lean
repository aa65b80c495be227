import JobQueue.Json.Basic
import JobQueue.Decimal.Shortest
import JobQueue.Text.Escaped
import JobQueue.Time.Moment

/-! Why a text cannot be read: it is no JSON, it ends too early, or it is JSON that does not fit
the type that is wanted. -/

namespace JobQueue.Json

/-- What stands in the text where something else is wanted. -/
inductive Found where
  | null | sequence | map
  | bool (value : Bool)
  | number (value : Number)
  | string (value : String)
  deriving Repr

/-- How a JSON value misses the type that is wanted. -/
inductive Mismatch where
  | wrongType (found : Found) (expected : String)
  | wrongValue (found : Found) (expected : String)
  | wrongLength (length : Nat) (expected : String)
  | missing (field : String)
  | duplicate (field : String)
  | moment (cause : Time.MomentFault)
  deriving Repr

inductive Fault where
  | malformed
  | truncated
  | mismatch (cause : Mismatch)
  deriving Repr

namespace Number

def text : Number → List Char
  | whole i => Text.intDigits i
  | float x => x.text Decimal.jsonLayout

end Number

/-- A name in backticks. -/
def quotedName (name : String) : String :=
  "`" ++ name ++ "`"

namespace Found

def describe : Found → String
  | null => "null"
  | sequence => "sequence"
  | map => "map"
  | bool b => "boolean " ++ quotedName (if b then "true" else "false")
  | number (.whole i) => "integer " ++ quotedName (String.ofList (Text.intDigits i))
  | number (.float x) => "floating point " ++ quotedName (String.ofList (x.text Decimal.jsonLayout))
  | string s => "string " ++ Text.escaped s

end Found

namespace Mismatch

def message : Mismatch → String
  | wrongType found expected => "invalid type: " ++ found.describe ++ ", expected " ++ expected
  | wrongValue found expected => "invalid value: " ++ found.describe ++ ", expected " ++ expected
  | wrongLength length expected =>
    "invalid length " ++ String.ofList (Text.natDigits length) ++ ", expected " ++ expected
  | missing field => "missing field " ++ quotedName field
  | duplicate field => "duplicate field " ++ quotedName field
  | moment cause => cause.message

end Mismatch

def Fault.message : Fault → String
  | .malformed => "malformed text"
  | .truncated => "unexpected end of text"
  | .mismatch cause => cause.message

/-- A reader takes a value off the front of a text. -/
abbrev Reader (α : Type) : Type := List Char → Except Fault (α × List Char)

/-- A scanner passes over the front of a text. -/
abbrev Scanner : Type := List Char → Except Fault (List Char)

/-- The fault of a text that goes on where it must not, or that ends there. -/
def faultAt : List Char → Fault
  | [] => .truncated
  | _ => .malformed

/-- The blanks of JSON. -/
def isBlank (c : Char) : Bool :=
  c == ' ' || c == '\n' || c == '\t' || c == '\r'

def skipBlank (cs : List Char) : List Char :=
  cs.dropWhile isBlank

/-- Passes over the characters of a word. -/
def skipWord : List Char → Scanner
  | [], cs => .ok cs
  | w :: ws, c :: cs => if w = c then skipWord ws cs else .error .malformed
  | _ :: _, [] => .error .truncated

end JobQueue.Json
