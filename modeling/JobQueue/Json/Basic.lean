import JobQueue.Decimal.Binary64

/-! JSON values. The members of an object stand in increasing order of their names, each name
once. -/

namespace JobQueue

namespace Json

/-- A number is a whole number of 64 bits, signed or unsigned, or a floating-point number. -/
inductive Number where
  | whole (value : Int)
  | float (value : Decimal.Binary64)
  deriving DecidableEq, Repr

end Json

inductive Json where
  | null
  | bool (value : Bool)
  | number (value : Json.Number)
  | string (value : String)
  | array (items : List Json)
  | object (members : List (String × Json))
  deriving Repr, Inhabited

namespace Json

/-- Puts a member into an object in increasing order; a member of that name is replaced. -/
def insertMember (name : String) (value : Json) : List (String × Json) → List (String × Json)
  | [] => [(name, value)]
  | (n, v) :: rest =>
    if name = n then (name, value) :: rest
    else if name < n then (name, value) :: (n, v) :: rest
    else (n, v) :: insertMember name value rest

/-- The members of an object, of which the last of each name counts. -/
def ofMembers (members : List (String × Json)) : Json :=
  .object (members.foldl (fun acc m => insertMember m.1 m.2 acc) [])

/-- The member of an object with the given name. -/
def get? (name : String) : Json → Option Json
  | .object members => members.lookup name
  | _ => none

def string? : Json → Option String
  | .string s => some s
  | _ => none

end Json

end JobQueue
