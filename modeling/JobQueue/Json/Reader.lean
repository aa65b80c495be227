import JobQueue.Json.Numeral
import JobQueue.Json.Quoted

/-! JSON values read from text. Arrays and objects may lie at most `nestingLimit` deep in one
another; what is passed over unread may lie at any depth. -/

namespace JobQueue.Json

/-- How many arrays and objects may lie in one another. -/
def nestingLimit : Nat := 127

/-! ### Marks between values -/

/-- Goes to the next item of an array whose opening bracket is gone; none at the closing one. -/
def nextItem (first : Bool) (cs : List Char) : Except Fault (Option (List Char)) :=
  match skipBlank cs with
  | [] => .error .truncated
  | ']' :: _ => .ok none
  | c :: rest =>
    if first then .ok (some (c :: rest))
    else if c = ',' then
      match skipBlank rest with
      | [] => .error .truncated
      | ']' :: _ => .error .malformed
      | cs => .ok (some cs)
    else .error .malformed

/-- Goes past the bracket that closes an array. -/
def closeArray : Scanner := fun cs =>
  match skipBlank cs with
  | [] => .error .truncated
  | ']' :: rest => .ok rest
  | _ => .error .malformed

/-- Goes past the opening quote of the next name of an object whose opening brace is gone; none at
the closing one. -/
def nextName (first : Bool) (cs : List Char) : Except Fault (Option (List Char)) :=
  match skipBlank cs with
  | [] => .error .truncated
  | '}' :: _ => .ok none
  | '"' :: rest => if first then .ok (some rest) else .error .malformed
  | ',' :: rest =>
    if first then .error .malformed
    else match skipBlank rest with
      | [] => .error .truncated
      | '"' :: rest => .ok (some rest)
      | _ => .error .malformed
  | _ => .error .malformed

/-- Goes past the brace that closes an object. -/
def closeObject : Scanner := fun cs =>
  match skipBlank cs with
  | [] => .error .truncated
  | '}' :: rest => .ok rest
  | _ => .error .malformed

/-- Goes past the colon after a name. -/
def skipColon : Scanner := fun cs =>
  match skipBlank cs with
  | [] => .error .truncated
  | ':' :: rest => .ok rest
  | _ => .error .malformed

/-! ### Arrays and objects, given how their parts are read -/

/-- Reads the items up to the closing bracket. The fuel bounds their number. -/
def readItems (item : Reader α) : Nat → Bool → Reader (List α)
  | 0, _, cs => .error (faultAt cs)
  | fuel + 1, first, cs => do
    match ← nextItem first cs with
    | none => .ok ([], cs)
    | some cs =>
      let (a, cs) ← item cs
      let (as, cs) ← readItems item fuel false cs
      .ok (a :: as, cs)

/-- Reads the members up to the closing brace, from left to right. The fuel bounds their number. -/
def readMembers (member : String → σ → Reader σ) : Nat → Bool → σ → Reader σ
  | 0, _, _, cs => .error (faultAt cs)
  | fuel + 1, first, s, cs => do
    match ← nextName first cs with
    | none => .ok (s, cs)
    | some cs =>
      let (name, cs) ← readString cs
      let (s, cs) ← member name s cs
      readMembers member fuel false s cs

/-- Reads an array whose opening bracket is gone. -/
def readArray (item : Reader α) : Reader (List α) := fun cs => do
  let (as, cs) ← readItems item (cs.length + 1) true cs
  .ok (as, ← closeArray cs)

/-- Reads an object whose opening brace is gone. -/
def readObject (member : String → σ → Reader σ) (s : σ) : Reader σ := fun cs => do
  let (s, cs) ← readMembers member (cs.length + 1) true s cs
  .ok (s, ← closeObject cs)

/-! ### Values -/

/-- Reads a value with at most `depth` arrays and objects in one another. -/
def readValue (depth : Nat) : Reader Json := fun cs =>
  match skipBlank cs with
  | [] => .error .truncated
  | 'n' :: cs => do .ok (.null, ← skipWord ['u', 'l', 'l'] cs)
  | 't' :: cs => do .ok (.bool true, ← skipWord ['r', 'u', 'e'] cs)
  | 'f' :: cs => do .ok (.bool false, ← skipWord ['a', 'l', 's', 'e'] cs)
  | '"' :: cs => do
    let (s, cs) ← readString cs
    .ok (.string s, cs)
  | '[' :: cs =>
    match depth with
    | 0 => .error .malformed
    | depth + 1 => do
      let (items, cs) ← readArray (readValue depth) cs
      .ok (.array items, cs)
  | '{' :: cs =>
    match depth with
    | 0 => .error .malformed
    | depth + 1 => do
      let member (name : String) (members : List (String × Json)) : Reader (List (String × Json)) :=
        fun cs => do
          let (value, cs) ← readValue depth (← skipColon cs)
          .ok (insertMember name value members, cs)
      let (members, cs) ← readObject member [] cs
      .ok (.object members, cs)
  | c :: cs =>
    if c = '-' || Text.isDigit c then do
      let (n, cs) ← readNumber (c :: cs)
      .ok (.number n, cs)
    else .error .malformed
termination_by structural depth

/-! ### Values that are passed over -/

/-- The kinds of brackets that are open. -/
inductive Bracket where
  | array | object
  deriving DecidableEq

/-- Goes past the brackets that close here and past one comma, to where the next value starts. With
no bracket left open the value has ended. -/
def skipClosing : List Bracket → List Char → Except Fault (List Bracket × List Char)
  | [], cs => .ok ([], cs)
  | b :: open_, cs =>
    match b, skipBlank cs with
    | _, [] => .error .truncated
    | _, ',' :: rest => .ok (b :: open_, rest)
    | .array, ']' :: rest => skipClosing open_ rest
    | .object, '}' :: rest => skipClosing open_ rest
    | _, _ => .error .malformed

/-- Goes past the name and colon of a member, if the innermost bracket is that of an object. -/
def skipName (open_ : List Bracket) : Scanner := fun cs =>
  match open_ with
  | .object :: _ =>
    match skipBlank cs with
    | [] => .error .truncated
    | '"' :: rest => do skipColon (← skipString rest)
    | _ => .error .malformed
  | _ => .ok cs

/-- Goes past a bracket that closes as soon as it has opened. -/
def skipEmpty : List Bracket → List Char → Except Fault (Option (List Bracket × List Char))
  | [], _ => .ok none
  | b :: open_, cs =>
    match b, skipBlank cs with
    | _, [] => .error .truncated
    | .array, ']' :: rest => .ok (some (open_, rest))
    | .object, '}' :: rest => .ok (some (open_, rest))
    | _, _ => .ok none

/-- Passes over values until every open bracket is closed. The fuel bounds their number. -/
def skipValues : Nat → List Bracket → Scanner
  | 0, _, cs => .error (faultAt cs)
  | fuel + 1, open_, cs => do
    let after (open_ : List Bracket) (cs : List Char) : Except Fault (List Char) := do
      let (open_, cs) ← skipClosing open_ cs
      if open_.isEmpty then .ok cs
      else skipValues fuel open_ (← skipName open_ cs)
    let opened (open_ : List Bracket) (cs : List Char) : Except Fault (List Char) := do
      match ← skipEmpty open_ cs with
      | some (open_, cs) => after open_ cs
      | none => skipValues fuel open_ (← skipName open_ cs)
    match skipBlank cs with
    | [] => .error .truncated
    | 'n' :: cs => after open_ (← skipWord ['u', 'l', 'l'] cs)
    | 't' :: cs => after open_ (← skipWord ['r', 'u', 'e'] cs)
    | 'f' :: cs => after open_ (← skipWord ['a', 'l', 's', 'e'] cs)
    | '"' :: cs => after open_ (← skipString cs)
    | '[' :: cs => opened (.array :: open_) cs
    | '{' :: cs => opened (.object :: open_) cs
    | c :: cs =>
      if c = '-' || Text.isDigit c then after open_ (← skipNumber (c :: cs))
      else .error .malformed

/-- Passes over one value, of any depth. -/
def skipValue : Scanner := fun cs =>
  skipValues (cs.length + 1) [] cs

/-! ### Documents -/

/-- What a reader makes of a whole text. Only blanks may follow. -/
def document (reader : Reader α) (s : String) : Except Fault α := do
  let (a, rest) ← reader s.toList
  if (skipBlank rest).isEmpty then .ok a else .error .malformed

/-- The JSON value of a text. -/
def ofText (s : String) : Except Fault Json :=
  document (readValue nestingLimit) s

end JobQueue.Json
