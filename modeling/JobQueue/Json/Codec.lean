import JobQueue.Json.Printer
import JobQueue.Json.Reader

/-! Codecs: how a type is read from JSON text and written to it. A record is read from an object, in
which its fields may stand in any order and unknown members are passed over, or from an array of
its fields in their order. -/

namespace JobQueue.Json

variable {α β γ : Type}

/-- How values of a type are read, below a number of levels that may still open, and written. -/
structure Codec (α : Type) where
  read : Nat → Reader α
  chars : α → List Char

/-- The fault of finding another type than the one that is wanted. -/
def unexpected (expected : String) (cs : List Char) : Fault :=
  let wrong (found : Found) : Fault := .mismatch (.wrongType found expected)
  let word (w : List Char) (found : Found) (cs : List Char) : Fault :=
    match skipWord w cs with
    | .error e => e
    | .ok _ => wrong found
  match cs with
  | [] => .truncated
  | 'n' :: cs => word ['u', 'l', 'l'] .null cs
  | 't' :: cs => word ['r', 'u', 'e'] (.bool true) cs
  | 'f' :: cs => word ['a', 'l', 's', 'e'] (.bool false) cs
  | '"' :: cs =>
    match readString cs with
    | .error e => e
    | .ok (s, _) => wrong (.string s)
  | '[' :: _ => wrong .sequence
  | '{' :: _ => wrong .map
  | c :: cs =>
    if c = '-' || Text.isDigit c then
      match readNumber (c :: cs) with
      | .error e => e
      | .ok (n, _) => wrong (.number n)
    else .malformed

namespace Codec

/-- The value of a whole text. -/
def ofText (c : Codec α) (s : String) : Except Fault α :=
  document (c.read nestingLimit) s

/-- The text of a value. -/
def text (c : Codec α) (a : α) : String :=
  String.ofList (c.chars a)

/-! ### Single values -/

def string : Codec String where
  read _ cs :=
    match skipBlank cs with
    | '"' :: cs => readString cs
    | cs => .error (unexpected "a string" cs)
  chars := quoted

def bool : Codec Bool where
  read _ cs :=
    match skipBlank cs with
    | 't' :: cs => do .ok (true, ← skipWord ['r', 'u', 'e'] cs)
    | 'f' :: cs => do .ok (false, ← skipWord ['a', 'l', 's', 'e'] cs)
    | cs => .error (unexpected "a boolean" cs)
  chars b := Json.chars (.bool b)

/-- Whole numbers from 0 to `limit`, called `name` in a mismatch. -/
def word (limit : Nat) (name : String) : Codec Nat where
  read _ cs :=
    match skipBlank cs with
    | [] => .error .truncated
    | c :: cs =>
      if c = '-' || Text.isDigit c then do
        match ← readNumber (c :: cs) with
        | (.whole i, cs) =>
          if 0 ≤ i && i ≤ limit then .ok (i.toNat, cs)
          else .error (.mismatch (.wrongValue (.number (.whole i)) name))
        | (.float x, _) => .error (.mismatch (.wrongType (.number (.float x)) name))
      else .error (unexpected name (c :: cs))
  chars := Text.natDigits

def word32 : Codec Nat := word Word.max32 "u32"

def word64 : Codec Nat := word Word.max64 "u64"

/-- A number of things that can be held at once. -/
def size : Codec Nat := word Word.max64 "usize"

/-- Any value. -/
def any : Codec Json where
  read := readValue
  chars := Json.chars

/-- A value or `null`. -/
def optional (c : Codec α) : Codec (Option α) where
  read depth cs :=
    match skipBlank cs with
    | 'n' :: cs => do .ok (none, ← skipWord ['u', 'l', 'l'] cs)
    | cs => do
      let (a, cs) ← c.read depth cs
      .ok (some a, cs)
  chars
    | none => Json.chars .null
    | some a => c.chars a

/-- Values that are read and written by way of another type. -/
def via (c : Codec α) (decode : α → Except Mismatch β) (encode : β → α) : Codec β where
  read depth cs := do
    let (a, cs) ← c.read depth cs
    match decode a with
    | .ok b => .ok (b, cs)
    | .error e => .error (.mismatch e)
  chars b := c.chars (encode b)

/-- A moment as RFC 3339 text. A value that is no string is told apart from a bad string. -/
def moment : Codec Time.Moment where
  read _ cs :=
    match skipBlank cs with
    | '"' :: cs => do
      let (s, cs) ← readString cs
      match Time.Moment.ofText s.toList with
      | .ok m => .ok (m, cs)
      | .error e => .error (.mismatch (.moment e))
    | cs => .error (unexpected "an RFC 3339 formatted date and time string" cs)
  chars m := quoted (String.ofList m.text)

end Codec

/-! ### Records -/

/-- A field of a record. -/
structure Field (α : Type) where
  name : String
  codec : Codec α
  /-- What the field holds if an object has no such member. -/
  missing : Option α
  /-- What the field holds if an array ends before it. -/
  short : Option α
  /-- Whether the member is left out when a value is written. -/
  omits : α → Bool

namespace Field

def required (name : String) (codec : Codec α) : Field α :=
  ⟨name, codec, none, none, fun _ => false⟩

/-- A field that an object may lack, but not an array. -/
def optional (name : String) (codec : Codec α) : Field (Option α) :=
  ⟨name, codec.optional, some none, none, fun _ => false⟩

def defaulted (name : String) (codec : Codec α) (default : α) : Field α :=
  ⟨name, codec, some default, some default, fun _ => false⟩

/-- A field that is left out if it holds nothing. -/
def omitted (name : String) (codec : Codec α) : Field (Option α) :=
  ⟨name, codec.optional, some none, some none, Option.isNone⟩

end Field

/-- The fields of a record: their values form nested pairs, and so do the slots that hold what has
been read of them. -/
inductive Row : Type → Type → Type 1 where
  | nil : Row Unit Unit
  | cons {α β σ : Type} (field : Field α) (rest : Row β σ) : Row (α × β) (Option α × σ)

namespace Row

/-- Nothing read yet. -/
def empty : {β σ : Type} → Row β σ → σ
  | _, _, .nil => ()
  | _, _, .cons _ rest => (none, rest.empty)

def size : {β σ : Type} → Row β σ → Nat
  | _, _, .nil => 0
  | _, _, .cons _ rest => rest.size + 1

/-- Reads the member `name` into its slot, which has to be free. -/
def readMember (depth : Nat) (name : String) : {β σ : Type} → Row β σ → σ → Reader σ
  | _, _, .nil, (), cs => do .ok ((), ← skipValue (← skipColon cs))
  | _, _, .cons field rest, (slot, slots), cs =>
    if field.name = name then
      match slot with
      | some _ => .error (.mismatch (.duplicate name))
      | none => do
        let (a, cs) ← field.codec.read depth (← skipColon cs)
        .ok ((some a, slots), cs)
    else do
      let (slots, cs) ← readMember depth name rest slots cs
      .ok ((slot, slots), cs)

/-- The values of all fields once an object has ended. -/
def complete : {β σ : Type} → Row β σ → σ → Except Fault β
  | _, _, .nil, () => .ok ()
  | _, _, .cons field rest, (slot, slots) =>
    match slot <|> field.missing with
    | none => .error (.mismatch (.missing field.name))
    | some a => do .ok (a, ← rest.complete slots)

/-- Reads the fields from the items of an array, of which `done` have been read. -/
def readItems (depth : Nat) (expected : String) (done : Nat) : {β σ : Type} → Row β σ → Reader β
  | _, _, .nil, cs => .ok ((), cs)
  | _, _, .cons field rest, cs => do
    match ← nextItem (done == 0) cs, field.short with
    | some cs, _ =>
      let (a, cs) ← field.codec.read depth cs
      let (b, cs) ← readItems depth expected (done + 1) rest cs
      .ok ((a, b), cs)
    | none, none => .error (.mismatch (.wrongLength done expected))
    | none, some a =>
      let (b, cs) ← readItems depth expected (done + 1) rest cs
      .ok ((a, b), cs)

/-- The members that are written for the fields. -/
def memberChars : {β σ : Type} → Row β σ → β → List (List Char)
  | _, _, .nil, () => []
  | _, _, .cons field rest, (a, b) =>
    if field.omits a then rest.memberChars b
    else memberText field.name (field.codec.chars a) :: rest.memberChars b

end Row

/-- How a mismatch calls the record of `size` fields. -/
def recordSize (name : String) (size : Nat) : String :=
  "struct " ++ name ++ " with " ++ String.ofList (Text.natDigits size) ++
    (if size = 1 then " element" else " elements")

/-- A record with the given name and fields. -/
def Codec.record {σ : Type} (name : String) (row : Row β σ) (make : β → γ) (split : γ → β) : Codec γ where
  read depth cs :=
    match skipBlank cs with
    | '[' :: cs =>
      match depth with
      | 0 => .error .malformed
      | depth + 1 => do
        let (b, cs) ← row.readItems depth (recordSize name row.size) 0 cs
        .ok (make b, ← closeArray cs)
    | '{' :: cs =>
      match depth with
      | 0 => .error .malformed
      | depth + 1 => do
        let (slots, cs) ← readMembers (fun name => row.readMember depth name) (cs.length + 1) true
          row.empty cs
        let b ← row.complete slots
        .ok (make b, ← closeObject cs)
    | cs => .error (unexpected ("struct " ++ name) cs)
  chars c := objectText (row.memberChars (split c))

end JobQueue.Json
