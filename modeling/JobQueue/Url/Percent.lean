import JobQueue.Text.Numeral

/-! Percent encoding: characters that may not stand in a part of an address are written as their bytes
in hexadecimal. -/

namespace JobQueue.Percent

/-- The bytes of a character. -/
def bytesOf (c : Char) : List UInt8 :=
  c.toString.toUTF8.toList

/-- The bytes that an encoded text stands for. A percent sign without two hexadecimal digits is
itself. -/
def decodeBytes : List Char → List UInt8
  | [] => []
  | '%' :: a :: b :: cs =>
    match Text.hexValue? a, Text.hexValue? b with
    | some x, some y => UInt8.ofNat (16 * x + y) :: decodeBytes cs
    | _, _ => 37 :: decodeBytes (a :: b :: cs)
  | c :: cs => bytesOf c ++ decodeBytes cs

/-- The text of bytes, if they are one. -/
def textOf? (bytes : List UInt8) : Option String :=
  String.fromUTF8? ⟨bytes.toArray⟩

/-- The character at the front of some bytes. -/
def firstChar? (bytes : List UInt8) : Option Char :=
  (List.range 4).findSome? fun n =>
    match (textOf? (bytes.take (n + 1))).map String.toList with
    | some [c] => some c
    | _ => none

/-- The characters of at most `limit` bytes. A byte that is part of no character becomes a
replacement character. -/
def lenientChars : (limit : Nat) → List UInt8 → List Char
  | 0, _ => []
  | _, [] => []
  | limit + 1, b :: bs =>
    match firstChar? (b :: bs) with
    | some c => c :: lenientChars limit ((b :: bs).drop c.utf8Size)
    | none => '\ufffd' :: lenientChars limit bs

/-- The text of bytes, with replacement characters for those that are none. -/
def lenientText (bytes : List UInt8) : String :=
  String.ofList (lenientChars bytes.length bytes)

def hexDigit (n : Nat) : Char :=
  (Nat.digitChar n).toUpper

def encodeByte (b : UInt8) : List Char :=
  ['%', hexDigit (b.toNat / 16), hexDigit (b.toNat % 16)]

def isControl (c : Char) : Bool :=
  c.toNat < 32 || c.toNat == 127

/-- Writes a text so that controls, characters beyond ASCII and those in `reserved` are encoded. -/
def encode (reserved : List Char) (cs : List Char) : List Char :=
  cs.flatMap fun c =>
    if isControl c || 127 < c.toNat || c ∈ reserved then (bytesOf c).flatMap encodeByte else [c]

/-! ### What is reserved in the parts of an address -/

def fragmentReserved : List Char := [' ', '"', '<', '>', '\x60']

def queryReserved : List Char := [' ', '"', '#', '<', '>']

def specialQueryReserved : List Char := '\'' :: queryReserved

def pathReserved : List Char := ['#', '?', '\x7b', '\x7d'] ++ fragmentReserved

def userReserved : List Char :=
  ['/', ':', ';', '=', '@', '[', '\\', ']', '^', '|'] ++ pathReserved

end JobQueue.Percent
