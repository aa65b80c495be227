import JobQueue.Word

/-! Whole numbers written in ASCII digits: bounded readers that say why a numeral is refused, and the
digits of a number. -/

namespace JobQueue.Text

/-- Why a numeral is refused. The first character that is at fault decides. -/
inductive NumeralFault where
  | empty | badDigit | tooLarge | tooSmall
  deriving DecidableEq, Repr

namespace NumeralFault

def message : NumeralFault → String
  | empty => "cannot parse integer from empty string"
  | badDigit => "invalid digit found in string"
  | tooLarge => "number too large to fit in target type"
  | tooSmall => "number too small to fit in target type"

end NumeralFault

def isDigit (c : Char) : Bool :=
  '0' ≤ c && c ≤ '9'

def digitValue (c : Char) : Nat :=
  c.toNat - '0'.toNat

/-- The value of a hexadecimal digit. -/
def hexValue? (c : Char) : Option Nat :=
  if '0' ≤ c && c ≤ '9' then some (c.toNat - '0'.toNat)
  else if 'a' ≤ c && c ≤ 'f' then some (c.toNat - 'a'.toNat + 10)
  else if 'A' ≤ c && c ≤ 'F' then some (c.toNat - 'A'.toNat + 10)
  else none

/-- The value of a run of digits that follows digits of value `n`. -/
def digitsValue (n : Nat) (cs : List Char) : Nat :=
  cs.foldl (fun n c => 10 * n + digitValue c) n

/-- Reads digits as long as the value stays within `limit`. -/
def readDigits (limit : Nat) (fault : NumeralFault) (n : Nat) : List Char → Except NumeralFault Nat
  | [] => .ok n
  | c :: cs =>
    if isDigit c then
      let n := 10 * n + digitValue c
      if n ≤ limit then readDigits limit fault n cs else .error fault
    else .error .badDigit

/-- Reads at least one digit. -/
def readMagnitude (limit : Nat) (fault : NumeralFault) : List Char → Except NumeralFault Nat
  | [] => .error .badDigit
  | cs => readDigits limit fault 0 cs

/-- Reads an unsigned numeral of at most `limit`; one leading plus sign is allowed. -/
def readUnsigned (limit : Nat) (s : String) : Except NumeralFault Nat :=
  match s.toList with
  | [] => .error .empty
  | '+' :: cs => readMagnitude limit .tooLarge cs
  | cs => readMagnitude limit .tooLarge cs

/-- Reads a numeral of 64 bits with an optional sign. -/
def readSigned (s : String) : Except NumeralFault Int :=
  match s.toList with
  | [] => .error .empty
  | '+' :: cs => (readMagnitude Word.signedMax64 .tooLarge cs).map Int.ofNat
  | '-' :: cs => (readMagnitude (Word.signedMax64 + 1) .tooSmall cs).map fun n => -(n : Int)
  | cs => (readMagnitude Word.signedMax64 .tooLarge cs).map Int.ofNat

def natDigits (n : Nat) : List Char :=
  Nat.toDigits 10 n

def intDigits (i : Int) : List Char :=
  if i < 0 then '-' :: natDigits i.natAbs else natDigits i.natAbs

/-- The digits of `n` after as many zeros as make at least `width` of them. -/
def padDigits (width n : Nat) : List Char :=
  let ds := natDigits n
  List.replicate (width - ds.length) '0' ++ ds

end JobQueue.Text
