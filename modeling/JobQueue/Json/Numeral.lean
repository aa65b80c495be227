import JobQueue.Json.Fault

/-! JSON numbers. A whole number that 64 bits can hold is kept; any other number becomes a
floating-point number, by one multiplication or division of its leading digits with a power of
ten. -/

namespace JobQueue.Json

open Decimal (Binary64)

/-- The value of the leading digits that fit an unsigned word, and the digits that do not. -/
def takeWord (n : Nat) : List Char → Nat × List Char
  | [] => (n, [])
  | c :: cs =>
    let m := 10 * n + Text.digitValue c
    if m ≤ Word.max64 then takeWord m cs else (n, c :: cs)

/-- The largest power of ten that is used as one factor. -/
def factorLimit : Nat := 308

/-- `x · 10 ^ exponent` by one factor; none if it lies beyond the largest number. -/
def scaleOnce (x : Binary64) (exponent : Int) : Option Binary64 := do
  let factor ← Binary64.powerOfTen exponent.natAbs
  if 0 ≤ exponent then x.mul factor else x.div factor

/-- Divides by the largest factor again and again, as long as something is left. -/
def shrink : Nat → Binary64 → Option Binary64
  | 0, x => some x
  | times + 1, x => if x.isZero then some x else (scaleOnce x (-factorLimit)).bind (shrink times)

/-- `x · 10 ^ exponent`; none if it lies beyond the largest number. -/
def scaleByTen (x : Binary64) (exponent : Int) : Option Binary64 :=
  if factorLimit < exponent then if x.isZero then some x else none
  else
    let times := ((-exponent).toNat - 1) / factorLimit
    (shrink times x).bind (scaleOnce · (exponent + factorLimit * times))

/-- The floating-point number `± word · 10 ^ exponent`, and the text that is left. -/
def floatOf (negative : Bool) (word : Nat) (exponent : Int) (rest : List Char) :
    Except Fault (Number × List Char) :=
  match (Binary64.ofQuotient word 1).bind (scaleByTen · exponent) with
  | none => .error .malformed
  | some x => .ok (.float { x with negative := negative }, rest)

/-- The number of a run of digits that fits an unsigned word. Minus zero and what lies below the
least signed word are floating-point numbers. -/
def wholeOf (negative : Bool) (word : Nat) (rest : List Char) :
    Except Fault (Number × List Char) :=
  if !negative then .ok (.whole word, rest)
  else if 0 < word && word ≤ Word.signedMax64 + 1 then .ok (.whole (-word), rest)
  else floatOf true word 0 rest

/-- A signed word of 32 bits, the nearest to `i`. -/
def clampExponent (i : Int) : Int :=
  max Word.signedMin32 (min Word.signedMax32 i)

/-- Reads the exponent after its letter. One beyond 32 bits gives zero or is refused. -/
def readExponent (negative : Bool) (word : Nat) (exponent : Int) : Reader Number := fun cs =>
  let (minus, cs) := match cs with
    | '+' :: cs => (false, cs)
    | '-' :: cs => (true, cs)
    | cs => (false, cs)
  let ds := cs.takeWhile Text.isDigit
  let rest := cs.dropWhile Text.isDigit
  if ds.isEmpty then .error (faultAt cs)
  else
    let n := Text.digitsValue 0 ds
    if n ≤ Word.signedMax32 then
      floatOf negative word (clampExponent (if minus then exponent - n else exponent + n)) rest
    else if word ≠ 0 && !minus then .error .malformed
    else .ok (.float (Binary64.zero negative), rest)

/-- Reads what may follow the digits of a number that is no whole number of 64 bits. -/
def readScale (negative : Bool) (word : Nat) (exponent : Int) : Reader Number
  | 'e' :: cs => readExponent negative word exponent cs
  | 'E' :: cs => readExponent negative word exponent cs
  | cs => floatOf negative word exponent cs

/-- Reads the digits after a point. Those that no longer fit the word are passed over. -/
def readFraction (negative : Bool) (word : Nat) (exponent : Int) : Reader Number := fun cs =>
  let ds := cs.takeWhile Text.isDigit
  if ds.isEmpty then .error (faultAt cs)
  else
    let (word, beyond) := takeWord word ds
    readScale negative word (exponent - (ds.length - beyond.length))
      (cs.dropWhile Text.isDigit)

/-- Reads a number after its sign. -/
def readMagnitude (negative : Bool) : Reader Number := fun cs =>
  let ds := cs.takeWhile Text.isDigit
  let rest := cs.dropWhile Text.isDigit
  match ds with
  | [] => .error (faultAt cs)
  | '0' :: _ :: _ => .error .malformed
  | ds =>
    let (word, beyond) := takeWord 0 ds
    match rest with
    | '.' :: rest => readFraction negative word beyond.length rest
    | rest =>
      if beyond.isEmpty && !(rest.head?.any fun c => c == 'e' || c == 'E')
      then wholeOf negative word rest
      else readScale negative word beyond.length rest

/-- Reads a number. -/
def readNumber : Reader Number
  | '-' :: cs => readMagnitude true cs
  | cs => readMagnitude false cs

/-- Passes over at least one digit. -/
def skipDigits : Scanner := fun cs =>
  if (cs.takeWhile Text.isDigit).isEmpty then .error .malformed
  else .ok (cs.dropWhile Text.isDigit)

/-- Passes over an exponent, if there is one. -/
def skipExponent : Scanner := fun cs =>
  match cs with
  | c :: rest =>
    if c == 'e' || c == 'E' then
      match rest with
      | '+' :: rest => skipDigits rest
      | '-' :: rest => skipDigits rest
      | rest => skipDigits rest
    else .ok cs
  | [] => .ok []

/-- Passes over a number without its sign. Its size does not matter, and one that is cut short is no
different from one that is malformed. -/
def skipMagnitude : Scanner := fun cs =>
  match cs.takeWhile Text.isDigit with
  | [] => .error .malformed
  | '0' :: _ :: _ => .error .malformed
  | _ =>
    match cs.dropWhile Text.isDigit with
    | '.' :: rest => do skipExponent (← skipDigits rest)
    | rest => skipExponent rest

/-- Passes over a number. -/
def skipNumber : Scanner
  | '-' :: cs => skipMagnitude cs
  | cs => skipMagnitude cs

end JobQueue.Json
