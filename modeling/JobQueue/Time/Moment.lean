import JobQueue.Text.Blank
import JobQueue.Text.Numeral
import JobQueue.Time.Calendar
import JobQueue.Time.Duration

/-! Moments of universal time. They are read from RFC 3339 text with a lenient grammar and written
in one canonical form; a second form with spaces is for people. -/

namespace JobQueue.Time

/-- A moment of universal time. The second 60 is a leap second. -/
structure Moment where
  date : Date
  hour : Nat
  minute : Nat
  second : Nat
  nanosecond : Nat
  deriving DecidableEq, Repr

/-- Why a text is not a moment. -/
inductive MomentFault where
  | invalid | outOfRange | tooShort | tooLong | impossible
  deriving DecidableEq, Repr

namespace MomentFault

def message : MomentFault → String
  | invalid => "input contains invalid characters"
  | outOfRange => "input is out of range"
  | tooShort => "premature end of input"
  | tooLong => "trailing input"
  | impossible => "no possible date and time matching input"

end MomentFault

/-! ### From a clock -/

namespace Moment

/-- The moment `nanos` nanoseconds after the start of 1970. -/
def ofEpochNanos (nanos : Int) : Moment :=
  let seconds := nanos / nanosPerSecond
  let ofDay := (seconds % 86400).toNat
  { date := Date.ofDays (seconds / 86400)
    hour := ofDay / 3600
    minute := ofDay / 60 % 60
    second := ofDay % 60
    nanosecond := (nanos % nanosPerSecond).toNat }

/-! ### Writing -/

/-- The year in four digits, with a sign outside of 0 to 9999. -/
def yearText (year : Int) : List Char :=
  if year < 0 then '-' :: Text.padDigits 4 year.natAbs
  else if year ≤ 9999 then Text.padDigits 4 year.natAbs
  else '+' :: Text.natDigits year.natAbs

/-- The fraction of a second in 0, 3, 6 or 9 digits, as few as it needs. -/
def fractionText (nanos : Nat) : List Char :=
  if nanos == 0 then []
  else if nanos % 1000000 == 0 then '.' :: Text.padDigits 3 (nanos / 1000000)
  else if nanos % 1000 == 0 then '.' :: Text.padDigits 6 (nanos / 1000)
  else '.' :: Text.padDigits 9 nanos

/-- The canonical form, as in `2024-02-29T12:34:56.789Z`. -/
def text (m : Moment) : List Char :=
  yearText m.date.year ++ '-' :: Text.padDigits 2 m.date.month
    ++ '-' :: Text.padDigits 2 m.date.day
    ++ 'T' :: Text.padDigits 2 m.hour ++ ':' :: Text.padDigits 2 m.minute
    ++ ':' :: Text.padDigits 2 m.second ++ fractionText m.nanosecond ++ ['Z']

/-- The fraction of a second without zeros at its end, but with at least one digit. -/
def shortFraction (nanos : Nat) : List Char :=
  match ((Text.padDigits 9 nanos).reverse.dropWhile (· == '0')).reverse with
  | [] => ['0']
  | ds => ds

/-- The form for people, as in `2024-02-29 12:34:56.789 +00:00:00`; the hour is not padded. -/
def stamp (m : Moment) : List Char :=
  yearText m.date.year ++ '-' :: Text.padDigits 2 m.date.month
    ++ '-' :: Text.padDigits 2 m.date.day
    ++ ' ' :: Text.natDigits m.hour ++ ':' :: Text.padDigits 2 m.minute
    ++ ':' :: Text.padDigits 2 m.second ++ '.' :: shortFraction m.nanosecond
    ++ " +00:00:00".toList

/-! ### Reading -/

/-- A reader takes a value off the front of a text. -/
abbrev Reader (α : Type) : Type := List Char → Except MomentFault (α × List Char)

/-- Reads from one to `most` digits; a value beyond 63 bits is out of range. -/
def readDigits (most : Nat) : Reader Nat := fun cs =>
  let ds := (cs.take most).takeWhile Text.isDigit
  match cs, ds with
  | [], _ => .error .tooShort
  | _, [] => .error .invalid
  | _, _ =>
    let n := Text.digitsValue 0 ds
    if n ≤ Word.signedMax64 then .ok (n, cs.drop ds.length) else .error .outOfRange

/-- Reads a field of at most two digits that has to lie between `low` and `high`. -/
def readField (low high : Nat) : Reader Nat := fun cs => do
  let (n, rest) ← readDigits 2 (Text.dropBlank cs)
  if low ≤ n && n ≤ high then .ok (n, rest) else .error .outOfRange

/-- Reads a year: four digits at most, or any number of them after a sign. -/
def readYear : Reader Int := fun cs => do
  let (year, rest) ← (match Text.dropBlank cs with
    | '-' :: cs => do
      let (n, rest) ← readDigits cs.length cs
      .ok (-(n : Int), rest)
    | '+' :: cs => do
      let (n, rest) ← readDigits cs.length cs
      .ok ((n : Int), rest)
    | cs => do
      let (n, rest) ← readDigits 4 cs
      .ok ((n : Int), rest) : Except MomentFault (Int × List Char))
  if Word.signedMin32 ≤ year && year ≤ Word.signedMax32 then .ok (year, rest) else .error .outOfRange

/-- Passes over a mark, with blanks before it. -/
def readMark (mark : Char) : List Char → Except MomentFault (List Char) := fun cs =>
  match Text.dropBlank cs with
  | [] => .error .tooShort
  | c :: rest => if c = mark then .ok rest else .error .invalid

/-- Passes over the character between date and time. -/
def readSeparator : List Char → Except MomentFault (List Char)
  | [] => .error .tooShort
  | c :: rest => if c = 'T' || c = 't' || c = ' ' then .ok rest else .error .invalid

/-- Reads a fraction of a second in nanoseconds; digits after the ninth are passed over. -/
def readFraction : Reader Nat
  | '.' :: cs => do
    let (n, rest) ← readDigits 9 cs
    let width := cs.length - rest.length
    .ok (n * Nat.pow 10 (9 - width), rest.dropWhile Text.isDigit)
  | cs => .ok (0, cs)

/-- Reads two digits of an offset. -/
def readPair : Reader Nat
  | [] => .error .tooShort
  | [c] => if c.utf8Size < 2 then .error .tooShort else .error .invalid
  | a :: b :: rest =>
    if Text.isDigit a && Text.isDigit b then
      .ok (10 * Text.digitValue a + Text.digitValue b, rest)
    else .error .invalid

/-- Reads hours and minutes of an offset, with or without a colon between them. -/
def readOffsetMinutes : Reader Nat := fun cs => do
  let (hours, rest) ← readPair cs
  let (minutes, rest) ← readPair (rest.dropWhile fun c => c == ':' || Text.isBlank c)
  if minutes < 60 then .ok (60 * hours + minutes, rest) else .error .outOfRange

/-- Reads an offset from universal time in minutes. -/
def readOffset : Reader Int := fun cs =>
  match Text.dropBlank cs with
  | [] => .error .tooShort
  | c :: rest =>
    if c = 'Z' || c = 'z' then .ok (0, rest)
    else if c = '+' then do
      let (n, rest) ← readOffsetMinutes rest
      .ok ((n : Int), rest)
    else if c = '-' || c = '\u2212' then do
      let (n, rest) ← readOffsetMinutes rest
      .ok (-(n : Int), rest)
    else match c :: rest with
      | a :: b :: c :: rest =>
        if [a, b, c].map Char.toUpper = ['U', 'T', 'C'] then .ok (0, rest) else .error .invalid
      | _ => .error .invalid

/-- The years that a moment can have. -/
def yearInRange (year : Int) : Bool :=
  -262143 ≤ year && year ≤ 262142

/-- The same moment, given as the local time of a place whose clock is `offset` minutes ahead. -/
def ofLocal (m : Moment) (offset : Int) : Except MomentFault Moment :=
  if !(m.date.isValid && yearInRange m.date.year) then .error .outOfRange
  else if !(-1440 < offset && offset < 1440) then .error .outOfRange
  else
    let minutes := (60 * m.hour + m.minute : Int) - offset
    let date :=
      if minutes < 0 then m.date.previous else if minutes < 1440 then m.date else m.date.next
    let ofDay := (minutes % 1440).toNat
    if yearInRange date.year
    then .ok { m with date := date, hour := ofDay / 60, minute := ofDay % 60 }
    else .error .impossible

/-- Reads a moment. Blanks may surround the numbers, the offset may be any, and what is out of range
is told before what comes later in the text. -/
def ofText (s : List Char) : Except MomentFault Moment := do
  let (year, rest) ← readYear s
  let rest ← readMark '-' rest
  let (month, rest) ← readField 1 12 rest
  let rest ← readMark '-' rest
  let (day, rest) ← readField 1 31 rest
  let rest ← readSeparator rest
  let (hour, rest) ← readField 0 23 rest
  let rest ← readMark ':' rest
  let (minute, rest) ← readField 0 59 rest
  let rest ← readMark ':' rest
  let (second, rest) ← readField 0 60 rest
  let (nanosecond, rest) ← readFraction rest
  let (offset, rest) ← readOffset rest
  if (Text.dropBlank rest).isEmpty then
    ofLocal ⟨⟨year, month, day⟩, hour, minute, second, nanosecond⟩ offset
  else .error .tooLong

end Moment

end JobQueue.Time
