import JobQueue.Text.Numeral

/-! Spans of time with nanosecond precision. Those without a sign saturate at the longest span that 64 bits of
whole seconds can hold. -/

namespace JobQueue.Time

def nanosPerSecond : Nat := 1000000000

def nanosPerMilli : Nat := 1000000

def nanosPerMicro : Nat := 1000

/-- The longest span, in nanoseconds. -/
def durationLimit : Nat := Word.count64 * nanosPerSecond - 1

structure Duration where
  nanos : Nat
  nanos_le : nanos ≤ durationLimit
  deriving DecidableEq, Repr

namespace Duration

/-- The span of `nanos` nanoseconds, or the longest one if that is shorter. -/
def saturate (nanos : Nat) : Duration :=
  ⟨min nanos durationLimit, Nat.min_le_right ..⟩

def ofParts (seconds nanos : Nat) : Duration :=
  saturate (seconds * nanosPerSecond + nanos)

def ofSeconds (seconds : Nat) : Duration :=
  ofParts seconds 0

def ofMillis (millis : Nat) : Duration :=
  saturate (millis * nanosPerMilli)

def seconds (d : Duration) : Nat :=
  d.nanos / nanosPerSecond

def subsecNanos (d : Duration) : Nat :=
  d.nanos % nanosPerSecond

/-- Whole milliseconds. -/
def millis (d : Duration) : Nat :=
  d.nanos / nanosPerMilli

/-- The milliseconds that fit an unsigned word of 64 bits: the low bits. -/
def wordMillis (d : Duration) : Nat :=
  d.millis % Word.count64

/-- The milliseconds read as a signed word of 64 bits. -/
def signedMillis (d : Duration) : Int :=
  Int.bmod d.millis Word.count64

def mul (d : Duration) (factor : Nat) : Duration :=
  saturate (d.nanos * factor)

def min (d e : Duration) : Duration :=
  if d.nanos ≤ e.nanos then d else e

/-! ### Writing -/

/-- A number with a fraction in `width` digits, without zeros at its end. -/
def decimalText (whole fraction width : Nat) : List Char :=
  let places := ((Text.padDigits width fraction).reverse.dropWhile (· == '0')).reverse
  Text.natDigits whole ++ if places.isEmpty then [] else '.' :: places

/-- The span in the largest unit of which it has at least one. -/
def text (d : Duration) : String :=
  let nanos := d.nanos
  if nanosPerSecond ≤ nanos then
    String.ofList (decimalText (nanos / nanosPerSecond) (nanos % nanosPerSecond) 9) ++ "s"
  else if nanosPerMilli ≤ nanos then
    String.ofList (decimalText (nanos / nanosPerMilli) (nanos % nanosPerMilli) 6) ++ "ms"
  else if nanosPerMicro ≤ nanos then
    String.ofList (decimalText (nanos / nanosPerMicro) (nanos % nanosPerMicro) 3) ++ "\u00b5s"
  else String.ofList (Text.natDigits nanos) ++ "ns"

end Duration

/-! ### Spans with a sign -/

/-- A span of any length that may also be negative, with nanosecond precision. -/
structure Span where
  nanos : Int
  deriving DecidableEq, Repr

namespace Span

def ofMillis (millis : Int) : Span :=
  ⟨millis * nanosPerMilli⟩

/-- A number in the place of a span is its milliseconds. -/
instance : Coe Int Span :=
  ⟨ofMillis⟩

end Span

end JobQueue.Time
