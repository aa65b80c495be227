import JobQueue.Decimal.Binary64
import JobQueue.Text.Numeral

/-! The fewest decimal digits that read back as a given floating-point number, and the text made
of them. -/

namespace JobQueue.Decimal

/-- The number of decimal digits of a positive number. -/
def digitCount (n : Nat) : Nat :=
  (Nat.toDigits 10 n).length

/-- The exponent of the first digit of the quotient of two positive numbers. -/
def leadingExponent (num den : Nat) : Int :=
  if den ≤ num then digitCount (num / den) - 1
  else -(digitCount ((den + num - 1) / num - 1))

/-- Numerator and denominator of `num / den / 10 ^ exponent`. -/
def decimalScaled (num den : Nat) (exponent : Int) : Nat × Nat :=
  if 0 ≤ exponent then (num, den * Nat.pow 10 exponent.toNat) else (num * Nat.pow 10 (-exponent).toNat, den)

/-- The numbers that round to a given positive one, in quarters of its last place: the value itself,
the two ends, and whether the ends belong to it. -/
structure Rounding where
  value : Nat
  low : Nat
  high : Nat
  closed : Bool

namespace Binary64

/-- The interval that rounds to `x`. Below a power of two the next number is half as far away. -/
def rounding (x : Binary64) : Rounding where
  value := 4 * x.significand
  low := 4 * x.significand
    - (if x.significand = leastNormal ∧ minExponent < x.exponent then 1 else 2)
  high := 4 * x.significand + 2
  closed := x.significand % 2 = 0

/-- Whether `digits · 10 ^ place` rounds to `x`. -/
def holds (x : Binary64) (digits : Nat) (place : Int) : Bool :=
  let r := x.rounding
  let (n, d) := scaled digits 1 (x.exponent - 2)
  let (n, d) := decimalScaled n d (-place)
  if r.closed then r.low * d ≤ n && n ≤ r.high * d else r.low * d < n && n < r.high * d

/-- The neighbour of `x` on the grid of tens at `place` that rounds to `x`, the nearer if both do, and
the even one if they are equally near. -/
def onGrid (x : Binary64) (place : Int) : Option Nat :=
  let (num, den) := scaled x.significand 1 (-x.exponent)
  let (n, d) := decimalScaled num den place
  let below := n / d
  match x.holds below place, x.holds (below + 1) place with
  | true, true => some (roundHalfEven n d)
  | true, false => some below
  | false, true => some (below + 1)
  | false, false => none

/-- Tries one digit more until the grid has a number that reads back. -/
def searchDigits (x : Binary64) (place : Int) : Nat → Nat × Int
  | 0 => ((x.onGrid place).getD 0, place)
  | tries + 1 =>
    match x.onGrid place with
    | some digits => (digits, place)
    | none => searchDigits x (place - 1) tries

/-- The shortest digits of a number other than zero, without zeros at the end, and the exponent of
the first digit. -/
def shortest (x : Binary64) : List Char × Int :=
  let (num, den) := scaled x.significand 1 (-x.exponent)
  let (digits, place) := x.searchDigits (leadingExponent num den) 17
  let ds := Text.natDigits digits
  ((ds.reverse.dropWhile (· == '0')).reverse, place + ds.length - 1)

end Binary64

/-- How the digits of a number become text. -/
structure Layout where
  /-- The least exponent of the first digit that is written without an exponent part. -/
  plainFrom : Int
  /-- The greatest such exponent. -/
  plainTo : Int

/-- Numbers are written plainly from `0.00001` up to sixteen digits before the point. -/
def jsonLayout : Layout := ⟨-5, 15⟩

/-- Digits around a decimal point, with at least one on either side. -/
def plainText (ds : List Char) (exponent : Int) : List Char :=
  if exponent < 0 then
    ['0', '.'] ++ List.replicate ((-exponent).toNat - 1) '0' ++ ds
  else
    let whole := exponent.toNat + 1
    if ds.length ≤ whole then ds ++ List.replicate (whole - ds.length) '0' ++ ['.', '0']
    else ds.take whole ++ '.' :: ds.drop whole

/-- Digits with a point after the first, and the exponent with its sign. -/
def exponentText (ds : List Char) (exponent : Int) : List Char :=
  let fraction := if ds.length ≤ 1 then [] else '.' :: ds.drop 1
  let sign := if exponent < 0 then '-' else '+'
  ds.take 1 ++ fraction ++ 'e' :: sign :: Text.natDigits exponent.natAbs

namespace Binary64

/-- The text of a number. -/
def text (layout : Layout) (x : Binary64) : List Char :=
  let sign := if x.negative then ['-'] else []
  if x.isZero then sign ++ ['0', '.', '0']
  else
    let (ds, exponent) := x.shortest
    sign ++ if layout.plainFrom ≤ exponent && exponent ≤ layout.plainTo
      then plainText ds exponent else exponentText ds exponent

end Binary64

end JobQueue.Decimal
