/-! Finite binary floating-point numbers of 64 bits. An exact quotient is rounded to the nearest of
them, ties to the even significand, and products and quotients are rounded once. -/

namespace JobQueue.Decimal

/-- The number `± significand · 2 ^ exponent`. -/
structure Binary64 where
  negative : Bool
  significand : Nat
  exponent : Int
  deriving DecidableEq, Repr

/-- The exponent of the subnormal numbers. -/
def minExponent : Int := -1074

/-- The exponent of the largest numbers. -/
def maxExponent : Int := 971

/-- How many significands there are. -/
def significandLimit : Nat := 0x20000000000000

/-- The least significand above the subnormal numbers. -/
def leastNormal : Nat := 0x10000000000000

/-- The quotient of `num` and `den`, rounded to the nearest whole number, ties to the even one. -/
def roundHalfEven (num den : Nat) : Nat :=
  let quotient := num / den
  let rest := num % den
  if 2 * rest < den then quotient
  else if den < 2 * rest then quotient + 1
  else quotient + quotient % 2

namespace Binary64

def zero (negative : Bool) : Binary64 :=
  ⟨negative, 0, minExponent⟩

def isZero (x : Binary64) : Bool :=
  x.significand == 0

def neg (x : Binary64) : Binary64 :=
  { x with negative := !x.negative }

/-- Numerator and denominator of `num / den / 2 ^ exponent`. -/
def scaled (num den : Nat) (exponent : Int) : Nat × Nat :=
  if 0 ≤ exponent then (num, den * Nat.pow 2 exponent.toNat) else (num * Nat.pow 2 (-exponent).toNat, den)

/-- The exponent at which the whole part of a quotient has at most 53 bits and, above the subnormal
numbers, exactly 53. -/
def exponentFor (num den : Nat) : Int :=
  let low := max ((Nat.log2 num : Int) - Nat.log2 den - 53) minExponent
  let (n, d) := scaled num den low
  if n / d < significandLimit then low else low + 1

/-- The positive number nearest to `num / den`; none if it lies beyond the largest. -/
def ofQuotient (num den : Nat) : Option Binary64 :=
  if num = 0 then some (zero false)
  else
    let exponent := exponentFor num den
    let (n, d) := scaled num den exponent
    let rounded := roundHalfEven n d
    let (significand, exponent) :=
      if rounded < significandLimit then (rounded, exponent) else (leastNormal, exponent + 1)
    if exponent ≤ maxExponent then some ⟨false, significand, exponent⟩ else none

/-- The product of two positive numbers. -/
def mul (x y : Binary64) : Option Binary64 :=
  let (num, den) := scaled (x.significand * y.significand) 1 (-(x.exponent + y.exponent))
  ofQuotient num den

/-- The quotient of two positive numbers. -/
def div (x y : Binary64) : Option Binary64 :=
  let (num, den) := scaled x.significand y.significand (-(x.exponent - y.exponent))
  ofQuotient num den

/-- The number nearest to a power of ten. -/
def powerOfTen (n : Nat) : Option Binary64 :=
  ofQuotient (Nat.pow 10 n) 1

end Binary64

end JobQueue.Decimal
