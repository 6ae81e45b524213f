/-!
Binary floating-point magnitudes as exact fractions.

A magnitude is a significand times a power of two. Every operation is the exact operation on
fractions followed by one rounding to the nearest representable magnitude, a tie going to the even
significand, which is how the standard formats compute.
-/

namespace VmControl

/-- A binary floating-point format: the bits of a significand and the range of the exponent. -/
structure BinaryFormat where
  /-- The number of bits of a significand. -/
  precision : Nat
  /-- The exponent of the smallest step. -/
  least : Int
  /-- The exponent of the largest step. -/
  greatest : Int

/-- The format of 64 bits. -/
def binary64 : BinaryFormat := ⟨53, -1074, 971⟩

/-- The format of 32 bits. -/
def binary32 : BinaryFormat := ⟨24, -149, 104⟩

/-- The magnitude `significand * 2 ^ exponent`. -/
structure Magnitude where
  significand : Nat
  exponent : Int
deriving DecidableEq

namespace Magnitude

/-- The numerator of a magnitude as a fraction. -/
def numerator (m : Magnitude) : Nat := m.significand * Nat.pow 2 m.exponent.toNat

/-- The denominator of a magnitude as a fraction. -/
def denominator (m : Magnitude) : Nat := Nat.pow 2 (-m.exponent).toNat

/-- Whether a magnitude is zero. -/
def isZero (m : Magnitude) : Bool := m.significand == 0

end Magnitude

namespace BinaryFormat

/-- A quotient rounded to the nearest whole number, a tie to the even one. -/
def divideToEven (dividend divisor : Nat) : Nat :=
  let quotient := dividend / divisor
  let rest := dividend % divisor
  if 2 * rest > divisor ∨ (2 * rest = divisor ∧ quotient % 2 = 1) then quotient + 1 else quotient

/-- The fraction `dividend / divisor` counted in steps of `2 ^ exponent`, as dividend and
divisor. -/
def inSteps (dividend divisor : Nat) (exponent : Int) : Nat × Nat :=
  (dividend * Nat.pow 2 (-exponent).toNat, divisor * Nat.pow 2 exponent.toNat)

/-- The exponent of the step in which a positive fraction is counted: the one that gives the
quotient all bits of the precision, and never less than the least. -/
def stepExponent (f : BinaryFormat) (dividend divisor : Nat) : Int :=
  let low : Int := (dividend.log2 : Int) - divisor.log2 - f.precision
  let (n, d) := inSteps dividend divisor low
  max f.least (if n / d ≥ Nat.pow 2 f.precision then low + 1 else low)

/-- The magnitude nearest to a fraction. The exponent is not bounded above. -/
def round (f : BinaryFormat) (dividend divisor : Nat) : Magnitude :=
  if dividend = 0 then ⟨0, f.least⟩
  else
    let exponent := f.stepExponent dividend divisor
    let (n, d) := inSteps dividend divisor exponent
    let significand := divideToEven n d
    if significand ≥ Nat.pow 2 f.precision then ⟨Nat.pow 2 (f.precision - 1), exponent + 1⟩
    else ⟨significand, exponent⟩

/-- Whether a rounded magnitude lies beyond the largest of the format. -/
def overflows (f : BinaryFormat) (m : Magnitude) : Bool := decide (f.greatest < m.exponent)

/-- A whole number in the format. -/
def ofNat (f : BinaryFormat) (n : Nat) : Magnitude := f.round n 1

/-- The product, rounded once. -/
def multiply (f : BinaryFormat) (a b : Magnitude) : Magnitude :=
  f.round (a.numerator * b.numerator) (a.denominator * b.denominator)

/-- The quotient, rounded once. -/
def divide (f : BinaryFormat) (a b : Magnitude) : Magnitude :=
  f.round (a.numerator * b.denominator) (a.denominator * b.numerator)

/-- The sum, rounded once. -/
def add (f : BinaryFormat) (a b : Magnitude) : Magnitude :=
  f.round (a.numerator * b.denominator + b.numerator * a.denominator)
    (a.denominator * b.denominator)

end BinaryFormat

end VmControl
