import VmControl.Number.Binary

/-!
The shortest decimal of a binary magnitude, and the texts made of it.

Of all decimals that round to a magnitude the ones with the fewest digits are taken, and of those
the nearest. The search goes down the decimal grids from coarse to fine and stops at the first that
has a point in the interval of numbers rounding to the magnitude.
-/

namespace VmControl

/-- The decimal `digits * 10 ^ power`. -/
structure Decimal where
  /-- The digits as a whole number. -/
  digits : Nat
  power : Int
deriving DecidableEq

namespace Shortest

/-- The interval of numbers that round to one magnitude, over a common denominator. -/
structure Interval where
  /-- Four times the magnitude, in the units of the bounds. -/
  centre : Nat
  low : Nat
  high : Nat
  /-- What the three are divided by. -/
  divisor : Nat
  /-- Whether the bounds themselves round to the magnitude. -/
  closed : Bool

/-- The interval of a magnitude: half a step to either side, and a quarter of one below the least
significand of a binade, where the steps are half as wide. -/
def interval (f : BinaryFormat) (m : Magnitude) : Interval :=
  let narrow := m.significand == Nat.pow 2 (f.precision - 1) && decide (f.least < m.exponent)
  let scale := Nat.pow 2 (m.exponent - 2).toNat
  { centre := 4 * m.significand * scale
    low := (4 * m.significand - if narrow then 1 else 2) * scale
    high := (4 * m.significand + 2) * scale
    divisor := Nat.pow 2 (2 - m.exponent).toNat
    closed := m.significand % 2 == 0 }

/-- The point of the grid of `10 ^ power` that lies in the interval and is nearest to its centre, a
tie going to the even point. -/
def pointOnGrid (i : Interval) (power : Int) : Option Nat :=
  let up := Nat.pow 10 (-power).toNat
  let step := i.divisor * Nat.pow 10 power.toNat
  let centre := i.centre * up
  let below := centre / step
  let above := below + 1
  let inside (point : Nat) : Bool :=
    let at_ := point * step
    if i.closed then decide (i.low * up ≤ at_) && decide (at_ ≤ i.high * up)
    else decide (i.low * up < at_) && decide (at_ < i.high * up)
  let gapBelow := centre - below * step
  let gapAbove := above * step - centre
  match inside below, inside above with
  | true, false => some below
  | false, true => some above
  | true, true =>
    if gapBelow < gapAbove then some below
    else if gapAbove < gapBelow then some above
    else if below % 2 = 0 then some below else some above
  | false, false => none

/-- The first grid with a point, from `10 ^ power` downwards. -/
def search (i : Interval) : Nat → Int → Decimal
  | 0, power => ⟨i.centre, power⟩
  | grids + 1, power =>
    match pointOnGrid i power with
    | some point => ⟨point, power⟩
    | none => search i grids (power - 1)

/-- The shortest decimal that rounds to a positive magnitude. Every magnitude is a decimal with as
many places as its exponent is below zero, so the search ends within that many grids. -/
def decimal (f : BinaryFormat) (m : Magnitude) : Decimal :=
  let i := interval f m
  let whole := (Nat.toDigits 10 (i.high / i.divisor)).length
  search i (whole + (2 - f.least).toNat + 1) whole

/-- The digits of a decimal. -/
def digitText (d : Decimal) : List Char := Nat.toDigits 10 d.digits

/-- The text without an exponent: a point only where there are places behind it. -/
def positional (digits : List Char) (power : Int) : List Char :=
  let whole : Int := digits.length + power
  if 0 ≤ power then digits ++ List.replicate power.toNat '0'
  else if 0 < whole then digits.take whole.toNat ++ '.' :: digits.drop whole.toNat
  else '0' :: '.' :: (List.replicate (-whole).toNat '0' ++ digits)

/-- The text with an exponent: one digit, the other digits behind a point, and the power of ten with
its sign and without padding. -/
def scientific (digits : List Char) (power : Int) : List Char :=
  let exponent : Int := digits.length + power - 1
  let mantissa := match digits with
    | [] => []
    | [d] => [d]
    | d :: rest => d :: '.' :: rest
  mantissa ++ 'e' :: (if 0 ≤ exponent then '+' else '-') :: Nat.toDigits 10 exponent.natAbs

/-- The plain text of a magnitude: never an exponent, and no point in a whole number. -/
def plainText (f : BinaryFormat) (m : Magnitude) : String :=
  if m.isZero then "0"
  else
    let d := decimal f m
    String.ofList (positional (digitText d) d.power)

/-- The text of a magnitude in a data format where numbers with a point and whole numbers differ:
positional from `1e-5` up to `1e16` with at least one place, with an exponent elsewhere. -/
def markedText (f : BinaryFormat) (m : Magnitude) : String :=
  if m.isZero then "0.0"
  else
    let d := decimal f m
    let digits := digitText d
    let whole : Int := digits.length + d.power
    if whole ≤ -5 ∨ 16 < whole then String.ofList (scientific digits d.power)
    else if 0 ≤ d.power then String.ofList (positional digits d.power ++ ['.', '0'])
    else String.ofList (positional digits d.power)

end Shortest

end VmControl
