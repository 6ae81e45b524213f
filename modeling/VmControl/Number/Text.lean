import VmControl.Json.Basic

/-!
The value of a number text.

A whole number in the 64-bit ranges is exact. Everything else is a double, computed in three
roundings: the digits are collected in one unsigned word until it is full, the word is rounded, and
the power of ten, itself rounded, is multiplied in or divided out. A double beyond the largest has
no value.
-/

namespace VmControl

/-- The parts of a number as it was written. -/
structure NumberText where
  /-- Whether a minus sign stands in front. -/
  negative : Bool
  /-- The digits before the point. -/
  whole : List Nat
  /-- The digits behind the point. -/
  fraction : List Nat
  /-- The sign of the exponent, `true` for minus, and its digits. -/
  exponent : Option (Bool × List Nat)
  /-- Whether there was a point. -/
  pointed : Bool

namespace NumberText

/-- Digits collected so far: a word, and the power of ten that goes with it. -/
structure Collected where
  /-- The digits that fit the word. -/
  significand : Nat
  /-- The power of ten of its last digit. -/
  power : Int
  /-- Whether a digit has been left out. -/
  full : Bool

/-- Whether one more digit still fits the word. -/
def fits (significand digit : Nat) : Bool := decide (significand * 10 + digit < UInt64.size)

/-- Takes a digit before the point: once one does not fit, all further ones only raise the power. -/
def Collected.takeWhole (c : Collected) (digit : Nat) : Collected :=
  if c.full || !fits c.significand digit then { c with power := c.power + 1, full := true }
  else { c with significand := c.significand * 10 + digit }

/-- Takes a digit behind the point: once one does not fit, all further ones are ignored. -/
def Collected.takeFraction (c : Collected) (digit : Nat) : Collected :=
  if c.full || !fits c.significand digit then { c with full := true }
  else { c with significand := c.significand * 10 + digit, power := c.power - 1 }

/-- The digits before the point. -/
def collectWhole (t : NumberText) : Collected := t.whole.foldl Collected.takeWhole ⟨0, 0, false⟩

/-- All digits. The word is asked anew behind the point. -/
def collect (t : NumberText) : Collected :=
  t.fraction.foldl Collected.takeFraction { t.collectWhole with full := false }

/-- The largest power of ten that is applied in one step. -/
def greatestPower : Nat := 308

/-- Ten to a power as a double. -/
def tenTo (power : Nat) : Magnitude := binary64.ofNat (Nat.pow 10 power)

/-- Divides by powers of ten until nothing is left to divide by, or nothing to divide. -/
def divideDown (m : Magnitude) (power : Nat) : Magnitude :=
  if m.isZero then m
  else if _small : power ≤ greatestPower then binary64.divide m (tenTo power)
  else divideDown (binary64.divide m (tenTo greatestPower)) (power - greatestPower)
termination_by power
decreasing_by simp only [greatestPower] at *; omega

/-- The double with the given digits and power of ten, unless it lies beyond the largest. -/
def magnitude? (significand : Nat) (power : Int) : Option Magnitude :=
  let m := binary64.ofNat significand
  if power < 0 then some (divideDown m power.natAbs)
  else if power.natAbs ≤ greatestPower then
    let product := binary64.multiply m (tenTo power.natAbs)
    if binary64.overflows product then none else some product
  else if m.isZero then some m else none

/-- The greatest exponent that is told apart from infinity. -/
def exponentLimit : Nat := 0x7fffffff

/-- The exponent as written, or `none` for one above the limit. -/
def exponentSize (digits : List Nat) : Option Nat :=
  digits.foldl (fun size digit => size.bind fun n =>
    if n * 10 + digit ≤ exponentLimit then some (n * 10 + digit) else none) (some 0)

/-- A power of ten kept within the range of exponents. -/
def clampPower (power : Int) : Int := max (-0x80000000) (min exponentLimit power)

/-- The magnitude of a number that is not a whole number of the 64-bit ranges. -/
def realMagnitude? (t : NumberText) : Option Magnitude :=
  let c := t.collect
  match t.exponent with
  | none => magnitude? c.significand c.power
  | some (minus, digits) =>
    match exponentSize digits with
    | some size =>
      magnitude? c.significand (clampPower (if minus then c.power - size else c.power + size))
    | none => if c.significand ≠ 0 && !minus then none else some (binary64.ofNat 0)

/-- The value of a number text; nothing for a double beyond the largest. -/
def value? (t : NumberText) : Option Number :=
  let c := t.collectWhole
  if t.pointed || t.exponent.isSome || c.full
      || (t.negative && (c.significand == 0 || decide (0x8000000000000000 < c.significand))) then
    t.realMagnitude?.map (fun m => .real ⟨t.negative, m⟩)
  else some (.whole (if t.negative then -(c.significand : Int) else c.significand))

end NumberText

end VmControl
