/-!
Civil dates in the Gregorian calendar, counted in days from 1 January 1970.

Main statement:

- `Civil.isLeap_iff`: the leap years.
-/

namespace VmControl

namespace Civil

/-- Whether a year has a 29 February. -/
def isLeap (year : Int) : Bool := year % 4 = 0 && (year % 100 ≠ 0 || year % 400 = 0)

/-- The days from 1 January 1970 to 1 January of a year. -/
def yearStart (year : Int) : Int :=
  let before := year - 1
  365 * before + before / 4 - before / 100 + before / 400 - 719162

/-- The lengths of the months. -/
def monthLengths (leap : Bool) : List Nat :=
  [31, if leap then 29 else 28, 31, 30, 31, 30, 31, 31, 30, 31, 30, 31]

/-- The length of a month, counted from one; no other number is a month. -/
def monthLength (leap : Bool) (month : Nat) : Nat :=
  if month = 0 then 0 else (monthLengths leap).getD (month - 1) 0

/-- The day of the year, counted from zero, of a month and a day counted from one. -/
def dayOfYear (leap : Bool) (month day : Nat) : Nat :=
  ((monthLengths leap).take (month - 1)).foldr (· + ·) 0 + (day - 1)

/-- The month and the day, counted from one, of a day of the year, looking from a month on. -/
def monthDayFrom : List Nat → Nat → Nat → Nat × Nat
  | [], month, rest => (month, rest + 1)
  | length :: lengths, month, rest =>
    if rest < length then (month, rest + 1) else monthDayFrom lengths (month + 1) (rest - length)

/-- The month and the day, counted from one, of a day of the year. -/
def monthDay (leap : Bool) (day : Nat) : Nat × Nat := monthDayFrom (monthLengths leap) 1 day

/-- Whether a date exists. -/
def isDate (year : Int) (month day : Nat) : Bool :=
  1 ≤ month && month ≤ 12 && 1 ≤ day && day ≤ monthLength (isLeap year) month

/-- The days from 1 January 1970 to a date. -/
def toDays (year : Int) (month day : Nat) : Int :=
  yearStart year + dayOfYear (isLeap year) month day

/-- The year in which a day lies: the year of average length, or one of its neighbours. -/
def yearOf (days : Int) : Int :=
  let guess := (days + 719162) * 400 / 146097 + 1
  if days < yearStart guess then guess - 1
  else if yearStart (guess + 1) ≤ days then guess + 1
  else guess

/-- The year, month and day of a day. -/
def ofDays (days : Int) : Int × Nat × Nat :=
  let year := yearOf days
  let (month, day) := monthDay (isLeap year) (days - yearStart year).toNat
  (year, month, day)

/-- A year is a leap year if it is divisible by four and not by a hundred, or by four hundred. -/
theorem isLeap_iff (year : Int) :
    isLeap year = true ↔ year % 4 = 0 ∧ (year % 100 ≠ 0 ∨ year % 400 = 0) := by
  simp [isLeap]

end Civil

end VmControl
