/-!
Decimal numerals inside texts: reading a run of digits and writing a number with leading zeros.
-/

namespace VmControl

namespace Text

/-- The value of a decimal digit. -/
def digit? (c : Char) : Option Nat :=
  if '0' ≤ c ∧ c ≤ '9' then some (c.toNat - 48) else none

/-- The number that a list of digits spells. -/
def ofDigits (digits : List Nat) : Nat := digits.foldl (fun n d => n * 10 + d) 0

/-- The digits at the front of a text, at most `limit` of them, and the text behind them. -/
def takeDigits : Nat → List Char → List Nat × List Char
  | 0, s => ([], s)
  | _ + 1, [] => ([], [])
  | limit + 1, c :: rest =>
    match digit? c with
    | some d => let (ds, rest) := takeDigits limit rest; (d :: ds, rest)
    | none => ([], c :: rest)

/-- A number of one digit at least and `limit` at most at the front of a text. -/
def number? (limit : Nat) (s : List Char) : Option (Nat × List Char) :=
  match takeDigits limit s with
  | ([], _) => none
  | (ds, rest) => some (ofDigits ds, rest)

/-- The digits of a number. -/
def digits (n : Nat) : List Char := Nat.toDigits 10 n

/-- The digits of a number, with zeros in front up to a width. -/
def padded (width n : Nat) : List Char :=
  let ds := digits n
  List.replicate (width - ds.length) '0' ++ ds

/-- The number a whole text spells: digits, with a plus sign in front or without one. -/
def unsigned? (s : String) : Option Nat :=
  let body := match s.toList with
    | '+' :: rest => rest
    | all => all
  match takeDigits body.length body with
  | ([], _) => none
  | (ds, []) => some (ofDigits ds)
  | (_, _ :: _) => none

end Text

end VmControl
