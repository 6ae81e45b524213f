import VmControl.Text.Blank
import VmControl.Text.Digits
import VmControl.Time.Civil

/-!
Points in time, to the nanosecond, in universal time.

A leap second is kept as a second whose fraction runs past a full second. The written form is the
internet date and time with `Z`; reading is more liberal and takes any offset, a blank in place of
the `T`, and blanks between the parts. Main statements:

- `Timestamp.lt_iff`: points in time are ordered by second and then by fraction;
- `Timestamp.ofSeconds?_eq_some_iff`: which seconds are points in time.
-/

namespace VmControl

/-- A point in time: the seconds since 1 January 1970 and the fraction in nanoseconds. The fraction
is below `10 ^ 9`, or below `2 * 10 ^ 9` in a leap second. -/
structure Timestamp where
  /-- Seconds since 1 January 1970. -/
  seconds : Int
  nanos : Nat
deriving DecidableEq

namespace Timestamp

def lt (a b : Timestamp) : Prop :=
  a.seconds < b.seconds ∨ (a.seconds = b.seconds ∧ a.nanos < b.nanos)

instance : LT Timestamp := ⟨lt⟩

instance : LE Timestamp := ⟨fun a b => ¬ b < a⟩

instance (a b : Timestamp) : Decidable (a < b) :=
  inferInstanceAs (Decidable (a.seconds < b.seconds ∨ (a.seconds = b.seconds ∧ a.nanos < b.nanos)))

instance (a b : Timestamp) : Decidable (a ≤ b) := inferInstanceAs (Decidable (¬ b < a))

theorem lt_iff {a b : Timestamp} :
    a < b ↔ a.seconds < b.seconds ∨ (a.seconds = b.seconds ∧ a.nanos < b.nanos) := Iff.rfl

theorem le_iff {a b : Timestamp} :
    a ≤ b ↔ a.seconds < b.seconds ∨ (a.seconds = b.seconds ∧ a.nanos ≤ b.nanos) := by
  show ¬ b < a ↔ _
  rw [lt_iff]
  omega

/-- The first year with points in time. -/
def leastYear : Int := -262143

/-- The last year with points in time. -/
def greatestYear : Int := 262142

/-- The seconds of a day. -/
def daySeconds : Int := 86400

/-- Whether a second lies in the years that have points in time. -/
def inRange (seconds : Int) : Bool :=
  decide (Civil.yearStart leastYear * daySeconds ≤ seconds)
    && decide (seconds < Civil.yearStart (greatestYear + 1) * daySeconds)

/-- The point in time with the given second and fraction, if it is in range. -/
def ofSeconds? (seconds : Int) (nanos : Nat) : Option Timestamp :=
  if inRange seconds then some ⟨seconds, nanos⟩ else none

theorem ofSeconds?_eq_some_iff {seconds : Int} {nanos : Nat} {t : Timestamp} :
    ofSeconds? seconds nanos = some t ↔ inRange seconds = true ∧ t = ⟨seconds, nanos⟩ := by
  rw [ofSeconds?]
  split
  · next inside => simp [inside, eq_comm]
  · next outside => simp [outside]

/-- The point in time a number of milliseconds after 1 January 1970. -/
def ofMillis (ms : Int) : Timestamp := ⟨ms / 1000, ((ms % 1000) * 1000000).toNat⟩

/-- The point in time a number of milliseconds earlier. -/
def backBy (t : Timestamp) (ms : Int) : Timestamp :=
  let nanos : Int := t.seconds * 1000000000 + t.nanos - ms * 1000000
  ⟨nanos / 1000000000, (nanos % 1000000000).toNat⟩

/-! ## The written form -/

/-- A year: four digits, or a sign and at least four digits outside the years 0 to 9999. -/
def yearText (year : Int) : List Char :=
  if 0 ≤ year ∧ year ≤ 9999 then Text.padded 4 year.toNat
  else (if year < 0 then '-' else '+') :: Text.padded 4 year.natAbs

/-- A fraction: nothing, or a point and three, six or nine digits, the fewest that are exact. -/
def fractionText (nanos : Nat) : List Char :=
  if nanos = 0 then []
  else if nanos % 1000000 = 0 then '.' :: Text.padded 3 (nanos / 1000000)
  else if nanos % 1000 = 0 then '.' :: Text.padded 6 (nanos / 1000)
  else '.' :: Text.padded 9 nanos

def text (t : Timestamp) : String :=
  let (year, month, day) := Civil.ofDays (t.seconds / daySeconds)
  let clock := (t.seconds % daySeconds).toNat
  let leap := decide (1000000000 ≤ t.nanos)
  let second := clock % 60 + if leap then 1 else 0
  let nanos := t.nanos - if leap then 1000000000 else 0
  String.ofList <|
    yearText year ++ '-' :: Text.padded 2 month ++ '-' :: Text.padded 2 day ++ 'T' ::
      Text.padded 2 (clock / 3600) ++ ':' :: Text.padded 2 (clock / 60 % 60) ++ ':' ::
      Text.padded 2 second ++ fractionText nanos ++ ['Z']

/-! ## Reading -/

/-- A given character behind blanks. -/
def mark? (c : Char) (s : List Char) : Option (List Char) :=
  match Text.skipBlanks s with
  | d :: rest => if c = d then some rest else none
  | [] => none

/-- A number of one or two digits behind blanks. -/
def pair? (s : List Char) : Option (Nat × List Char) := Text.number? 2 (Text.skipBlanks s)

/-- A year behind blanks: up to four digits, or a sign and any number of digits. -/
def year? (s : List Char) : Option (Int × List Char) :=
  match Text.skipBlanks s with
  | '-' :: rest => (Text.number? rest.length rest).map (fun (n, r) => (-(n : Int), r))
  | '+' :: rest => (Text.number? rest.length rest).map (fun (n, r) => ((n : Int), r))
  | s => (Text.number? 4 s).map (fun (n, r) => ((n : Int), r))

/-- The fraction of a second, if a point follows: nine digits count, further ones are dropped. -/
def fraction? : List Char → Option (Nat × List Char)
  | '.' :: rest =>
    match Text.takeDigits 9 rest with
    | ([], _) => none
    | (ds, rest) =>
      some (Text.ofDigits ds * Nat.pow 10 (9 - ds.length),
        rest.dropWhile (fun c => (Text.digit? c).isSome))
  | s => some (0, s)

/-- Whether a text begins with the letters of universal time, in either case. -/
def universal? (s : List Char) : Option (List Char) :=
  match s with
  | u :: t :: c :: rest =>
    if (u = 'U' ∨ u = 'u') ∧ (t = 'T' ∨ t = 't') ∧ (c = 'C' ∨ c = 'c') then some rest else none
  | _ => none

/-- The hours and minutes of an offset, in seconds. -/
def offsetSize? (s : List Char) : Option (Int × List Char) :=
  match s with
  | h :: h' :: rest =>
    match Text.digit? h, Text.digit? h' with
    | some a, some b =>
      match rest.dropWhile (fun c => c = ':' || Text.isBlank c) with
      | m :: m' :: rest =>
        match Text.digit? m, Text.digit? m' with
        | some x, some y =>
          if x < 6 then some (((a * 10 + b) * 3600 + (x * 10 + y) * 60 : Nat), rest) else none
        | _, _ => none
      | _ => none
    | _, _ => none
  | _ => none

/-- An offset from universal time in seconds: a letter, or a sign with hours and minutes. -/
def offset? (s : List Char) : Option (Int × List Char) :=
  match universal? s with
  | some rest => some (0, rest)
  | none =>
    match s with
    | 'Z' :: rest | 'z' :: rest => some (0, rest)
    | '+' :: rest => offsetSize? rest
    | '-' :: rest | '\u2212' :: rest => (offsetSize? rest).map (fun (n, r) => (-n, r))
    | _ => none

/-- The character between date and time. -/
def separator? : List Char → Option (List Char)
  | 'T' :: rest | 't' :: rest | ' ' :: rest => some rest
  | _ => none

/-- Reads a date and time with an offset. -/
def ofText? (s : String) : Option Timestamp := do
  let (year, s) ← year? s.toList
  let s ← mark? '-' s
  let (month, s) ← pair? s
  let s ← mark? '-' s
  let (day, s) ← pair? s
  let s ← separator? s
  let (hour, s) ← pair? s
  let s ← mark? ':' s
  let (minute, s) ← pair? s
  let s ← mark? ':' s
  let (second, s) ← pair? s
  let (fraction, s) ← fraction? s
  let (offset, s) ← offset? (Text.skipBlanks s)
  if Text.allBlank s ∧ leastYear ≤ year ∧ year ≤ greatestYear ∧ Civil.isDate year month day = true
      ∧ hour < 24 ∧ minute < 60 ∧ second ≤ 60 ∧ -daySeconds < offset ∧ offset < daySeconds then
    let leap := decide (second = 60)
    let clock : Int := (hour * 3600 + minute * 60 + (if leap then 59 else second) : Nat)
    ofSeconds? (Civil.toDays year month day * daySeconds + clock - offset)
      (fraction + if leap then 1000000000 else 0)
  else none

end Timestamp

end VmControl
