import VmControl.Number.Shortest
import VmControl.Text.Digits

/-!
Lengths of time and the two ways in which messages show them.
-/

namespace VmControl

/-- A length of time: whole seconds and nanoseconds below a second. -/
structure Duration where
  seconds : UInt64
  nanos : Nat
  /-- They are less than a second. -/
  nanos_lt : nanos < 1000000000
deriving DecidableEq

namespace Duration

/-- A number of milliseconds. -/
def ofMillis (ms : UInt64) : Duration :=
  ⟨ms / 1000, (ms % 1000).toNat * 1000000, by
    have : (ms % 1000).toNat < 1000 := by
      rw [UInt64.toNat_mod]
      exact Nat.mod_lt _ (by decide)
    omega⟩

def micros (d : Duration) : Nat := d.seconds.toNat * 1000000 + d.nanos / 1000

/-- A whole part with a fraction of the given number of places, as few as are exact. -/
def decimalText (whole fraction places : Nat) : List Char :=
  let digits := (Text.padded places fraction).reverse.dropWhile (· = '0') |>.reverse
  Text.digits whole ++ if digits.isEmpty then [] else '.' :: digits

/-- The text in the largest unit of which the length holds at least one: seconds, milliseconds,
microseconds or nanoseconds. -/
def text (d : Duration) : String :=
  String.ofList <|
    if 0 < d.seconds then decimalText d.seconds.toNat d.nanos 9 ++ ['s']
    else if 1000000 ≤ d.nanos then
      decimalText (d.nanos / 1000000) (d.nanos % 1000000) 6 ++ ['m', 's']
    else if 1000 ≤ d.nanos then decimalText (d.nanos / 1000) (d.nanos % 1000) 3 ++ ['µ', 's']
    else decimalText d.nanos 0 0 ++ ['n', 's']

/-- The length in seconds as a single-precision number: seconds and fraction are rounded before
they are added. -/
def roundedSeconds (d : Duration) : Magnitude :=
  binary32.add (binary32.ofNat d.seconds.toNat)
    (binary32.divide (binary32.ofNat d.nanos) (binary32.ofNat 1000000000))

/-- The seconds as a plain number. -/
def secondsText (d : Duration) : String := Shortest.plainText binary32 d.roundedSeconds

end Duration

end VmControl
