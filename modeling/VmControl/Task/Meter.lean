import VmControl.Progress

/-!
The speed of a transfer, from one count of its bytes to the next.
-/

namespace VmControl

/-- The last count and when it was taken, in milliseconds. -/
structure Meter where
  /-- The last count, if there is one. -/
  last : Option (UInt64 × Nat)
deriving DecidableEq

namespace Meter

/-- The meter before the first count. -/
def new : Meter := ⟨none⟩

/-- The speed since the last count, and the meter with a new one. -/
def sample (m : Meter) (count : UInt64) (now : Nat) : UInt64 × Meter :=
  (match m.last with
    | some (before, moment) =>
      if before ≤ count then
        rateMbps (count - before) (Duration.ofMillis (UInt64.ofNat (now - moment)))
      else 0
    | none => 0, ⟨some (count, now)⟩)

end Meter

end VmControl
