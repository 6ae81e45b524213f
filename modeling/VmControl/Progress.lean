import VmControl.Time.Duration

/-!
Progress of a transfer, in bytes, percent and megabits per second.

All counters are 64-bit words and come unchecked from outside. Main statements:

- `Progress.transferred_add_remaining`: what is done and what is left make the total;
- `percentOf_le`: no share is above a hundred percent.
-/

namespace VmControl

structure Progress where
  total : UInt64
  /-- The bytes still to go. -/
  remaining : UInt64
  transferred : UInt64
  /-- The share transferred, in whole percent. -/
  percent : UInt8
  /-- The speed in megabits per second. -/
  speedMbps : UInt64
deriving DecidableEq

/-- The share of a part in a whole in percent, rounded down; nothing of nothing is all of it. -/
def percentOf (part whole : UInt64) : UInt8 :=
  if whole = 0 then 100
  else UInt8.ofNat (min part.toNat whole.toNat * 100 / whole.toNat)

/-- The rate of a transfer in megabits per second, rounded down and kept within 64 bits; zero over
less than a microsecond. -/
def rateMbps (bytes : UInt64) (elapsed : Duration) : UInt64 :=
  if elapsed.micros = 0 then 0
  else UInt64.ofNat (min (bytes.toNat * 8 / elapsed.micros) (UInt64.size - 1))

namespace Progress

/-- The report before anything is known. -/
def initial : Progress := ⟨0, 0, 0, 0, 0⟩

/-- The report of a total and a count, which is cut to the total. -/
def ofCounters (total transferred : UInt64) : Progress :=
  let done := min transferred total
  ⟨total, total - done, done, percentOf done total, 0⟩

/-- The report with a speed. -/
def withSpeed (p : Progress) (speed : UInt64) : Progress := { p with speedMbps := speed }

/-- The report of a finished transfer. -/
def done (total : UInt64) : Progress := ofCounters total total

theorem min_le_right (a b : UInt64) : min a b ≤ b := by
  show (if a ≤ b then a else b) ≤ b
  split
  · assumption
  · exact UInt64.le_refl b

/-- What is done and what is left make the total. -/
theorem transferred_add_remaining (total transferred : UInt64) :
    (ofCounters total transferred).transferred.toNat +
    (ofCounters total transferred).remaining.toNat
      = total.toNat := by
  have small : (min transferred total).toNat ≤ total.toNat :=
    UInt64.le_iff_toNat_le.mp (min_le_right transferred total)
  simp only [ofCounters]
  rw [UInt64.toNat_sub_of_le _ _ (min_le_right transferred total)]
  omega

end Progress

/-- No share is above a hundred percent. -/
theorem percentOf_le (part whole : UInt64) : (percentOf part whole).toNat ≤ 100 := by
  rw [percentOf]
  split
  · decide
  · next positive =>
    have : 0 < whole.toNat := by
      rcases Nat.eq_zero_or_pos whole.toNat with zero | pos
      · exact absurd (UInt64.toNat_inj.mp (by simpa using zero)) positive
      · exact pos
    have bound : min part.toNat whole.toNat * 100 / whole.toNat ≤ 100 := by
      apply Nat.div_le_of_le_mul
      rw [Nat.mul_comm whole.toNat]
      have := Nat.min_le_right part.toNat whole.toNat
      omega
    rw [UInt8.toNat_ofNat', Nat.mod_eq_of_lt (by omega)]
    exact bound

end VmControl
