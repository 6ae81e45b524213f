import VmControl.Proofs.Progress

/-!
# Rates in words

A rate is told from a count of bytes and from the time that they took, and either may be as great as
its words allow. The time is cut to whole microseconds, the quotient is rounded down, and what does
not fit a word is told as the greatest word. All of it is computed within 128 bits.

* `rateMbps?`: the rate, with every step checked.
* `toNat_rateMbps`: the rate as a number, over every length of time.
* `rateMbps_exact`: no step fails, and what the rate says of the bytes and of the time.
-/

namespace VmControl

/-! ## Microseconds -/

namespace Duration

variable {d longer : Duration}

/-- The whole length in nanoseconds, by which lengths of time are compared. -/
def inNanos (d : Duration) : Nat := d.seconds.toNat * 1000000000 + d.nanos

theorem micros_eq (d : Duration) : d.micros = d.inNanos / 1000 := by
  unfold micros inNanos
  omega

theorem micros_pos (enough : 1000 ≤ d.inNanos) : 0 < d.micros := by
  rw [micros_eq]
  exact Nat.div_pos enough (by decide)

/-- What is shorter than a microsecond holds none. -/
theorem micros_eq_zero (brief : d.inNanos < 1000) : d.micros = 0 := by
  rw [micros_eq]
  exact Nat.div_eq_of_lt brief

theorem micros_mono (le : d.inNanos ≤ longer.inNanos) : d.micros ≤ longer.micros := by
  rw [micros_eq, micros_eq]
  exact Nat.div_le_div_right le

/-- The whole microseconds of a length of time, with every step checked. -/
def micros? (d : Duration) : Option Nat := do
  let whole ← Checked.mul d.seconds.toNat 1000000
  let part ← Checked.div d.nanos 1000
  Checked.add whole part

theorem micros?_eq (d : Duration) : d.micros? = some d.micros := by
  have word : d.seconds.toNat < 2 ^ 64 := d.seconds.toNat_lt
  have below : d.nanos < 1000000000 := d.nanos_lt
  have sum : d.seconds.toNat * 1000000 + d.nanos / 1000 < 2 ^ 128 := by omega
  have whole : d.seconds.toNat * 1000000 < 2 ^ 128 := Nat.lt_of_le_of_lt (Nat.le_add_right ..) sum
  rw [micros?, Checked.mul_of_lt whole, Option.bind_eq_bind, Option.bind_some,
    Checked.div_of_pos _ (by decide), Option.bind_some]
  exact Checked.add_of_lt sum

end Duration

/-! ## Rates -/

variable {bytes : UInt64} {elapsed : Duration}

/-- The rate as a number. No case is needed for a length without a whole microsecond: a quotient by
zero is zero. -/
theorem toNat_rateMbps (bytes : UInt64) (elapsed : Duration) :
    (rateMbps bytes elapsed).toNat = min (2 ^ 64 - 1) (8 * bytes.toNat / elapsed.micros) := by
  unfold rateMbps
  split
  · next none =>
    rw [none, Nat.div_zero]
    rfl
  · have kept : min (bytes.toNat * 8 / elapsed.micros) (UInt64.size - 1) < 2 ^ 64 := by
      have size : UInt64.size = 2 ^ 64 := rfl
      omega
    rw [UInt64.toNat_ofNat', Nat.mod_eq_of_lt kept, Nat.mul_comm, Nat.min_comm]
    rfl

/-- More bytes over the same time are told as no smaller a rate. -/
theorem rateMbps_mono {more : UInt64} (fewer : bytes ≤ more) :
    rateMbps bytes elapsed ≤ rateMbps more elapsed := by
  rw [UInt64.le_iff_toNat_le] at fewer
  rw [UInt64.le_iff_toNat_le, toNat_rateMbps, toNat_rateMbps]
  have quotients : 8 * bytes.toNat / elapsed.micros ≤ 8 * more.toNat / elapsed.micros :=
    Nat.div_le_div_right (Nat.mul_le_mul_left 8 fewer)
  omega

/-- The same bytes over a longer time are told as no greater a rate. The shorter time holds a whole
microsecond, since what holds none is told as zero. -/
theorem rateMbps_anti {longer : Duration} (enough : 1000 ≤ elapsed.inNanos)
    (le : elapsed.inNanos ≤ longer.inNanos) : rateMbps bytes longer ≤ rateMbps bytes elapsed := by
  rw [UInt64.le_iff_toNat_le, toNat_rateMbps, toNat_rateMbps]
  have quotients : 8 * bytes.toNat / longer.micros ≤ 8 * bytes.toNat / elapsed.micros :=
    Nat.div_le_div_left (Duration.micros_mono le) (Duration.micros_pos enough)
  omega

/-- The rate, with every step checked. Only the last step has an answer where its result does not
fit. -/
def rateMbps? (bytes : UInt64) (elapsed : Duration) : Option UInt64 := do
  let micros ← elapsed.micros?
  if micros = 0 then some 0
  else do
    let bits ← Checked.mul bytes.toNat 8
    let rate ← Checked.div bits micros
    some ((Checked.word rate).getD 0xffffffffffffffff)

theorem Checked.word_getD (n : Nat) :
    (Checked.word n).getD 0xffffffffffffffff = UInt64.ofNat (min n (UInt64.size - 1)) := by
  have size : UInt64.size = 2 ^ 64 := rfl
  unfold Checked.word
  split
  · next fits =>
    rw [Nat.min_eq_left (by omega)]
    rfl
  · next beyond =>
    rw [Nat.min_eq_right (by omega)]
    rfl

theorem rateMbps?_eq (bytes : UInt64) (elapsed : Duration) :
    rateMbps? bytes elapsed = some (rateMbps bytes elapsed) := by
  rw [rateMbps?, rateMbps, Duration.micros?_eq, Option.bind_eq_bind, Option.bind_some]
  split
  · rfl
  · next positive =>
    have word : bytes.toNat < 2 ^ 64 := bytes.toNat_lt
    have bits : bytes.toNat * 8 < 2 ^ 128 := by omega
    rw [Checked.mul_of_lt bits, Option.bind_some,
      Checked.div_of_pos _ (Nat.pos_of_ne_zero positive), Option.bind_some, Checked.word_getD]

/-- What a rate says of the bytes and of the time that they took. -/
structure RateOf (bytes : UInt64) (elapsed : Duration) (rate : UInt64) : Prop where
  /-- No sum and no product exceeds 128 bits, and nothing is divided by zero. -/
  fits : rateMbps? bytes elapsed = some rate
  brief : elapsed.inNanos < 1000 → rate = 0
  value : 1000 ≤ elapsed.inNanos →
    rate.toNat = min (2 ^ 64 - 1) (8 * bytes.toNat / (elapsed.inNanos / 1000))
  more : ∀ more, bytes ≤ more → rate ≤ rateMbps more elapsed
  longer : 1000 ≤ elapsed.inNanos →
    ∀ longer : Duration, elapsed.inNanos ≤ longer.inNanos → rateMbps bytes longer ≤ rate

/-- Whatever the count and the time are, the rate is computed within 128 bits and is exact. -/
theorem rateMbps_exact (bytes : UInt64) (elapsed : Duration) :
    RateOf bytes elapsed (rateMbps bytes elapsed) where
  fits := rateMbps?_eq bytes elapsed
  brief brief := if_pos (Duration.micros_eq_zero brief)
  value _ := by
    rw [toNat_rateMbps, Duration.micros_eq]
  more _ fewer := rateMbps_mono fewer
  longer enough _ le := rateMbps_anti enough le

/-- A nanosecond short of eight microseconds counts as seven, and over seven the greatest count is
more than a word can tell. -/
example : rateMbps 0xffffffffffffffff ⟨0, 7999, by decide⟩ = 0xffffffffffffffff := by decide

end VmControl
