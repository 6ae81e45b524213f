import Mathlib.Algebra.Group.Nat.Defs
import VmControl.Progress

/-!
# Progress in words

Counters come unchecked from outside, over the whole range of a word. The report that is made of
them is computed without leaving the words, and it says what the same computation says on numbers.

* `Checked`: arithmetic that gives nothing where a result does not fit.
* `Progress.ofCounters?`: the report, with every step checked.
* `Progress.AddsUp`: the members of a report agree with each other.
* `Progress.ofCounters_exact`: no step fails, and what the report says of its counters.
-/

namespace VmControl

/-! ## Checked arithmetic -/

namespace Checked

/-- The difference of two words, if it does not fall below zero. -/
def sub (a b : UInt64) : Option UInt64 := if b ≤ a then some (a - b) else none

/-- The sum of two numbers, if it fits 128 bits. -/
def add (a b : Nat) : Option Nat := if a + b < 2 ^ 128 then some (a + b) else none

/-- The product of two numbers, if it fits 128 bits. -/
def mul (a b : Nat) : Option Nat := if a * b < 2 ^ 128 then some (a * b) else none

/-- The quotient of two numbers, if there is one. -/
def div (a b : Nat) : Option Nat := if b = 0 then none else some (a / b)

/-- A number as a byte, if it fits one. -/
def byte (n : Nat) : Option UInt8 := if n < UInt8.size then some (UInt8.ofNat n) else none

/-- A number as a word, if it fits one. -/
def word (n : Nat) : Option UInt64 := if n < UInt64.size then some (UInt64.ofNat n) else none

theorem add_of_lt {a b : Nat} (fits : a + b < 2 ^ 128) : add a b = some (a + b) := if_pos fits

theorem mul_of_lt {a b : Nat} (fits : a * b < 2 ^ 128) : mul a b = some (a * b) := if_pos fits

theorem div_of_pos {b : Nat} (a : Nat) (positive : 0 < b) : div a b = some (a / b) :=
  if_neg (Nat.ne_of_gt positive)

end Checked

theorem Word.toNat_pos {n : UInt64} (some : n ≠ 0) : 0 < n.toNat := by
  rcases Nat.eq_zero_or_pos n.toNat with zero | positive
  · exact absurd (UInt64.toNat_inj.mp zero) some
  · exact positive

theorem Word.toNat_min (a b : UInt64) : (min a b).toNat = min a.toNat b.toNat := by
  show (if a ≤ b then a else b).toNat = _
  split
  · next below => exact (Nat.min_eq_left (UInt64.le_iff_toNat_le.mp below)).symm
  · next above =>
    rw [UInt64.le_iff_toNat_le] at above
    exact (Nat.min_eq_right (by omega)).symm

/-! ## Shares -/

/-- A part of a whole is at most a hundred percent of it. -/
theorem share_le {part whole : Nat} (within : part ≤ whole) : 100 * part / whole ≤ 100 := by
  refine Nat.div_le_of_le_mul ?_
  rw [Nat.mul_comm whole]
  exact Nat.mul_le_mul_left 100 within

/-- Only the whole is a hundred percent of itself, even after rounding down. -/
theorem share_eq_iff {part whole : Nat} (within : part ≤ whole) (some : 0 < whole) :
    100 * part / whole = 100 ↔ part = whole := by
  constructor
  · intro all
    have reached : 100 * whole ≤ 100 * part :=
      (Nat.le_div_iff_mul_le some).mp (Nat.le_of_eq all.symm)
    omega
  · rintro rfl
    exact Nat.mul_div_cancel 100 some

/-- The share of a part, with every step checked. -/
def percentOf? (part whole : UInt64) : Option UInt8 :=
  if whole = 0 then some 100
  else do
    let product ← Checked.mul (min part whole).toNat 100
    let share ← Checked.div product whole.toNat
    Checked.byte share

theorem percentOf?_eq (part whole : UInt64) :
    percentOf? part whole = some (percentOf part whole) := by
  rw [percentOf?, percentOf]
  split
  · rfl
  · next positive =>
    have some : 0 < whole.toNat := Word.toNat_pos positive
    have within : min part.toNat whole.toNat ≤ whole.toNat := Nat.min_le_right ..
    have word : whole.toNat < 2 ^ 64 := whole.toNat_lt
    have product : min part.toNat whole.toNat * 100 < 2 ^ 128 := by omega
    have share : min part.toNat whole.toNat * 100 / whole.toNat < UInt8.size := by
      rw [Nat.mul_comm]
      exact Nat.lt_of_le_of_lt (share_le within) (by decide)
    rw [Word.toNat_min, Checked.mul_of_lt product]
    simp only [Option.bind_eq_bind, Option.bind_some]
    rw [Checked.div_of_pos _ some, Option.bind_some, Checked.byte, if_pos share]

namespace Progress

theorem toNat_percentOf {part whole : UInt64} (within : part ≤ whole) :
    (percentOf part whole).toNat =
      if whole = 0 then 100 else 100 * part.toNat / whole.toNat := by
  have bound : (percentOf part whole).toNat ≤ 100 := percentOf_le part whole
  unfold percentOf at bound ⊢
  split
  · rfl
  · have small : part.toNat ≤ whole.toNat := UInt64.le_iff_toNat_le.mp within
    have share : 100 * part.toNat / whole.toNat ≤ 100 := share_le small
    rw [Nat.min_eq_left small, Nat.mul_comm, UInt8.toNat_ofNat', Nat.mod_eq_of_lt (by omega)]

/-! ## Reports -/

/-- What is done and what is left make the total, and the share is that of what is done. -/
structure AddsUp (p : Progress) : Prop where
  sum : p.transferred.toNat + p.remaining.toNat = p.total.toNat
  share : p.percent.toNat =
    if p.total = 0 then 100 else 100 * p.transferred.toNat / p.total.toNat

/-- Nothing is known yet, or the counters add up. -/
def Fair (p : Progress) : Prop := p = .initial ∨ p.AddsUp

theorem AddsUp.withSpeed {p : Progress} (adds : p.AddsUp) (speed : UInt64) :
    (p.withSpeed speed).AddsUp := ⟨adds.sum, adds.share⟩

theorem addsUp_ofCounters (total transferred : UInt64) : (ofCounters total transferred).AddsUp where
  sum := transferred_add_remaining total transferred
  share := toNat_percentOf (min_le_right transferred total)

theorem addsUp_done (total : UInt64) : (done total).AddsUp := addsUp_ofCounters total total

/-- A share is full exactly if nothing is left. -/
theorem AddsUp.full_iff {p : Progress} (adds : p.AddsUp) : p.percent = 100 ↔ p.remaining = 0 := by
  obtain ⟨sum, share⟩ := adds
  rw [← UInt8.toNat_inj, ← UInt64.toNat_inj, share]
  change _ = 100 ↔ p.remaining.toNat = 0
  split
  · next nothing =>
    rw [nothing] at sum
    have zero : (0 : UInt64).toNat = 0 := rfl
    omega
  · next positive =>
    have some : 0 < p.total.toNat := Word.toNat_pos positive
    rw [share_eq_iff (by omega) some]
    omega

/-- The report of a total and a count, with every step checked. -/
def ofCounters? (total transferred : UInt64) : Option Progress := do
  let done := min transferred total
  let remaining ← Checked.sub total done
  let percent ← percentOf? done total
  some ⟨total, remaining, done, percent, 0⟩

theorem ofCounters?_eq (total transferred : UInt64) :
    ofCounters? total transferred = some (ofCounters total transferred) := by
  rw [ofCounters?, Checked.sub, if_pos (min_le_right transferred total)]
  simp only [Option.bind_eq_bind, Option.bind_some, percentOf?_eq]
  rfl

theorem toNat_transferred (total transferred : UInt64) :
    (ofCounters total transferred).transferred.toNat = min transferred.toNat total.toNat :=
  Word.toNat_min transferred total

/-- The share of a count that is cut to the total. -/
theorem toNat_percent (total transferred : UInt64) : (ofCounters total transferred).percent.toNat =
    if total = 0 then 100 else 100 * min transferred.toNat total.toNat / total.toNat := by
  rw [(addsUp_ofCounters total transferred).share, toNat_transferred]
  rfl

/-- With a greater count the share is no smaller. -/
theorem percent_mono (total : UInt64) {transferred more : UInt64} (fewer : transferred ≤ more) :
    (ofCounters total transferred).percent ≤ (ofCounters total more).percent := by
  rw [UInt8.le_iff_toNat_le, toNat_percent, toNat_percent]
  rw [UInt64.le_iff_toNat_le] at fewer
  split
  · exact Nat.le_refl 100
  · refine Nat.div_le_div_right (Nat.mul_le_mul_left 100 ?_)
    omega

/-- A count that is cut to the total already is not cut again. -/
theorem ofCounters_transferred (total transferred : UInt64) :
    ofCounters total (ofCounters total transferred).transferred = ofCounters total transferred := by
  have cut : min (min transferred total) total = min transferred total :=
    if_pos (min_le_right transferred total)
  simp only [ofCounters, cut]

/-- What a report says of the total and the count that it was made of. -/
structure Reports (whole count : UInt64) (p : Progress) : Prop where
  /-- No difference falls below zero, no product exceeds 128 bits, nothing is divided by zero, and
  the share fits a byte. -/
  fits : ofCounters? whole count = some p
  total : p.total = whole
  transferred : p.transferred.toNat = min count.toNat whole.toNat
  sum : p.remaining.toNat + p.transferred.toNat = whole.toNat
  share : p.percent.toNat =
    if whole = 0 then 100 else 100 * min count.toNat whole.toNat / whole.toNat
  bounded : p.percent.toNat ≤ 100
  full : p.percent = 100 ↔ p.remaining = 0
  monotone : ∀ more, count ≤ more → p.percent ≤ (ofCounters whole more).percent
  /-- A report of what a report says is the same report. -/
  stable : ofCounters p.total p.transferred = p

/-- Whatever the counters are, the report is computed within the words and is exact. -/
theorem ofCounters_exact (total transferred : UInt64) :
    (ofCounters total transferred).Reports total transferred where
  fits := ofCounters?_eq total transferred
  total := rfl
  transferred := toNat_transferred total transferred
  sum := (Nat.add_comm ..).trans (transferred_add_remaining total transferred)
  share := toNat_percent total transferred
  bounded := percentOf_le _ _
  full := (addsUp_ofCounters total transferred).full_iff
  monotone _ fewer := percent_mono total fewer
  stable := ofCounters_transferred total transferred

/-- One byte short of the greatest total is short of a hundred percent. -/
example : ofCounters 0xffffffffffffffff 0xfffffffffffffffe =
    ⟨0xffffffffffffffff, 1, 0xfffffffffffffffe, 99, 0⟩ := by decide

end Progress

end VmControl
