import Mathlib.Algebra.Group.Nat.Defs
import VmControl.Text.Digits

/-!
# Numbers that are written and read again

A number is written with the digits that it has, or with zeros in front up to a width. What is
written is read again, if as many digits are read as were written or no digit follows them
(`Text.number?_padded`).
-/

namespace VmControl

namespace Text

/-- The value of a character that is a digit. -/
def valueOf (c : Char) : Nat := c.toNat - 48

variable {c : Char} {n limit width : Nat} {ds rest : List Char}

theorem digit?_of_isDigit (digit : c.isDigit = true) : digit? c = some (valueOf c) := by
  simp only [Char.isDigit, Bool.and_eq_true, decide_eq_true_eq] at digit
  exact if_pos digit

theorem digit?_eq_none (other : c.isDigit = false) : digit? c = none := by
  simp only [Char.isDigit, Bool.and_eq_false_iff, decide_eq_false_iff_not] at other
  refine if_neg fun range => ?_
  exact other.elim (absurd range.1) (absurd range.2)

theorem isDigit_of_mem_digits (listed : c ∈ digits n) : c.isDigit = true :=
  Nat.isDigit_of_mem_toDigits (by omega) (by omega) listed

theorem isDigit_of_mem_padded (listed : c ∈ padded width n) : c.isDigit = true := by
  rcases List.mem_append.mp listed with zero | digit
  · rw [(List.mem_replicate.mp zero).2]
    rfl
  · exact isDigit_of_mem_digits digit

/-- The digits of a number spell it. -/
theorem ofDigits_digits (n : Nat) : ofDigits ((digits n).map valueOf) = n := by
  induction n using Nat.strongRecOn with
  | ind n ih =>
    by_cases small : n < 10
    · rw [digits, Nat.toDigits_of_lt_base small]
      have value : valueOf n.digitChar = n := Nat.toNat_digitChar_sub_48_of_lt_ten small
      simp only [List.map_cons, List.map_nil, ofDigits, List.foldl_cons, List.foldl_nil, value]
      omega
    · have last : valueOf (n % 10).digitChar = n % 10 :=
        Nat.toNat_digitChar_sub_48_of_lt_ten (by omega)
      have front : ofDigits ((digits (n / 10)).map valueOf) = n / 10 := ih (n / 10) (by omega)
      rw [ofDigits] at front
      rw [digits, Nat.toDigits_of_base_le (by omega) (by omega), List.map_append, ofDigits,
        List.foldl_append, ← digits, front]
      simp only [List.map_cons, List.map_nil, List.foldl_cons, List.foldl_nil, last]
      omega

/-- Zeros in front of a number do not change it. -/
theorem ofDigits_padded (width n : Nat) : ofDigits ((padded width n).map valueOf) = n := by
  have zeros (k : Nat) :
      ((List.replicate k '0').map valueOf).foldl (fun n d => n * 10 + d) 0 = 0 := by
    induction k with
    | zero => rfl
    | succ k ih => exact ih
  rw [padded, List.map_append, ofDigits, List.foldl_append, zeros, ← ofDigits, ofDigits_digits]

theorem length_padded (small : n < 10 ^ width) (some : 0 < width) :
    (padded width n).length = width := by
  have fits : (digits n).length ≤ width := (Nat.length_toDigits_le_iff (by omega) some).mpr small
  rw [padded, List.length_append, List.length_replicate]
  omega

/-- Digits are read up to the limit, or up to something else. -/
theorem takeDigits_append (all : ∀ c ∈ ds, c.isDigit = true)
    (ends : limit = ds.length ∨ ds.length < limit ∧ ∀ c ∈ rest.head?, c.isDigit = false) :
    takeDigits limit (ds ++ rest) = (ds.map valueOf, rest) := by
  induction ds generalizing limit with
  | nil =>
    rcases ends with none | ⟨some, other⟩
    · rw [none]
      rfl
    · obtain ⟨limit, rfl⟩ := Nat.exists_eq_add_one_of_ne_zero (Nat.ne_of_gt some)
      cases rest with
      | nil => rfl
      | cons c rest =>
        have stop : digit? c = none := digit?_eq_none (other c rfl)
        simp only [List.nil_append, takeDigits, stop, List.map_nil]
  | cons c ds ih =>
    have shape : ∃ k, limit = k + 1 := ⟨limit - 1, by
      rcases ends with same | ⟨more, -⟩ <;> simp only [List.length_cons] at * <;> omega⟩
    obtain ⟨k, rfl⟩ := shape
    have digit : digit? c = some (valueOf c) := digit?_of_isDigit (all c List.mem_cons_self)
    have later : takeDigits k (ds ++ rest) = (ds.map valueOf, rest) := by
      refine ih (fun c listed => all c (List.mem_cons_of_mem _ listed)) ?_
      simp only [List.length_cons, Nat.add_right_cancel_iff, Nat.add_lt_add_iff_right] at ends
      exact ends
    simp only [List.cons_append, takeDigits, digit, later, List.map_cons]

/-- A number that was written with leading zeros is read again. -/
theorem number?_padded
    (ends : limit = (padded width n).length ∨
      (padded width n).length < limit ∧ ∀ c ∈ rest.head?, c.isDigit = false) :
    number? limit (padded width n ++ rest) = some (n, rest) := by
  have read : takeDigits limit (padded width n ++ rest) = ((padded width n).map valueOf, rest) :=
    takeDigits_append (fun _ listed => isDigit_of_mem_padded listed) ends
  have some : (padded width n).map valueOf ≠ [] := by
    rw [padded, ne_eq, List.map_eq_nil_iff, List.append_eq_nil_iff]
    exact fun none => absurd none.2 Nat.toDigits_ne_nil
  rw [number?, read]
  split
  · next none => exact absurd (Prod.mk.inj none).1 some
  · next same =>
    obtain ⟨rfl, rfl⟩ := Prod.mk.inj same
    rw [ofDigits_padded]

end Text

end VmControl
