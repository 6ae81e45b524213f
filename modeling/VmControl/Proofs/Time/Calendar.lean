import VmControl.Time.Civil

/-!
# Days and dates

Every day has one date. The year of a day is guessed from the average length of a year, and the
guess is off by one at most (`Civil.yearOf_spec`). In the year the months are gone through until the
day lies in one of them. So the date of a day is a date, and the day of that date is the day
(`Civil.ofDays_spec`).
-/

namespace VmControl

namespace Civil

variable {days year : Int} {leap : Bool} {rest : Nat}

theorem yearStart_eq (year : Int) :
    yearStart year =
      365 * (year - 1) + (year - 1) / 4 - (year - 1) / 100 + (year - 1) / 400 - 719162 := rfl

/-- A day lies in the year that is found for it. -/
theorem yearOf_spec (days : Int) :
    yearStart (yearOf days) ≤ days ∧ days < yearStart (yearOf days + 1) := by
  have guess (year : Int) (found : year = (days + 719162) * 400 / 146097 + 1) :
      yearStart (year - 1) ≤ days ∧ days < yearStart (year + 2) := by
    rw [yearStart_eq, yearStart_eq]
    omega
  have near := guess _ rfl
  unfold yearOf
  dsimp only
  split
  · next early => exact ⟨near.1, by rwa [Int.sub_add_cancel]⟩
  · next late =>
    split
    · next after => exact ⟨after, by rw [Int.add_assoc]; exact near.2⟩
    · next within => exact ⟨Int.not_lt.mp late, Int.not_le.mp within⟩

theorem yearStart_succ (year : Int) :
    yearStart (year + 1) = yearStart year + if isLeap year then 366 else 365 := by
  rw [yearStart_eq, yearStart_eq]
  by_cases leap : isLeap year = true
  · rw [if_pos leap]
    rw [isLeap_iff] at leap
    omega
  · rw [if_neg leap]
    rw [isLeap_iff] at leap
    omega

theorem yearStart_mono {a b : Int} (le : a ≤ b) : yearStart a ≤ yearStart b := by
  rw [yearStart_eq, yearStart_eq]
  omega

theorem monthLength_le (leap : Bool) (month : Nat) : monthLength leap month ≤ 31 := by
  have each : ∀ length ∈ monthLengths leap, length ≤ 31 := by cases leap <;> decide
  unfold monthLength
  split
  · exact Nat.zero_le _
  · rw [List.getD_eq_getElem?_getD]
    cases there : (monthLengths leap)[month - 1]? with
    | none => exact Nat.zero_le _
    | some length => exact each length (List.mem_of_getElem? there)

/-- Going through the months ends in one of them, with the day that is left. -/
theorem monthDayFrom_spec {lengths : List Nat} (month : Nat)
    (within : rest < lengths.foldr (· + ·) 0) :
    ∃ index r, ∃ there : index < lengths.length, monthDayFrom lengths month rest =
      (month + index, r + 1) ∧
      r < lengths[index] ∧ (lengths.take index).foldr (· + ·) 0 + r = rest := by
  induction lengths generalizing month rest with
  | nil => exact absurd within (Nat.not_lt_zero rest)
  | cons length lengths ih =>
    rw [List.foldr_cons] at within
    by_cases first : rest < length
    · have found : monthDayFrom (length :: lengths) month rest = (month + 0, rest + 1) :=
        if_pos first
      exact ⟨0, rest, Nat.zero_lt_succ _, found, first, Nat.zero_add rest⟩
    · obtain ⟨index, r, there, found, inside, sum⟩ :=
        ih (month + 1) (show rest - length < lengths.foldr (· + ·) 0 by omega)
      refine ⟨index + 1, r, Nat.succ_lt_succ there, ?_, inside, ?_⟩
      · rw [monthDayFrom, if_neg first, found]
        simp only [Prod.mk.injEq, and_true]
        omega
      · rw [List.take_succ_cons, List.foldr_cons]
        omega

/-- A day of the year has a month and a day, which lead back to it. -/
theorem monthDay_spec (within : rest < if leap then 366 else 365) :
    ∃ month day, monthDay leap rest = (month, day) ∧ 1 ≤ month ∧ month ≤ 12 ∧ 1 ≤ day ∧
      day ≤ monthLength leap month ∧ dayOfYear leap month day = rest := by
  have total : (monthLengths leap).foldr (· + ·) 0 = if leap then 366 else 365 := by
    cases leap <;> rfl
  have size : (monthLengths leap).length = 12 := rfl
  rw [← total] at within
  obtain ⟨index, r, there, found, inside, sum⟩ := monthDayFrom_spec 1 within
  have length : monthLength leap (1 + index) = (monthLengths leap)[index] := by
    rw [monthLength, if_neg (by omega), Nat.add_sub_cancel_left, List.getD_eq_getElem?_getD,
      List.getElem?_eq_getElem there, Option.getD_some]
  refine ⟨1 + index, r + 1, found, by omega, by omega, by omega, ?_, ?_⟩
  · rw [length]
    exact inside
  · rw [dayOfYear, Nat.add_sub_cancel_left, Nat.add_sub_cancel]
    exact sum

/-- The date of a day is a date in the year that is found for it, and its day is the day. -/
theorem ofDays_spec (days : Int) :
    ∃ month day, ofDays days = (yearOf days, month, day) ∧
      isDate (yearOf days) month day = true ∧ toDays (yearOf days) month day = days := by
  obtain ⟨start, ends⟩ := yearOf_spec days
  rw [yearStart_succ] at ends
  have within : (days - yearStart (yearOf days)).toNat <
      if isLeap (yearOf days) then 366 else 365 := by
    cases leap : isLeap (yearOf days) with
    | true =>
      rw [leap, if_pos rfl] at ends
      rw [if_pos rfl]
      omega
    | false =>
      rw [leap, if_neg Bool.false_ne_true] at ends
      rw [if_neg Bool.false_ne_true]
      omega
  obtain ⟨month, day, found, one, twelve, first, last, back⟩ := monthDay_spec within
  refine ⟨month, day, ?_, ?_, ?_⟩
  · rw [ofDays]
    simp only [found]
  · simp only [isDate, Bool.and_eq_true, decide_eq_true_eq]
    exact ⟨⟨⟨one, twelve⟩, first⟩, last⟩
  · rw [toDays, back]
    omega

end Civil

end VmControl
