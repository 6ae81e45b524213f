import VmControl.Proofs.Text.Digits
import VmControl.Proofs.Time.Calendar
import VmControl.Time.Timestamp

/-!
# Points in time that are written and read again

What is written of a point in time is read again (`Timestamp.ofText?_text`), down to the nanosecond
and in a leap second too. It has to be one that a clock can show (`Timestamp.Valid`): its year has a
written form, and only the last second of a minute can be a leap second.
-/

namespace VmControl

namespace Text

variable {c : Char} {s rest : List Char} {width n : Nat}

theorem skipBlanks_of_head (visible : ∀ c ∈ s.head?, isBlank c = false) : skipBlanks s = s := by
  cases s with
  | nil => rfl
  | cons c rest => exact List.dropWhile_cons_of_neg (by simp [visible c rfl])

theorem isBlank_of_isDigit (digit : c.isDigit = true) : isBlank c = false := by
  simp only [Char.isDigit, Bool.and_eq_true, decide_eq_true_eq, ge_iff_le, UInt32.le_iff_toNat_le]
    at digit
  have low : 48 ≤ c.toNat := digit.1
  have high : c.toNat ≤ 57 := digit.2
  simp only [isBlank, Bool.or_eq_false_iff, decide_eq_false_iff_not, beq_eq_false_iff_ne]
  omega

/-- A number that was written begins with a digit. -/
theorem exists_padded_eq_cons (width n : Nat) :
    ∃ c ds, padded width n = c :: ds ∧ c.isDigit = true := by
  cases written : padded width n with
  | nil => exact absurd (List.append_eq_nil_iff.mp written).2 Nat.toDigits_ne_nil
  | cons c ds =>
    have first : c ∈ padded width n := by
      rw [written]
      exact List.mem_cons_self
    exact ⟨c, ds, rfl, isDigit_of_mem_padded first⟩

theorem skipBlanks_padded : skipBlanks (padded width n ++ rest) = padded width n ++ rest := by
  obtain ⟨c, ds, written, digit⟩ := exists_padded_eq_cons width n
  rw [written]
  exact skipBlanks_of_head fun _ first => by
    cases first
    exact isBlank_of_isDigit digit

end Text

namespace Timestamp

open Text

/-! ## Parts -/

theorem mark?_cons {c : Char} {rest : List Char} (visible : isBlank c = false) :
    mark? c (c :: rest) = some rest := by
  have first : skipBlanks (c :: rest) = c :: rest :=
    skipBlanks_of_head fun _ head => by cases head; exact visible
  rw [mark?, first]
  exact if_pos rfl

theorem pair?_padded {n : Nat} {rest : List Char} (small : n < 100) :
    pair? (padded 2 n ++ rest) = some (n, rest) := by
  have length : (padded 2 n).length = 2 := length_padded small (by omega)
  rw [pair?, skipBlanks_padded, number?_padded (Or.inl length.symm)]

theorem year?_yearText {year : Int} {rest : List Char} :
    year? (yearText year ++ '-' :: rest) = some (year, '-' :: rest) := by
  have stop : ∀ c ∈ ('-' :: rest).head?, c.isDigit = false := by
    intro c first
    cases first
    rfl
  -- behind a sign every digit counts
  have signed (n : Nat) : number? (padded 4 n ++ '-' :: rest).length (padded 4 n ++ '-' :: rest) =
      some (n, '-' :: rest) := by
    refine number?_padded (Or.inr ⟨?_, stop⟩)
    rw [List.length_append, List.length_cons]
    omega
  by_cases four : 0 ≤ year ∧ year ≤ 9999
  · have length : (padded 4 year.toNat).length = 4 := length_padded (by omega) (by omega)
    have read : number? 4 (padded 4 year.toNat ++ '-' :: rest) = some (year.toNat, '-' :: rest) :=
      number?_padded (Or.inl length.symm)
    obtain ⟨c, ds, written, digit⟩ := exists_padded_eq_cons 4 year.toNat
    have value : ((year.toNat : Nat) : Int) = year := Int.toNat_of_nonneg four.1
    rw [yearText, if_pos four, year?, skipBlanks_padded]
    rw [written] at read ⊢
    split
    · next minus =>
      cases minus
      cases digit
    · next plus =>
      cases plus
      cases digit
    · rw [read]
      exact congrArg (fun n : Int => some (n, '-' :: rest)) value
  · rw [yearText, if_neg four]
    by_cases negative : year < 0
    · have value : -((year.natAbs : Nat) : Int) = year := by omega
      have read (s : List Char) : year? ('-' :: s) =
          (number? s.length s).map fun p => (-(p.1 : Int), p.2) := rfl
      rw [if_pos negative, List.cons_append, read, signed]
      exact congrArg (fun n : Int => some (n, '-' :: rest)) value
    · have value : ((year.natAbs : Nat) : Int) = year := by omega
      have read (s : List Char) : year? ('+' :: s) =
          (number? s.length s).map fun p => ((p.1 : Int), p.2) := rfl
      rw [if_neg negative, List.cons_append, read, signed]
      exact congrArg (fun n : Int => some (n, '-' :: rest)) value

/-- A fraction with three, six or nine digits. -/
theorem fraction?_padded {width n : Nat} (some : 0 < width) (within : width ≤ 9)
    (small : n < 10 ^ width) :
    fraction? ('.' :: (padded width n ++ ['Z'])) = .some (n * Nat.pow 10 (9 - width), ['Z']) := by
  have length : (padded width n).length = width := length_padded small some
  have read : takeDigits 9 (padded width n ++ ['Z']) = ((padded width n).map valueOf, ['Z']) := by
    refine takeDigits_append (fun _ listed => isDigit_of_mem_padded listed) ?_
    rw [length]
    rcases Nat.lt_or_eq_of_le within with less | same
    · exact Or.inr ⟨less, fun c first => by cases first; rfl⟩
    · exact Or.inl same.symm
  rw [fraction?, read]
  split
  · next none =>
    have none : (padded width n).length = 0 := by
      rw [← List.length_map (f := valueOf), (Prod.mk.inj none).1]
      rfl
    omega
  · next same =>
    obtain ⟨rfl, rfl⟩ := Prod.mk.inj same
    rw [ofDigits_padded, List.length_map, length]
    rfl

theorem fraction?_fractionText {nanos : Nat} (small : nanos < 1000000000) :
    fraction? (fractionText nanos ++ ['Z']) = some (nanos, ['Z']) := by
  unfold fractionText
  split
  · next none =>
    rw [none]
    rfl
  split
  · next millis =>
    have value : nanos / 1000000 * Nat.pow 10 (9 - 3) = nanos := by
      show nanos / 1000000 * 1000000 = nanos
      omega
    rw [List.cons_append, fraction?_padded (by omega) (by omega) (by omega), value]
  split
  · next micros =>
    have value : nanos / 1000 * Nat.pow 10 (9 - 6) = nanos := by
      show nanos / 1000 * 1000 = nanos
      omega
    rw [List.cons_append, fraction?_padded (by omega) (by omega) (by omega), value]
  · have value : nanos * Nat.pow 10 (9 - 9) = nanos := Nat.mul_one nanos
    rw [List.cons_append, fraction?_padded (by omega) (by omega) small, value]

/-! ## The whole -/

/-- A point in time that a clock can show. -/
structure Valid (t : Timestamp) : Prop where
  range : inRange t.seconds = true
  /-- Only the last second of a minute is followed by a leap second. -/
  nanos : t.nanos < 1000000000 ∨ t.nanos < 2000000000 ∧ t.seconds % 60 = 59

/-- The year of a second in range has a written form. -/
theorem yearOf_of_inRange {seconds : Int} (range : inRange seconds = true) :
    leastYear ≤ Civil.yearOf (seconds / daySeconds) ∧
      Civil.yearOf (seconds / daySeconds) ≤ greatestYear := by
  obtain ⟨low, high⟩ := Bool.and_eq_true_iff.mp range
  replace low := of_decide_eq_true low
  replace high := of_decide_eq_true high
  obtain ⟨start, ends⟩ := Civil.yearOf_spec (seconds / daySeconds)
  simp only [daySeconds] at low high start ends ⊢
  constructor
  · refine Int.not_lt.mp fun below => ?_
    have before :=
      Civil.yearStart_mono (show Civil.yearOf (seconds / 86400) + 1 ≤ leastYear by omega)
    omega
  · refine Int.not_lt.mp fun above => ?_
    have after :=
      Civil.yearStart_mono (show greatestYear + 1 ≤ Civil.yearOf (seconds / 86400) by omega)
    omega

/-- The parts of a point in time, as they are written. -/
theorem text_eq {t : Timestamp} {year : Int} {month day clock second nanos : Nat}
    (date : Civil.ofDays (t.seconds / daySeconds) = (year, month, day))
    (time : (clock : Int) = t.seconds % daySeconds)
    (leap : second = clock % 60 + if 1000000000 ≤ t.nanos then 1 else 0)
    (fraction : nanos = t.nanos - if 1000000000 ≤ t.nanos then 1000000000 else 0) :
    t.text.toList = yearText year ++ '-' :: (padded 2 month ++ '-' :: (padded 2 day ++ 'T' ::
      (padded 2 (clock / 3600) ++ ':' :: (padded 2 (clock / 60 % 60) ++ ':' ::
        (padded 2 second ++ (fractionText nanos ++ ['Z'])))))) := by
  rw [text, date, ← time, Int.toNat_natCast, leap, fraction]
  simp only [String.toList_ofList, List.append_assoc, List.cons_append, decide_eq_true_eq]

/-- Fields that are written out are read again, each with all its digits. -/
theorem ofText?_fields {text : String} {year : Int} {month day hour minute second nanos : Nat}
    (written : text.toList = yearText year ++ '-' ::
      (padded 2 month ++ '-' :: (padded 2 day ++ 'T' ::
      (padded 2 hour ++ ':' :: (padded 2 minute ++ ':' ::
        (padded 2 second ++ (fractionText nanos ++ ['Z'])))))))
    (years : leastYear ≤ year ∧ year ≤ greatestYear) (isDate : Civil.isDate year month day = true)
    (hours : hour < 24) (minutes : minute < 60) (seconds : second ≤ 60)
    (small : nanos < 1000000000) :
    ofText? text = ofSeconds? (Civil.toDays year month day * daySeconds +
      ((hour * 3600 + minute * 60 + if second = 60 then 59 else second : Nat) : Int))
      (nanos + if second = 60 then 1000000000 else 0) := by
  have dated := isDate
  simp only [Civil.isDate, Bool.and_eq_true, decide_eq_true_eq] at dated
  have short := Civil.monthLength_le (Civil.isLeap year) month
  have separator (rest : List Char) : separator? ('T' :: rest) = some rest := rfl
  have zone : offset? (skipBlanks ['Z']) = some (0, []) := rfl
  have dash : isBlank '-' = false := rfl
  have colon : isBlank ':' = false := rfl
  rw [ofText?, written]
  dsimp only [Option.bind_eq_bind]
  rw [year?_yearText, Option.bind_some, mark?_cons dash, Option.bind_some,
    pair?_padded (show month < 100 by omega), Option.bind_some, mark?_cons dash, Option.bind_some,
    pair?_padded (show day < 100 by omega), Option.bind_some, separator, Option.bind_some,
    pair?_padded (show hour < 100 by omega), Option.bind_some, mark?_cons colon, Option.bind_some,
    pair?_padded (show minute < 100 by omega), Option.bind_some, mark?_cons colon, Option.bind_some,
    pair?_padded (show second < 100 by omega), Option.bind_some, fraction?_fractionText small,
    Option.bind_some, zone, Option.bind_some]
  rw [if_pos ⟨rfl, years.1, years.2, isDate, hours, minutes, seconds, by decide, by decide⟩]
  simp only [decide_eq_true_eq, Int.sub_zero]

/-- A point in time that was written is read again. -/
theorem ofText?_text {t : Timestamp} (valid : t.Valid) : ofText? t.text = some t := by
  obtain ⟨month, day, date, isDate, toDays⟩ := Civil.ofDays_spec (t.seconds / daySeconds)
  have years := yearOf_of_inRange valid.range
  obtain ⟨clock, time⟩ : ∃ clock : Nat, (clock : Int) = t.seconds % daySeconds :=
    ⟨_, Int.toNat_of_nonneg (Int.emod_nonneg _ (by decide))⟩
  obtain ⟨second, leap⟩ : ∃ second, second = clock % 60 + if 1000000000 ≤ t.nanos then 1 else 0 :=
    ⟨_, rfl⟩
  obtain ⟨nanos, fraction⟩ :
      ∃ nanos, nanos = t.nanos - if 1000000000 ≤ t.nanos then 1000000000 else 0 := ⟨_, rfl⟩
  have written := text_eq date time leap fraction
  generalize Civil.yearOf (t.seconds / daySeconds) = year at *
  have whole : t.seconds / daySeconds * daySeconds + clock = t.seconds := by
    rw [time]
    exact Int.ediv_mul_add_emod ..
  have range := valid.nanos
  simp only [daySeconds] at time whole toDays
  have small : second ≤ 60 ∧ nanos < 1000000000 := by
    split at leap <;> split at fraction <;> omega
  -- the last second of a minute is written as a second too many if it is followed by a leap second
  have seconds : Civil.toDays year month day * daySeconds +
      ((clock / 3600 * 3600 + clock / 60 % 60 * 60 +
        if second = 60 then 59 else second : Nat) : Int) =
        t.seconds := by
    rw [daySeconds, toDays]
    split <;> split at leap <;> omega
  have exact : nanos + (if second = 60 then 1000000000 else 0) = t.nanos := by
    split <;> split at leap <;> split at fraction <;> omega
  rw [ofText?_fields written years isDate (by omega) (by omega) small.1 small.2, seconds, exact,
    ofSeconds?_eq_some_iff]
  exact ⟨valid.range, rfl⟩

end Timestamp

end VmControl
