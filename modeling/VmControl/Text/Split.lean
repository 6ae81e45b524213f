/-!
Splitting a text at a separator.

Main statements:

- `Text.splitFirst?_eq_some_iff`: what a split at the first separator is;
- `Text.splitLast?_eq_some_iff`: what a split at the last separator is.
-/

namespace VmControl

namespace Text

/-- The parts before and behind the first separator, if there is one. -/
def splitFirst? (separator : Char) : List Char → Option (List Char × List Char)
  | [] => none
  | c :: rest =>
    if c = separator then some ([], rest)
    else (splitFirst? separator rest).map (fun parts => (c :: parts.1, parts.2))

/-- The parts before and behind the last separator, if there is one. -/
def splitLast? (separator : Char) : List Char → Option (List Char × List Char)
  | [] => none
  | c :: rest =>
    match splitLast? separator rest with
    | some parts => some (c :: parts.1, parts.2)
    | none => if c = separator then some ([], rest) else none

/-- The parts between separators; there is one more of them than there are separators. -/
def splitAll (separator : Char) : List Char → List (List Char)
  | [] => [[]]
  | c :: rest =>
    if c = separator then [] :: splitAll separator rest
    else match splitAll separator rest with
      | first :: parts => (c :: first) :: parts
      | [] => [[c]]

/-- The parts of a text between separators. -/
def parts (separator : Char) (s : String) : List String :=
  (splitAll separator s.toList).map String.ofList

theorem splitFirst?_eq_some_iff {separator : Char} {s a b : List Char} :
    splitFirst? separator s = some (a, b) ↔ s = a ++ separator :: b ∧ separator ∉ a := by
  induction s generalizing a b with
  | nil => simp [splitFirst?]
  | cons c rest ih =>
    rw [splitFirst?]
    split
    · next same =>
      subst same
      cases a with
      | nil => simp
      | cons d a =>
        simp only [Option.some.injEq, Prod.mk.injEq, List.cons_append, List.cons.injEq,
          List.mem_cons, not_or]
        constructor
        · intro h; cases h.1
        · rintro ⟨⟨rfl, _⟩, absent, _⟩; exact absurd rfl absent
    · next differ =>
      rw [Option.map_eq_some_iff]
      constructor
      · rintro ⟨⟨x, y⟩, found, same⟩
        obtain ⟨rfl, rfl⟩ := Prod.mk.inj same
        obtain ⟨rfl, absent⟩ := ih.mp found
        exact ⟨rfl, by simp [absent, Ne.symm differ]⟩
      · rintro ⟨whole, absent⟩
        cases a with
        | nil => exact absurd (List.cons.inj whole).1 differ
        | cons d a =>
          obtain ⟨rfl, tail⟩ := List.cons.inj whole
          exact ⟨(a, b), ih.mpr ⟨tail, fun inside => absent (List.mem_cons_of_mem _ inside)⟩, rfl⟩

theorem splitLast?_eq_none_iff {separator : Char} {s : List Char} :
    splitLast? separator s = none ↔ separator ∉ s := by
  induction s with
  | nil => simp [splitLast?]
  | cons c rest ih =>
    rw [splitLast?]
    split
    · next parts found =>
      have : separator ∈ rest := by
        by_cases inside : separator ∈ rest
        · exact inside
        · rw [ih.mpr inside] at found
          cases found
      simp [this]
    · next found =>
      split
      · next same => simp [same]
      · next differ => simp [Ne.symm differ, ih.mp found]

theorem splitLast?_eq_some_iff {separator : Char} {s a b : List Char} :
    splitLast? separator s = some (a, b) ↔ s = a ++ separator :: b ∧ separator ∉ b := by
  induction s generalizing a b with
  | nil => simp [splitLast?]
  | cons c rest ih =>
    rw [splitLast?]
    split
    · next parts found =>
      obtain ⟨x, y⟩ := parts
      obtain ⟨rfl, absent⟩ := ih.mp found
      constructor
      · intro h
        obtain ⟨rfl, rfl⟩ := Prod.mk.inj (Option.some.inj h)
        exact ⟨rfl, absent⟩
      · rintro ⟨whole, absent'⟩
        cases a with
        | nil =>
          obtain ⟨rfl, tail⟩ := List.cons.inj whole
          exact absurd (tail ▸ List.mem_append_right x List.mem_cons_self) absent'
        | cons d a =>
          obtain ⟨rfl, tail⟩ := List.cons.inj whole
          have again := ih.mpr ⟨tail, absent'⟩
          rw [found] at again
          obtain ⟨rfl, rfl⟩ := Prod.mk.inj (Option.some.inj again)
          rfl
    · next found =>
      have absent := splitLast?_eq_none_iff.mp found
      split
      · next same =>
        subst same
        constructor
        · intro h
          obtain ⟨rfl, rfl⟩ := Prod.mk.inj (Option.some.inj h)
          exact ⟨rfl, absent⟩
        · rintro ⟨whole, _⟩
          cases a with
          | nil => rw [(List.cons.inj whole).2]
          | cons d a =>
            exact absurd ((List.cons.inj whole).2 ▸ List.mem_append_right a List.mem_cons_self)
              absent
      · next differ =>
        constructor
        · intro h; cases h
        · rintro ⟨whole, _⟩
          cases a with
          | nil => exact absurd (List.cons.inj whole).1 differ
          | cons d a =>
            exact absurd ((List.cons.inj whole).2 ▸ List.mem_append_right a List.mem_cons_self)
              absent

end Text

end VmControl
