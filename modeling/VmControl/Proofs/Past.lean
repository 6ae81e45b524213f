import Mathlib.Data.List.Basic

/-!
# Looking back on what has happened

A history is a list, oldest entry first. What is said of an entry may look at the entries before it,
so a statement about one entry is a predicate on a history and the entry that follows it.

* `Once P past`: some entry of `past` satisfied `P`. This is never lost (`Once.append`).
* `Throughout P past`: every entry of `past` satisfied `P`, given what was before it. Each further
  entry has to be looked at only once (`throughout_concat`).
-/

namespace VmControl

variable {α : Type}

/-- Some entry satisfied `P`, which sees the entries before it. -/
def Once (P : List α → α → Prop) (past : List α) : Prop :=
  ∃ earlier a later, past = earlier ++ a :: later ∧ P earlier a

/-- Every entry satisfied `P`, which sees the entries before it. -/
def Throughout (P : List α → α → Prop) (past : List α) : Prop :=
  ∀ earlier a later, past = earlier ++ a :: later → P earlier a

variable {P Q : List α → α → Prop} {past : List α}

/-- An entry of a history that ends in `b` is `b` itself or an entry of the rest. -/
theorem concat_eq_split_iff {earlier later : List α} {a b : α} :
    past ++ [b] = earlier ++ a :: later ↔
      (later = [] ∧ past = earlier ∧ b = a) ∨
        ∃ rest, later = rest ++ [b] ∧ past = earlier ++ a :: rest := by
  constructor
  · intro same
    rcases List.eq_nil_or_concat later with rfl | ⟨rest, c, rfl⟩
    · obtain ⟨front, last⟩ := List.append_inj' same rfl
      exact Or.inl ⟨rfl, front, List.singleton_inj.mp last⟩
    · rw [List.concat_eq_append, ← List.cons_append, ← List.append_assoc] at same
      obtain ⟨front, last⟩ := List.append_inj' same rfl
      obtain rfl := List.singleton_inj.mp last
      exact Or.inr ⟨rest, List.concat_eq_append, front⟩
  · rintro (⟨rfl, rfl, rfl⟩ | ⟨rest, rfl, rfl⟩)
    · rfl
    · rw [List.append_assoc, List.cons_append]

theorem forall_mem_concat {P : α → Prop} {a : α} :
    (∀ b ∈ past ++ [a], P b) ↔ (∀ b ∈ past, P b) ∧ P a := by
  rw [List.forall_mem_append, List.forall_mem_singleton]

theorem exists_mem_concat {P : α → Prop} {a : α} (some : ∃ b ∈ past, P b) :
    ∃ b ∈ past ++ [a], P b := by
  obtain ⟨b, here, holds⟩ := some
  exact ⟨b, List.mem_append_left _ here, holds⟩

theorem Once.append (once : Once P past) (more : List α) : Once P (past ++ more) := by
  obtain ⟨earlier, a, later, rfl, holds⟩ := once
  exact ⟨earlier, a, later ++ more, by rw [List.append_assoc, List.cons_append], holds⟩

/-- What holds of the last entry has held once. -/
theorem Once.last {a : α} (holds : P past a) : Once P (past ++ [a]) :=
  ⟨past, a, [], rfl, holds⟩

theorem once_concat {a : α} : Once P (past ++ [a]) ↔ Once P past ∨ P past a := by
  constructor
  · rintro ⟨earlier, b, later, split, holds⟩
    rcases concat_eq_split_iff.mp split with ⟨-, rfl, rfl⟩ | ⟨rest, -, front⟩
    · exact Or.inr holds
    · exact Or.inl ⟨earlier, b, rest, front, holds⟩
  · exact fun before => before.elim (·.append [a]) Once.last

theorem throughout_nil : Throughout P [] := by
  intro earlier a later split
  cases earlier <;> cases split

theorem throughout_concat {a : α} :
    Throughout P (past ++ [a]) ↔ Throughout P past ∧ P past a := by
  constructor
  · intro always
    refine ⟨?_, always past a [] rfl⟩
    intro earlier b later split
    exact always earlier b (later ++ [a]) (by rw [split, List.append_assoc, List.cons_append])
  · rintro ⟨always, holds⟩ earlier b later split
    rcases concat_eq_split_iff.mp split with ⟨-, rfl, rfl⟩ | ⟨rest, -, front⟩
    · exact holds
    · exact always earlier b rest front

theorem Throughout.mono (weaker : ∀ earlier a, P earlier a → Q earlier a)
    (always : Throughout P past) : Throughout Q past :=
  fun earlier a later split => weaker earlier a (always earlier a later split)

end VmControl
