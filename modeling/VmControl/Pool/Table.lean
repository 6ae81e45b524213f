import VmControl.Task.Id

/-!
Which task is registered under which identifier.

Tasks are told apart by their numbers, so a task that has taken the place of another one is not
mistaken for it. The entries are kept in the order of the identifiers. Main statements:

- `TaskTable.get?_insert`: what is found after a registration;
- `TaskTable.get?_release`: a task is only unregistered while it is the one that is registered.
-/

namespace VmControl

/-- The tasks that are registered, by number. -/
structure TaskTable where
  /-- The identifiers and numbers, in the order of the identifiers. -/
  entries : List (TaskId × Nat)
deriving DecidableEq

namespace TaskTable

/-- No task is registered. -/
def empty : TaskTable := ⟨[]⟩

/-- The number of the task under an identifier. -/
def get? (t : TaskTable) (id : TaskId) : Option Nat := t.entries.lookup id

/-- The entries without those of an identifier. -/
def without (id : TaskId) (entries : List (TaskId × Nat)) : List (TaskId × Nat) :=
  entries.filter (fun entry => entry.1 ≠ id)

/-- Puts an entry in front of the first one that comes after it. -/
def place (entry : TaskId × Nat) : List (TaskId × Nat) → List (TaskId × Nat)
  | [] => [entry]
  | first :: rest =>
    if entry.1.before first.1 then entry :: first :: rest else first :: place entry rest

/-- Registers a task, in place of the one under its identifier. -/
def insert (t : TaskTable) (id : TaskId) (number : Nat) : TaskTable :=
  ⟨place (id, number) (without id t.entries)⟩

/-- Unregisters a task, unless another one has taken its place. -/
def release (t : TaskTable) (id : TaskId) (number : Nat) : TaskTable :=
  if t.get? id = some number then ⟨without id t.entries⟩ else t

theorem lookup_cons_eq (key : TaskId) (first : TaskId × Nat) (rest : List (TaskId × Nat)) :
    (first :: rest).lookup key = if key = first.1 then some first.2 else rest.lookup key := by
  obtain ⟨k, v⟩ := first
  by_cases h : key = k
  · simp [h]
  · have apart : (key == k) = false := beq_eq_false_iff_ne.mpr h
    simp [List.lookup_cons, h, apart]

theorem lookup_without (id key : TaskId) (entries : List (TaskId × Nat)) :
    (without id entries).lookup key = if key = id then none else entries.lookup key := by
  induction entries with
  | nil => simp [without]
  | cons first rest ih =>
    rw [lookup_cons_eq]
    by_cases same : first.1 = id
    · rw [without, List.filter_cons_of_neg (by simpa using same), ← without, ih, same]
      by_cases hit : key = id <;> simp [hit]
    · rw [without, List.filter_cons_of_pos (by simpa using same), ← without, lookup_cons_eq, ih]
      by_cases hit : key = first.1
      · simp [hit, same]
      · simp [hit]

theorem lookup_place (entry : TaskId × Nat) (key : TaskId) {entries : List (TaskId × Nat)}
    (fresh : entries.lookup entry.1 = none) :
    (place entry entries).lookup key
      = if key = entry.1 then some entry.2 else entries.lookup key := by
  induction entries with
  | nil => rw [place, lookup_cons_eq]
  | cons first rest ih =>
    rw [lookup_cons_eq] at fresh
    split at fresh
    · cases fresh
    · next apart =>
      rw [place]
      split
      · rw [lookup_cons_eq]
      · rw [lookup_cons_eq, lookup_cons_eq, ih fresh]
        by_cases hit : key = first.1
        · simp [hit, Ne.symm apart]
        · simp [hit]

/-- After a registration the identifier leads to the new task and every other one to where it led
before. -/
theorem get?_insert (t : TaskTable) (id key : TaskId) (number : Nat) :
    (t.insert id number).get? key = if key = id then some number else t.get? key := by
  have fresh : (without id t.entries).lookup id = none := by simp [lookup_without]
  rw [insert, get?, lookup_place (id, number) key fresh, lookup_without]
  by_cases hit : key = id <;> simp [hit, get?]

/-- A task is only unregistered while it is the one that is registered, and no other task is. -/
theorem get?_release (t : TaskTable) (id key : TaskId) (number : Nat) :
    (t.release id number).get? key
      = if key = id ∧ t.get? id = some number then none else t.get? key := by
  rw [release]
  split
  · next current =>
    rw [get?, lookup_without]
    by_cases hit : key = id
    · simp [hit, current]
    · simp [hit, get?]
  · next other => simp [other]

end TaskTable

end VmControl
