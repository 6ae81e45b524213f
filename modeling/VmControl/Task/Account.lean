import VmControl.Stat

/-!
The published statistics of a task and the updates that have been sent but not yet taken in.

The parts of a task only send updates. They are taken in one at a time, in the order in which they
were sent, so whoever looks at the statistics sees none of them half done. Main statement:

- `Account.fold?_isSome_iff`: something can be taken in exactly while something is left.
-/

namespace VmControl

/-- Statistics that updates are applied to. -/
class Updatable (α : Type) where
  /-- The statistics after an update at a given time. -/
  apply : α → Timestamp → StatUpdate → α

instance : Updatable MigrationStat := ⟨MigrationStat.apply⟩

instance : Updatable CopyStat := ⟨CopyStat.apply⟩

/-- Published statistics and the updates that are left. -/
structure Account (α : Type) where
  stat : α
  /-- The updates not yet taken in, oldest first. -/
  left : List StatUpdate

namespace Account

variable {α : Type}

/-- The account of fresh statistics. -/
def new (stat : α) : Account α := ⟨stat, []⟩

def report (a : Account α) (updates : List StatUpdate) : Account α :=
  { a with left := a.left ++ updates }

/-- Takes in the oldest update that is left. -/
def fold? [Updatable α] (a : Account α) (now : Timestamp) : Option (Account α) :=
  match a.left with
  | [] => none
  | u :: rest => some ⟨Updatable.apply a.stat now u, rest⟩

/-- Something can be taken in exactly while something is left. -/
theorem fold?_isSome_iff [Updatable α] (a : Account α) (now : Timestamp) :
    (a.fold? now).isSome = true ↔ a.left ≠ [] := by
  cases h : a.left <;> simp [fold?, h]

end Account

end VmControl
