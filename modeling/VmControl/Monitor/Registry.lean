import VmControl.Error
import VmControl.OrderedMap

/-!
Which monitor connection belongs to which machine.

A machine has at most one connection; a machine without one does not run. Connections are told apart
by their numbers, so a connection that has been replaced can still be addressed by those who hold
it. Main statement:

- `Registry.find_eq_error_iff`: looking for a connection fails only where there is none.
-/

namespace VmControl

/-- The connections of machines, by number. -/
structure Registry where
  /-- The number of the connection of every machine that has one. -/
  entries : OrderedMap Nat
deriving DecidableEq

namespace Registry

/-- No machine has a connection. -/
def empty : Registry := ⟨.empty⟩

/-- The connection of a machine. -/
def get? (r : Registry) (vm : String) : Option Nat := r.entries.get? vm

/-- The connection of a machine, or the failure of those who need one. -/
def find (r : Registry) (vm : String) : Except ControlError Nat :=
  match r.get? vm with
  | some connection => .ok connection
  | none => .error (.notAvailable vm)

/-- Gives a machine a connection, in place of the one it has. -/
def register (r : Registry) (vm : String) (connection : Nat) : Registry :=
  ⟨r.entries.insert vm connection⟩

/-- Takes the connection of a machine away. -/
def unregister (r : Registry) (vm : String) : Registry := ⟨r.entries.erase vm⟩

/-- The machines with a connection, in ascending order. -/
def names (r : Registry) : List String := r.entries.keys

/-- Looking for a connection fails only where there is none. -/
theorem find_eq_error_iff (r : Registry) (vm : String) (e : ControlError) :
    r.find vm = .error e ↔ r.get? vm = none ∧ e = .notAvailable vm := by
  rw [find]
  split
  · next found => simp [found]
  · next absent => simp [absent, eq_comm]

end Registry

end VmControl
