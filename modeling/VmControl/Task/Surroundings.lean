import VmControl.Monitor.EventLog
import VmControl.Monitor.Registry

/-!
What a task sees of its surroundings at one moment: the clocks, the monitor connections and the
events that each of them has logged.

Main statement:

- `Surroundings.find_eq_error_iff`: a search fails only for a machine without a connection.
-/

namespace VmControl

/-- What surrounds a task at one moment. -/
structure Surroundings where
  /-- The time passed, in milliseconds. -/
  now : Nat
  stamp : Timestamp
  /-- The monitor connections of machines. -/
  registry : Registry
  /-- The events of each connection. -/
  log : Nat → EventLog

namespace Surroundings

/-- The events of a machine that are wanted. -/
def find (s : Surroundings) (vm : String) (wanted : Wanted) : Except ControlError (List Event) :=
  (s.registry.find vm).map fun connection => (s.log connection).find wanted

/-- The moment after a time in milliseconds. -/
def after (s : Surroundings) (ms : UInt64) : Nat := s.now + ms.toNat

/-- A search fails only for a machine without a connection. -/
theorem find_eq_error_iff (s : Surroundings) (vm : String) (wanted : Wanted) (e : ControlError) :
    s.find vm wanted = .error e ↔ s.registry.get? vm = none ∧ e = .notAvailable vm := by
  rw [← Registry.find_eq_error_iff, find]
  cases s.registry.find vm <;> simp [Except.map]

end Surroundings

end VmControl
