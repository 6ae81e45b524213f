import VmControl.Error

/-!
A signal that orders two phases: shut at first, opened once, never shut again.

Main statements:

- `Gate.openNow_fst_iff`: only the call that finds the gate shut opens it;
- `Gate.look_of_isOpen`: whoever looks at an open gate passes, cancelled or not.
-/

namespace VmControl

/-- A gate between two phases. -/
structure Gate where
  /-- Whether the gate is open. -/
  isOpen : Bool
deriving DecidableEq

namespace Gate

/-- A gate that is shut. -/
def shut : Gate := ⟨false⟩

/-- A gate that is open from the start. -/
def opened : Gate := ⟨true⟩

/-- Opens the gate. The first component tells whether this call did it. -/
def openNow (g : Gate) : Bool × Gate := (!g.isOpen, ⟨true⟩)

/-- What a look at the gate gives a waiter: an open gate lets it pass, a shut one holds it unless it
is cancelled. -/
def look (g : Gate) (cancelled : Bool) : Option (Except ControlError Unit) :=
  if g.isOpen then some (.ok ()) else if cancelled then some (.error .interrupted) else none

/-- Only the call that finds the gate shut opens it. -/
theorem openNow_fst_iff (g : Gate) : g.openNow.1 = true ↔ g.isOpen = false := by simp [Gate.openNow]

/-- Whoever looks at an open gate passes, cancelled or not. -/
theorem look_of_isOpen {g : Gate} (h : g.isOpen = true) (cancelled : Bool) :
    g.look cancelled = some (.ok ()) := by simp [look, h]

end Gate

end VmControl
