import VmControl.Gate

/-!
A rehearsal of waiting at a gate: one gate, named waiters, and named tokens that can be fired.
-/

namespace VmControl

/-- One gate, its waiters and the tokens that have fired. -/
structure GateRehearsal where
  gate : Gate
  /-- The tokens that have fired. -/
  fired : List String
  /-- Who waits, and with which token. -/
  waiters : List (String × String)
deriving DecidableEq

namespace GateRehearsal

/-- The rehearsal of a gate. -/
def new (gate : Gate) : GateRehearsal := ⟨gate, [], []⟩

/-- What the gate gives a waiter. -/
def lookFor (r : GateRehearsal) (token : String) : Option (Except ControlError Unit) :=
  r.gate.look (r.fired.contains token)

/-- Lets everything happen that can happen now. Those who ended are told in the order of their
names. -/
def settle (r : GateRehearsal) : GateRehearsal × List (String × Except ControlError Unit) :=
  ({ r with waiters := r.waiters.filter fun w => (r.lookFor w.2).isNone },
    (r.waiters.filterMap fun w => (r.lookFor w.2).map (fun o => (w.1, o))).mergeSort
      (fun a b => decide (a.1 ≤ b.1)))

/-- Someone begins to wait. -/
def wait (r : GateRehearsal) (name token : String) : GateRehearsal :=
  { r with waiters := r.waiters ++ [(name, token)] }

def cancel (r : GateRehearsal) (token : String) : GateRehearsal :=
  { r with fired := token :: r.fired }

def openNow (r : GateRehearsal) : Bool × GateRehearsal :=
  (r.gate.openNow.1, { r with gate := r.gate.openNow.2 })

end GateRehearsal

end VmControl
