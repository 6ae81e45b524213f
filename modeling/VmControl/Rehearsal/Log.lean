import VmControl.Monitor.EventLog

/-!
A rehearsal of waiting for events: one log, any number of named waiters with one token, and a clock
that only moves when it is told to.
-/

namespace VmControl

/-- One log, its waiters and a clock in milliseconds. -/
structure LogRehearsal where
  now : Nat
  log : EventLog
  /-- Whether the token of the waiters has fired. -/
  cancelled : Bool
  waiters : List (String × Waiter)

namespace LogRehearsal

/-- A waiter that has ended, with what it got. -/
abbrev Ended := String × Except ControlError Event

/-- The rehearsal of an empty log. -/
def new (capacity : Nat) : LogRehearsal := ⟨0, EventLog.new capacity, false, []⟩

/-- Lets every waiter go on; tells who still waits and who has ended. -/
def resumeAll (r : LogRehearsal) : List (String × Waiter) → List (String × Waiter) × List Ended
  | [] => ([], [])
  | (name, w) :: rest =>
    let tail := r.resumeAll rest
    match w.resume r.log r.cancelled r.now with
    | .ok outcome => (tail.1, (name, outcome) :: tail.2)
    | .error w => ((name, w) :: tail.1, tail.2)

/-- Lets everything happen that can happen now. Those who ended are told in the order of their
names. -/
def settle (r : LogRehearsal) : LogRehearsal × List Ended :=
  let all := r.resumeAll r.waiters
  ({ r with waiters := all.1 }, all.2.mergeSort (fun a b => decide (a.1 ≤ b.1)))

/-- Someone begins to wait. -/
def wait (r : LogRehearsal) (name : String) (wanted : Wanted) (timeout : UInt64) : LogRehearsal :=
  { r with waiters := r.waiters ++ [(name, Waiter.begin r.log wanted timeout r.now)] }

def advance (r : LogRehearsal) (ms : Nat) : LogRehearsal := { r with now := r.now + ms }

end LogRehearsal

end VmControl
