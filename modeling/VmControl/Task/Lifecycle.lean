import VmControl.Error

/-!
The life of a task that can be started, cancelled, awaited and started again.

A run ends in two steps: first the task becomes idle and keeps the outcome, then everyone who waits
for that run is released. A new run may begin between the two.
-/

namespace VmControl

/-- A task and its runs, which are numbered from one. -/
structure Task where
  /-- The number of runs so far. -/
  runs : Nat
  /-- The token of the current run, told by whether it has fired; nothing while idle. -/
  token : Option Bool
  /-- The failure of the last run. -/
  err : Option ControlError
  /-- The runs whose waiters have been released. -/
  released : List Nat
deriving DecidableEq

namespace Task

/-- A task that was never started. -/
def new : Task := ⟨0, none, none, []⟩

/-- Whether a run is in progress. -/
def inProgress (t : Task) : Bool := t.token.isSome

/-- Whether the token of the current run has fired. -/
def isCancelled (t : Task) : Bool := t.token = some true

/-- Begins a run; refused while one is in progress. -/
def start? (t : Task) : Option Task :=
  match t.token with
  | some _ => none
  | none => some { t with runs := t.runs + 1, token := some false, err := none }

/-- Fires the token of the current run; refused while idle. -/
def cancel? (t : Task) : Option Task :=
  match t.token with
  | some _ => some { t with token := some true }
  | none => none

/-- The task after the body of the current run has returned. -/
def finish (t : Task) (err : Option ControlError) : Task := { t with token := none, err := err }

/-- Releases everyone who waits for a run. -/
def release (t : Task) (run : Nat) : Task := { t with released := run :: t.released }

/-- The run that a wait beginning now is for. -/
def awaited (t : Task) : Nat := t.runs

/-- Whether a wait for a run is over; a wait for a task never started is over at once. -/
def isReleased (t : Task) (run : Nat) : Bool := run = 0 || t.released.contains run

/-- The text that shows a task to a developer. -/
def debugText (t : Task) : String :=
  "Task \x7b in_progress: " ++ (if t.inProgress then "true" else "false") ++ ", .. \x7d"

end Task

end VmControl
