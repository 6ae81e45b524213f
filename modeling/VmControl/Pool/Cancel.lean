import VmControl.Pool.Call

/-!
Cancelling one task, or all tasks of a machine.

A task is found, told to stop, and awaited until its run has come to its end; then it is
unregistered, unless another task has taken its place meanwhile.
-/

namespace VmControl

/-- A registered task that a call has found. -/
abbrev FoundTask := TaskId × Nat

namespace Pool

/-- Tells a task to stop; refused when it is not in progress. -/
def fire? (p : Pool) (number : Nat) : Option Pool :=
  match p.jobs[number]? with
  | some j => (j.task.cancel?).map fun task => p.setJob number { j with task := task }
  | none => none

/-- Whether everyone who waits for a task has been released. -/
def isReleased (p : Pool) (number : Nat) : Bool := (p.jobs[number]?).all (·.isReleased)

/-- Unregisters a task, unless another one has taken its place. -/
def unregister (p : Pool) (found : FoundTask) : Pool :=
  { p with table := p.table.release found.1 found.2 }

end Pool

/-- How far the cancellation of a task has come. -/
inductive CancelCall where
  | found (task : FoundTask)
  /-- The task was told to stop. -/
  | awaiting (task : FoundTask)
  /-- The task has come to its end. -/
  | ended (task : FoundTask)
deriving DecidableEq

/-- A step of the cancellation of a task. -/
abbrev CancelStep := CallStep CancelCall (Except ControlError Unit)

namespace CancelCall

def begin (p : Pool) (id : TaskId) : CancelStep :=
  match p.table.get? id with
  | none => (p, .over (.error (.taskNotFound id.text)))
  | some number => (p, .goesOn (.found (id, number)) [])

/-- The next step of the call, if it can go on now. -/
def step? (p : Pool) (c : CancelCall) : Option CancelStep :=
  match c with
  | .found task =>
    match p.fire? task.2 with
    | none => some (p, .over (.error .taskNotRunning))
    | some p => some (p, .goesOn (.awaiting task) [])
  | .awaiting task => if p.isReleased task.2 then some (p, .goesOn (.ended task) []) else none
  | .ended task => some (p.unregister task, .over (.ok ()))

end CancelCall

/-- How far the cancellation of all tasks of a machine has come. -/
inductive CancelAllCall where
  /-- Some of the tasks that were found are still to be told to stop. -/
  | firing (left all : List FoundTask)
  /-- All were told to stop. -/
  | awaiting (all : List FoundTask)
  /-- All have come to their end, and some are still to be unregistered. -/
  | unregistering (left : List FoundTask)
deriving DecidableEq

/-- A step of the cancellation of all tasks of a machine. -/
abbrev CancelAllStep := CallStep CancelAllCall Unit

namespace CancelAllCall

def begin (p : Pool) (vm : String) : CancelAllCall :=
  let all := p.table.entries.filter fun entry => entry.1.involves vm
  .firing all all

/-- The next step of the call, if it can go on now. Those that are not in progress are awaited and
unregistered as well. -/
def step? (p : Pool) (c : CancelAllCall) : Option CancelAllStep :=
  match c with
  | .firing (task :: left) all => some ((p.fire? task.2).getD p, .goesOn (.firing left all) [])
  | .firing [] all => some (p, .goesOn (.awaiting all) [])
  | .awaiting all =>
    if all.all fun task => p.isReleased task.2 then some (p, .goesOn (.unregistering all) [])
    else none
  | .unregistering (task :: left) => some (p.unregister task, .goesOn (.unregistering left) [])
  | .unregistering [] => some (p, .over ())

end CancelAllCall

end VmControl
