import VmControl.Task.Lifecycle

/-!
A rehearsal of one task: bodies that end after a given time, and a clock that jumps to the next
moment at which something happens.
-/

namespace VmControl

/-- How a body reacts to its cancellation. -/
inductive OnCancel where
  | ignore
  /-- It ends after a delay with an outcome. -/
  | finish (delay : Nat) (outcome : Option ControlError)
deriving DecidableEq

/-- What a body does. -/
structure BodyPlan where
  /-- When it ends by itself, counted from its start. -/
  after : Nat
  outcome : Option ControlError
  /-- Its reaction to a cancellation. -/
  onCancel : OnCancel
deriving DecidableEq

/-- A body at work. -/
structure Body where
  /-- The run that it is. -/
  run : Nat
  due : Nat
  outcome : Option ControlError
  /-- Its reaction to a cancellation that it has not noticed yet. -/
  onCancel : OnCancel
deriving DecidableEq

/-- A task, its body if one is at work, and a clock in milliseconds. -/
structure TaskRehearsal where
  now : Nat
  task : Task
  body : Option Body
deriving DecidableEq

namespace TaskRehearsal

/-- The rehearsal of a task never started. -/
def new : TaskRehearsal := ⟨0, .new, none⟩

/-- Lets the body notice its cancellation. -/
def notice (r : TaskRehearsal) (b : Body) : Body :=
  match r.task.isCancelled, b.onCancel with
  | true, .finish delay outcome => ⟨b.run, r.now + delay, outcome, .ignore⟩
  | _, _ => b

/-- Lets everything happen that can happen now: the body notices its cancellation, or ends. -/
def settle (r : TaskRehearsal) : TaskRehearsal :=
  match r.body with
  | none => r
  | some b =>
    let b := r.notice b
    if b.due ≤ r.now then
      { r with task := (r.task.finish b.outcome).release b.run, body := none }
    else { r with body := some b }

/-- Starts a body; refused while one is at work. -/
def start (r : TaskRehearsal) (plan : BodyPlan) : Except ControlError TaskRehearsal :=
  match r.task.start? with
  | none => .error .taskAlreadyRunning
  | some task =>
    .ok { r with
      task := task
      body := some ⟨task.runs, r.now + plan.after, plan.outcome, plan.onCancel⟩ }

/-- Cancels the body; refused when none is at work. -/
def cancel (r : TaskRehearsal) : Except ControlError TaskRehearsal :=
  match r.task.cancel? with
  | none => .error .taskNotRunning
  | some task => .ok { r with task := task }

def advance (r : TaskRehearsal) (ms : Nat) : TaskRehearsal :=
  let target := r.now + ms
  match r.body with
  | some b =>
    if b.due ≤ target then { ({ r with now := b.due } : TaskRehearsal).settle with now := target }
    else { r with now := target }
  | none => { r with now := target }

/-- Waits until the current run is released. -/
def wait (r : TaskRehearsal) : TaskRehearsal :=
  match r.body with
  | some b => if r.task.isReleased r.task.awaited then r
    else ({ r with now := max r.now b.due } : TaskRehearsal).settle
  | none => r

end TaskRehearsal

end VmControl
