import VmControl.Task.Surroundings

/-!
The waits of a task: for an event of its machine, for time to pass, and for something that may take
only so long.

A wait ends when what it waits for is there, when it is interrupted, or when its time has run out.
Which of these is noticed first is open, but an interruption is noticed before a pause ends. Main
statements:

- `Await.wake_interrupt_isSome_iff`, `Pause.wake_interrupt_isSome_iff`: only a cancelled wait is
  interrupted.
-/

namespace VmControl

/-- What wakes a wait. -/
inductive Wake where
  | notice
  | interrupt
  /-- The time has run out. -/
  | elapse
deriving DecidableEq

/-- A wait for an event. -/
structure Await where
  /-- The connection whose log is watched. -/
  connection : Nat
  waiter : Waiter

/-- What comes of a wait for an event. -/
inductive AwaitResult where
  | waits (a : Await)
  | over (outcome : Except ControlError Event)

namespace Await

/-- Begins to wait for an event of a machine. The log of the connection that the machine has now is
watched to the end; what it holds already counts. -/
def begin (s : Surroundings) (vm : String) (wanted : Wanted) (timeout : UInt64) : AwaitResult :=
  match s.registry.find vm with
  | .error e => .over (.error e)
  | .ok connection =>
    let log := s.log connection
    match log.look wanted with
    | some outcome => .over outcome
    | none => .waits ⟨connection, Waiter.begin log wanted timeout s.now⟩

/-- What comes of a wait that is woken, if it can be woken so. -/
def wake (a : Await) (s : Surroundings) (cancelled : Bool) : Wake → Option AwaitResult
  | .notice =>
    let log := s.log a.connection
    if a.waiter.isStirred log then
      match log.look a.waiter.wanted with
      | some outcome => some (.over outcome)
      | none => some (.waits { a with waiter := a.waiter.notice log })
    else none
  | .interrupt => if cancelled then some (.over (.error .interrupted)) else none
  | .elapse => if a.waiter.isDue s.now then some (.over (.error a.waiter.timeoutError)) else none

/-- Only a cancelled wait is interrupted. -/
theorem wake_interrupt_isSome_iff (a : Await) (s : Surroundings) (cancelled : Bool) :
    (a.wake s cancelled .interrupt).isSome = true ↔ cancelled = true := by
  cases cancelled <;> simp [wake]

end Await

structure Pause where
  /-- The moment at which it ends, in milliseconds. -/
  due : Nat
deriving DecidableEq

namespace Pause

def begin (s : Surroundings) (ms : UInt64) : Pause := ⟨s.after ms⟩

/-- Whether the time has come. -/
def isDue (p : Pause) (s : Surroundings) : Bool := decide (p.due ≤ s.now)

/-- How a pause that is woken ends, if it can be woken so. -/
def wake (p : Pause) (s : Surroundings) (cancelled : Bool) :
    Wake → Option (Except ControlError Unit)
  | .notice => none
  | .interrupt => if cancelled then some (.error .interrupted) else none
  | .elapse => if p.isDue s && !cancelled then some (.ok ()) else none

/-- Only a cancelled pause is interrupted. -/
theorem wake_interrupt_isSome_iff (p : Pause) (s : Surroundings) (cancelled : Bool) :
    (p.wake s cancelled .interrupt).isSome = true ↔ cancelled = true := by
  cases cancelled <;> simp [wake]

end Pause

/-- A bound on the time that something may take. -/
structure Bound where
  what : String
  /-- The time it may take, in milliseconds. -/
  limit : UInt64
  /-- The moment at which the time has run out, in milliseconds. -/
  due : Nat
deriving DecidableEq

namespace Bound

/-- The bound on something that begins now. -/
def begin (s : Surroundings) (what : String) (limit : UInt64) : Bound :=
  ⟨what, limit, s.after limit⟩

/-- Whether the time has run out. -/
def isDue (b : Bound) (s : Surroundings) : Bool := decide (b.due ≤ s.now)

/-- The failure when the time has run out. -/
def failure (b : Bound) : ControlError :=
  .deadlineExceeded (b.what ++ " did not finish within " ++ (Duration.ofMillis b.limit).text)

end Bound

end VmControl
