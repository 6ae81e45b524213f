import VmControl.Monitor.Event

/-!
The bounded log of the events of one monitor, and waiting for an event to appear in it.

The log drops its oldest event when it is full. A waiter remembers how many changes of the log it
has taken into account, so a change between a look and the next wait is never missed. Main
statements:

- `EventLog.length_push_le`: the log stays within its bound;
- `EventLog.mem_find_iff`: what a search finds;
- `EventLog.changes_push`, `EventLog.changes_close`: every change is counted.
-/

namespace VmControl

/-- The events of a monitor, oldest first. -/
structure EventLog where
  /-- The number of events that was asked for. -/
  capacity : Nat
  /-- The events that are kept. -/
  events : List Event
  /-- Whether no further event will come. -/
  closed : Bool
  /-- The number of changes so far. -/
  changes : Nat

namespace EventLog

/-- The bound of a log for which none is given. -/
def defaultCapacity : Nat := 1024

def new (capacity : Nat) : EventLog := ⟨capacity, [], false, 0⟩

/-- The number of events that are kept at most; one is always kept. -/
def bound (log : EventLog) : Nat := max log.capacity 1

/-- Records an event, dropping the oldest one from a full log. -/
def push (log : EventLog) (e : Event) : EventLog :=
  { log with
    events := (if log.events.length = log.bound then log.events.drop 1 else log.events) ++ [e]
    changes := log.changes + 1 }

/-- Marks that no further event will come. -/
def close (log : EventLog) : EventLog := { log with closed := true, changes := log.changes + 1 }

/-- The events that are wanted, oldest first. -/
def find (log : EventLog) (w : Wanted) : List Event := log.events.filter w.holds

/-- The oldest event that is wanted. -/
def first? (log : EventLog) (w : Wanted) : Option Event := log.events.find? w.holds

/-- The failure of a wait on a closed log. -/
def closedError (kind : String) : ControlError :=
  .protocol ("monitor closed while waiting for " ++ kind)

/-- The failure of a wait whose time has run out. -/
def timeoutError (kind : String) (timeout : UInt64) : ControlError :=
  .deadlineExceeded
    ("no " ++ kind ++ " event within " ++ (Duration.ofMillis timeout).secondsText ++ "s")

/-- What a look at the log gives a waiter: the oldest wanted event, or a failure if none is there
and none will come. -/
def look (log : EventLog) (w : Wanted) : Option (Except ControlError Event) :=
  match log.first? w with
  | some e => some (.ok e)
  | none => if log.closed then some (.error (closedError w.kind)) else none

/-- A log within its bound stays within it. -/
theorem length_push_le (log : EventLog) (e : Event) (within : log.events.length ≤ log.bound) :
    (log.push e).events.length ≤ (log.push e).bound := by
  have same : (log.push e).bound = log.bound := rfl
  have positive : 1 ≤ log.bound := Nat.le_max_right _ _
  rw [same, push]
  split
  · next full => simp only [List.length_append, List.length_drop, List.length_singleton]; omega
  · next room => simp only [List.length_append, List.length_singleton]; omega

theorem mem_find_iff (log : EventLog) (w : Wanted) (e : Event) :
    e ∈ log.find w ↔ e ∈ log.events ∧ w.holds e = true := by simp [find]

@[simp] theorem changes_push (log : EventLog) (e : Event) :
    (log.push e).changes = log.changes + 1 :=
  rfl

@[simp] theorem changes_close (log : EventLog) : log.close.changes = log.changes + 1 := rfl

end EventLog

/-- Someone who waits for an event. -/
structure Waiter where
  wanted : Wanted
  timeout : UInt64
  /-- The moment at which the wait runs out, in milliseconds. -/
  deadline : Nat
  /-- The number of changes of the log taken into account. -/
  seen : Nat

namespace Waiter

/-- Begins to wait. The changes are counted before the first look. -/
def begin (log : EventLog) (wanted : Wanted) (timeout : UInt64) (now : Nat) : Waiter :=
  ⟨wanted, timeout, now + timeout.toNat, log.changes⟩

/-- Whether the log has changed since the last look. -/
def isStirred (w : Waiter) (log : EventLog) : Bool := decide (w.seen ≠ log.changes)

/-- The waiter after taking a change into account. -/
def notice (w : Waiter) (log : EventLog) : Waiter := { w with seen := log.changes }

/-- Whether the time has run out. -/
def isDue (w : Waiter) (now : Nat) : Bool := decide (w.deadline ≤ now)

/-- The failure when the time has run out. -/
def timeoutError (w : Waiter) : ControlError := EventLog.timeoutError w.wanted.kind w.timeout

/-- Continues a wait: what the log holds comes first, then the cancellation, then the deadline. -/
def resume (w : Waiter) (log : EventLog) (cancelled : Bool) (now : Nat) :
    Except Waiter (Except ControlError Event) :=
  match log.look w.wanted with
  | some outcome => .ok outcome
  | none =>
    if cancelled then .ok (.error .interrupted)
    else if w.isDue now then .ok (.error w.timeoutError)
    else .error (w.notice log)

end Waiter

end VmControl
