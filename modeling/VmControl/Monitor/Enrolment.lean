import VmControl.Monitor.Registry

/-!
How machines come by their connections and lose them, while calls overlap.

A call that opens a connection makes it first, which may fail at any point, and registers it then;
if another connection was registered, the call closes that one before it returns. A call that takes
a connection away unregisters it first and closes it then. Between two steps of a call any steps of
others may come.
-/

namespace VmControl

/-- How far a call has come. -/
inductive EnrolmentCall where
  /-- The connection of a machine is being made. -/
  | connecting (vm : String)
  /-- A connection is registered no longer, and this call closes it. -/
  | retiring (connection : Nat)
  | returned
deriving DecidableEq

/-- The connections of machines and the calls that change them. -/
structure Enrolment where
  /-- The connections that are registered. -/
  registry : Registry
  /-- The number of connections that were made so far; they are numbered from zero. -/
  made : Nat
  /-- The connections that were closed. -/
  closed : List Nat
  /-- The calls so far, in the order in which they began. -/
  calls : List EnrolmentCall
deriving DecidableEq

/-- A step of a call. -/
inductive EnrolmentStep where
  /-- A call begins to make a connection for a machine. -/
  | connect (vm : String)
  /-- The connection of a call is not made. -/
  | fail (call : Nat)
  /-- The connection of a call is made and registered. -/
  | register (call : Nat)
  /-- A call begins to take the connection of a machine away and unregisters it. -/
  | dismiss (vm : String)
  /-- A call closes the connection that it has taken away or replaced. -/
  | close (call : Nat)
deriving DecidableEq

namespace Enrolment

/-- No connection was ever made. -/
def new : Enrolment := ⟨.empty, 0, [], []⟩

/-- The call that follows a change of the registration of a machine: it closes the connection that
was registered before, if there was one. -/
def retire : Option Nat → EnrolmentCall
  | some connection => .retiring connection
  | none => .returned

/-- The connections and calls after a step, if the step can happen. -/
def step? (e : Enrolment) : EnrolmentStep → Option Enrolment
  | .connect vm => some { e with calls := e.calls ++ [.connecting vm] }
  | .fail call =>
    match e.calls[call]? with
    | some (.connecting _) => some { e with calls := e.calls.set call .returned }
    | _ => none
  | .register call =>
    match e.calls[call]? with
    | some (.connecting vm) =>
      some { e with
        registry := e.registry.register vm e.made
        made := e.made + 1
        calls := e.calls.set call (retire (e.registry.get? vm)) }
    | _ => none
  | .dismiss vm =>
    some { e with
      registry := e.registry.unregister vm
      calls := e.calls ++ [retire (e.registry.get? vm)] }
  | .close call =>
    match e.calls[call]? with
    | some (.retiring connection) =>
      some { e with closed := connection :: e.closed, calls := e.calls.set call .returned }
    | _ => none

/-- The connections and calls after a step; a step that cannot happen changes nothing. -/
def step (e : Enrolment) (a : EnrolmentStep) : Enrolment := (e.step? a).getD e

/-- The connections and calls after steps. -/
def run (e : Enrolment) (steps : List EnrolmentStep) : Enrolment := steps.foldl step e

/-- The connection that a call closes next. -/
def retiring? (e : Enrolment) (call : Nat) : Option Nat :=
  match e.calls[call]? with
  | some (.retiring connection) => some connection
  | _ => none

/-- The number of the call that begins next. -/
def nextCall (e : Enrolment) : Nat := e.calls.length

end Enrolment

end VmControl
