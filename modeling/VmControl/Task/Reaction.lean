import VmControl.Copy.Target
import VmControl.Monitor.Order
import VmControl.Monitor.Reply
import VmControl.Peer.Request
import VmControl.Stat
import VmControl.Task.Wait

/-!
How a part of a task reacts to what happens to it.

In each turn a part gives at most one order. Seen from the whole, a part orders and reports the same
(`Turn.map_order`, `Turn.map_reports`).
-/

namespace VmControl

/-- Who acts within a task. -/
inductive Part where
  /-- The task as a whole. -/
  | course
  /-- The mirror of the disk at a position. -/
  | leg (position : Nat)
  | watch
  /-- The transfer of the machine state. -/
  | transfer
deriving DecidableEq

/-- What happens to a part of a task. -/
inductive Happening where
  /-- Nothing holds the part back. -/
  | enter
  /-- The monitor has answered its order. -/
  | reply (answer : Except ControlError Json)
  /-- The receiving host has answered its request. -/
  | answer (answer : Except ControlError PeerReply)
  /-- The target of its copy is ready, or cannot be made ready. -/
  | prepared (answer : Except ControlError CopyTarget)
  /-- The addresses of a host were found, or why they were not. -/
  | found (answer : Except String (List IpAddress))
  | wake (w : Wake)

/-- What comes of a request under a bound, if something comes of it now. Whoever may be interrupted
notices that before the answer. -/
def Bound.resolve? (b : Bound) (s : Surroundings) (interrupted : Bool) :
    Happening → Option (Except ControlError PeerReply)
  | .answer answer => if interrupted then none else some answer
  | .wake .interrupt => if interrupted then some (.error .interrupted) else none
  | .wake .elapse => if b.isDue s && !interrupted then some (.error b.failure) else none
  | _ => none

/-- What one turn brings about. -/
structure Turn (ω σ : Type) where
  next : σ
  /-- The order that is given. -/
  order : Option ω
  /-- The statistics that are reported, oldest first. -/
  reports : List StatUpdate

namespace Turn

variable {ω χ σ τ : Type}

/-- The turn of a whole of which the one that acts is a part. -/
def map (f : σ → τ) (t : Turn ω σ) : Turn ω τ := ⟨f t.next, t.order, t.reports⟩

/-- The turn with its order told in another way. -/
def mapOrder (f : ω → χ) (t : Turn ω σ) : Turn χ σ := ⟨t.next, t.order.map f, t.reports⟩

@[simp] theorem map_next (f : σ → τ) (t : Turn ω σ) : (t.map f).next = f t.next := rfl

@[simp] theorem map_order (f : σ → τ) (t : Turn ω σ) : (t.map f).order = t.order := rfl

@[simp] theorem map_reports (f : σ → τ) (t : Turn ω σ) : (t.map f).reports = t.reports := rfl

end Turn

/-- The turn of a part, which may fail. -/
abbrev Reaction (σ : Type) := Turn Order (Except ControlError σ)

namespace Reaction

variable {σ : Type}

/-- The part goes on. -/
def stay (next : σ) : Reaction σ := ⟨.ok next, none, []⟩

/-- The part gives an order. -/
def ask (next : σ) (order : Order) : Reaction σ := ⟨.ok next, some order, []⟩

def fail (e : ControlError) : Reaction σ := ⟨.error e, none, []⟩

end Reaction

end VmControl
