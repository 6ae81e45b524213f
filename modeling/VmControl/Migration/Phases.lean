import VmControl.Migration.Mirroring
import VmControl.Migration.Transfer

/-!
The two phases of a migration, which run side by side.

The mirrors run until all disks are ready; that opens the gate behind which the transfer of the
machine state waits. Its end opens the gate behind which the mirrors wait to be completed. A phase
that fails interrupts the other one at its next wait. Main statement:

- `Phases.disksReady_kept`: a round of the mirrors does not shut the gate behind which the transfer
  waits.
-/

namespace VmControl

/-- The two phases of a migration. -/
structure Phases where
  /-- Where the receiving machine waits for its state. -/
  incoming : Endpoint
  /-- Where the disks are offered for writing, if there are any. -/
  offered : Option Endpoint
  /-- Opens when all disks are ready. -/
  disksReady : Gate
  /-- Opens when the machine state is on the other side. -/
  migrated : Gate
  /-- Whether a phase has failed. -/
  broken : Bool
  mirroring : Mirroring
  /-- The transfer of the machine state. -/
  transfer : Transfer

/-- The turn of a phase, which tells on whose behalf an order is given. -/
abbrev PhaseTurn := Turn (Part × Order) Phases

namespace Phases

/-- The phases of a migration with disks. -/
def withDisks (stamp : Timestamp) (incoming offered : Endpoint) (disks : List Disk) : Phases :=
  ⟨incoming, some offered, .shut, .shut, false, .new stamp disks, .blocked⟩

/-- The phases of a migration without disks: there is nothing to mirror and nothing to wait for. -/
def withoutDisks (incoming : Endpoint) : Phases :=
  ⟨incoming, none, .opened, .shut, false, .ended (.ok ()), .blocked⟩

/-- Whether the phases are interrupted, by the operator or by a failure. -/
def isStopped (p : Phases) (cancelled : Bool) : Bool := cancelled || p.broken

/-- The phases after a turn of the mirrors. -/
def afterMirror (p : Phases) : Except ControlError Mirroring → Phases
  | .ok m =>
    { p with
      mirroring := m
      disksReady := if m.isSynced then p.disksReady.openNow.2 else p.disksReady }
  | .error e => { p with mirroring := .ended (.error e), broken := true }

/-- The phases after a turn of the transfer. -/
def afterTransfer (p : Phases) : Except ControlError Transfer → Phases
  | .ok t =>
    { p with
      transfer := t
      migrated := if t.outcome?.isSome then p.migrated.openNow.2 else p.migrated }
  | .error e => { p with transfer := .ended (.error e), broken := true }

/-- The turn of the phases when something happens to one of them, if it can happen now. -/
def react? (plan : MigrationPlan) (s : Surroundings) (cancelled : Bool) (p : Phases)
    (part : Part) (h : Happening) : Option PhaseTurn :=
  match part with
  | .transfer =>
    (p.transfer.react? plan p.incoming s (p.isStopped cancelled) p.disksReady h).map fun t =>
      (t.mapOrder (Part.transfer, ·)).map p.afterTransfer
  | part =>
    match p.offered with
    | some target =>
      (p.mirroring.react? plan target s (p.isStopped cancelled) p.migrated part h).map
        (·.map p.afterMirror)
    | none => none

/-- The failure of two phases, if one failed. One that failed by itself is told before one that was
interrupted. -/
def firstFailure : Except ControlError Unit → Except ControlError Unit → Except ControlError Unit
  | .ok (), b => b
  | .error e, .ok () => .error e
  | .error e, .error f => .error (if e.isInterrupted then f else e)

/-- The outcome when both phases are over. -/
def outcome? (p : Phases) : Option (Except ControlError Unit) :=
  match p.mirroring.outcome?, p.transfer.outcome? with
  | some mirrored, some transferred => some (firstFailure mirrored transferred)
  | _, _ => none

/-- Everyone who can act during the phases. -/
def parts (p : Phases) : List Part :=
  .transfer :: .watch :: (List.range p.mirroring.legs.length).map .leg

/-- The moments at which someone wakes by itself. -/
def dues (p : Phases) : List Nat :=
  p.transfer.due?.toList ++ p.mirroring.dues

/-- An open gate for the transfer is not shut again. -/
theorem disksReady_kept {p : Phases} (m : Except ControlError Mirroring)
    (passed : p.disksReady.isOpen = true) : (p.afterMirror m).disksReady.isOpen = true := by
  cases m with
  | error e => exact passed
  | ok m =>
    rw [afterMirror]
    dsimp only
    split
    · rfl
    · exact passed

end Phases

end VmControl
