import VmControl.Migration.Phases
import VmControl.Task.Effect

/-!
The run of a migration, from the first request to the receiving host to its end.

The receiving host starts a machine that waits for its state and offers its disks, the two phases do
the work, and the machine there is let run while the one here is ended. A failure at any point
before that is rolled back: every mirror is cancelled, then the transfer, and the machine on the
other host is removed, whatever comes of each of these. Main statement:

- `MigrationRun.begin_cancelled`: a run cancelled before its first step asks the receiving host for
  nothing.
-/

namespace VmControl

/-- Why a migration is rolled back. -/
structure RollbackCause where
  error : ControlError
  /-- Whether it is the cancellation that the operator asked for. -/
  interrupted : Bool
deriving DecidableEq

namespace RollbackCause

/-- What the statistics say about it. -/
def reports (c : RollbackCause) : List StatUpdate :=
  [.error c.error.message, .status (if c.interrupted then .interrupted else .failed)]

end RollbackCause

/-- How far a migration has come. -/
inductive RunStage where
  | fresh
  /-- The receiving host was asked to start a machine. -/
  | provisioning (address : IpAddress) (b : Bound)
  /-- The receiving host was asked to offer the disks. -/
  | offering (incoming : Endpoint) (b : Bound)
  /-- The two phases do the work. -/
  | transferring (phases : Phases)
  /-- The receiving host was asked to offer the disks no longer. -/
  | withdrawing (b : Bound)
  /-- The receiving host was asked to let the machine run. -/
  | resuming (b : Bound)
  /-- The end of the machine was ordered. -/
  | quitting
  /-- The cancellation of a mirror was ordered; others are left. -/
  | cancellingJobs (left : List String) (cause : RollbackCause)
  /-- The cancellation of the transfer was ordered. -/
  | cancellingTransfer (cause : RollbackCause)
  /-- The receiving host was asked to remove the machine. -/
  | removing (b : Bound) (cause : RollbackCause)
  | closing (e : Ending)

/-- A run of a migration. -/
structure MigrationRun where
  /-- What is to be done. -/
  plan : MigrationPlan
  /-- How far it has come. -/
  stage : RunStage
  account : Account MigrationStat

/-- A run after a step and what it wants done. -/
abbrev RunStep := MigrationRun × List Effect

namespace MigrationRun

/-- A run that has not begun. -/
def new (plan : MigrationPlan) (stamp : Timestamp) : MigrationRun :=
  ⟨plan, .fresh,
    .new (.start plan.options.dstServer (plan.options.disks.map (·.path)) stamp)⟩

def vm (r : MigrationRun) : String := r.plan.options.vmName

/-- The machine on the receiving host. -/
def dstVm (r : MigrationRun) : String := r.plan.options.dstVmName

/-- The configuration that is handed on. -/
def manifest (r : MigrationRun) : Manifest := ⟨r.plan.options.manifest, r.plan.options.extraFiles⟩

/-- The mirror jobs of all disks. -/
def jobs (r : MigrationRun) : List String := r.plan.options.disks.map (·.mirrorJob)

/-- The outcome of a run that has ended. -/
def outcome? (r : MigrationRun) : Option (Except ControlError Unit) :=
  match r.stage with
  | .closing e => e.outcome?
  | _ => none

/-- The run at another stage. -/
def goTo (r : MigrationRun) (stage : RunStage) : MigrationRun := { r with stage := stage }

/-- The run after sending updates of its statistics. -/
def report (r : MigrationRun) (updates : List StatUpdate) : MigrationRun :=
  { r with account := r.account.report updates }

/-- The bound on an ordinary request to the receiving host. -/
def bound (r : MigrationRun) (s : Surroundings) (what : String) : Bound :=
  .begin s what r.plan.config.remoteTimeout

/-- The run comes to an outcome. -/
def close (r : MigrationRun) (outcome : Except ControlError Unit) : RunStep :=
  (r.goTo (.closing (.draining outcome)), [])

/-! ## Rolling back -/

/-- Cancels the first of the mirrors that are left, or the transfer when none is. -/
def cancelNext (r : MigrationRun) (cause : RollbackCause) : List String → RunStep
  | [] => (r.goTo (.cancellingTransfer cause), [.order .course .migrateCancel])
  | job :: left => (r.goTo (.cancellingJobs left cause), [.order .course (.blockJobCancel job)])

/-- Begins to roll back after a failure. -/
def rollBack (r : MigrationRun) (cancelled : Bool) (e : ControlError) : RunStep :=
  r.cancelNext ⟨e, e.isInterrupted && cancelled⟩ r.jobs

/-- Asks the receiving host to remove the machine. -/
def remove (r : MigrationRun) (s : Surroundings) (cause : RollbackCause) : RunStep :=
  (r.goTo (.removing (r.bound s "config removal") cause), [.request (.removeConfig r.dstVm)])

/-- The rollback is over. -/
def rolledBack (r : MigrationRun) (cause : RollbackCause) : RunStep :=
  (r.report cause.reports).close (.error cause.error)

/-! ## Going forward -/

/-- The work is done: ends the machine here unless the operator has cancelled. -/
def complete (r : MigrationRun) (cancelled : Bool) : RunStep :=
  let r := r.report [.status .completed]
  if cancelled then r.close (.ok ()) else (r.goTo .quitting, [.order .course .quit])

/-- Lets the machine run on the receiving host. -/
def resume (r : MigrationRun) (s : Surroundings) : RunStep :=
  (r.goTo (.resuming (r.bound s "continue")), [.request (.sendContinue r.dstVm)])

/-- Both phases are over, with success. -/
def finishPhases (r : MigrationRun) (s : Surroundings) (p : Phases) : RunStep :=
  if p.offered.isSome then
    (r.goTo (.withdrawing (r.bound s "export server stop")), [.request (.stopExport r.dstVm)])
  else r.resume s

/-- The run after a turn of the phases. -/
def onPhases (r : MigrationRun) (s : Surroundings) (cancelled : Bool) (t : PhaseTurn) : RunStep :=
  let r := r.report t.reports
  match t.next.outcome? with
  | none =>
    (r.goTo (.transferring t.next), t.order.toList.map fun (part, order) => .order part order)
  | some (.ok ()) => r.finishPhases s t.next
  | some (.error e) => r.rollBack cancelled e

/-- The disks are offered, or cannot be. -/
def onOffered (r : MigrationRun) (s : Surroundings) (cancelled : Bool) (incoming : Endpoint) :
    Except ControlError PeerReply → RunStep
  | .error e => r.rollBack cancelled e
  | .ok answer =>
    (r.goTo (.transferring (.withDisks s.stamp incoming ⟨incoming.address, answer.portNumber⟩
      r.plan.options.disks)), [])

/-- The receiving machine has been started, or cannot be. -/
def onProvisioned (r : MigrationRun) (s : Surroundings) (cancelled : Bool) (address : IpAddress) :
    Except ControlError PeerReply → RunStep
  | .error e => r.rollBack cancelled e
  | .ok answer =>
    let incoming : Endpoint := ⟨address, answer.portNumber⟩
    if r.plan.options.disks.isEmpty then
      (r.goTo (.transferring (.withoutDisks incoming)), [])
    else
      (r.goTo (.offering incoming (r.bound s "export server startup")),
        [.request (.startExport r.dstVm address r.plan.options.dstDiskPaths)])

def begin (r : MigrationRun) (s : Surroundings) (cancelled : Bool) : RunStep :=
  let r := r.report [.status .inMigrate]
  match r.plan.options.primaryAddr with
  | .error e => r.rollBack cancelled (.invalidOptions e)
  | .ok address =>
    if cancelled then r.rollBack cancelled .interrupted
    else
      let b := Bound.begin s "incoming instance startup" r.plan.config.incomingTimeout
      (r.goTo (.provisioning address b), [.request (.startIncoming r.manifest)])

/-! ## Steps -/

/-- What comes of something that happens to a part of the run, if it can happen now. -/
def act? (r : MigrationRun) (s : Surroundings) (cancelled : Bool) (part : Part) (h : Happening) :
    Option RunStep :=
  match r.stage, part with
  | .transferring p, part =>
    (p.react? r.plan s cancelled part h).map (r.onPhases s cancelled)
  | .fresh, .course =>
    match h with
    | .enter => some (r.begin s cancelled)
    | _ => none
  | .provisioning address b, .course =>
    (b.resolve? s cancelled h).map (r.onProvisioned s cancelled address)
  | .offering incoming b, .course =>
    (b.resolve? s cancelled h).map (r.onOffered s cancelled incoming)
  | .withdrawing b, .course => (b.resolve? s false h).map fun _ => r.resume s
  | .resuming b, .course => (b.resolve? s false h).map fun _ => r.complete cancelled
  | .quitting, .course =>
    match h with
    | .reply _ => some (r.close (.ok ()))
    | _ => none
  | .cancellingJobs left cause, .course =>
    match h with
    | .reply _ => some (r.cancelNext cause left)
    | _ => none
  | .cancellingTransfer cause, .course =>
    match h with
    | .reply _ => some (r.remove s cause)
    | _ => none
  | .removing b cause, .course => (b.resolve? s false h).map fun _ => r.rolledBack cause
  | _, _ => none

/-- What comes of a stimulus, if it can happen now. -/
def step? (r : MigrationRun) (s : Surroundings) (cancelled : Bool) (x : Stimulus) :
    Option RunStep :=
  match x with
  | .act part h => r.act? s cancelled part h
  | .fold => (r.account.fold? s.stamp).map fun account => ({ r with account := account }, [])
  | x =>
    match r.stage with
    | .closing e =>
      (e.step? r.account (.keepMigration r.vm r.account.stat) x).map fun (e, effects) =>
        (r.goTo (.closing e), effects)
    | _ => none

/-- Everyone who can act. -/
def parts (r : MigrationRun) : List Part :=
  match r.stage with
  | .transferring p => p.parts
  | _ => [.course]

/-- The moments at which someone wakes by itself. -/
def dues (r : MigrationRun) : List Nat :=
  match r.stage with
  | .transferring p => p.dues
  | .provisioning _ b | .offering _ b | .withdrawing b | .resuming b | .removing b _ => [b.due]
  | _ => []

/-- A run cancelled before its first step asks the receiving host for nothing and rolls back. -/
theorem begin_cancelled (r : MigrationRun) (s : Surroundings) {address : IpAddress}
    (addressed : r.plan.options.primaryAddr = .ok address) :
    r.begin s true = (r.report [.status .inMigrate]).rollBack true .interrupted := by
  have same : (r.report [.status .inMigrate]).plan = r.plan := rfl
  simp [begin, same, addressed]

end MigrationRun

end VmControl
