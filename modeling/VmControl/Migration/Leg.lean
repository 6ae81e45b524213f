import VmControl.Config
import VmControl.Options
import VmControl.Task.Meter
import VmControl.Task.Reaction

/-!
The mirror of one disk.

A leg starts its mirror job, waits until the job runs, and looks at the listing of jobs again and
again until the mirror is ready. Later, when the machine state is on the other side, it completes
the job and waits for its end. A job that is no longer listed has vanished, and the events tell why.
-/

namespace VmControl

/-- What a migration is to do, and under which bounds. -/
structure MigrationPlan where
  options : MigrationOptions
  config : Config

/-- How far a mirror has come. -/
inductive LegStage where
  /-- It has not been started. -/
  | toStart
  /-- The start of its job was ordered. -/
  | starting
  /-- Its job is expected to run. -/
  | awaitingStart (a : Await)
  | listing
  /-- It rests until the next listing. -/
  | pausing (p : Pause)
  /-- Its job is ready to be completed. -/
  | ready
  | toComplete
  /-- The completion of its job was ordered at a given time. -/
  | completing (since : Timestamp)
  /-- Its job is expected to end. -/
  | awaitingEnd (a : Await)
  | concluded

/-- The mirror of one disk. -/
structure Leg where
  disk : Disk
  /-- When it was started; events before that do not count. -/
  startedAt : Timestamp
  meter : Meter
  /-- How far it has come. -/
  stage : LegStage

namespace Leg

/-- The mirror of a disk that has not been started. -/
def new (stamp : Timestamp) (disk : Disk) : Leg := ⟨disk, stamp, .new, .toStart⟩

/-- The job of a mirror. -/
def job (l : Leg) : String := l.disk.mirrorJob

/-- Whether the mirror is ready to be completed. -/
def isReady (l : Leg) : Bool :=
  match l.stage with
  | .ready => true
  | _ => false

/-- Whether the mirror is over. -/
def isConcluded (l : Leg) : Bool :=
  match l.stage with
  | .concluded => true
  | _ => false

/-- The failure of a mirror. -/
def failure (l : Leg) (reason : String) : ControlError := .mirror l.disk.path l.job reason

/-- What is wanted of an event that tells of the job. -/
def wants (l : Leg) (kind : String) (since : Timestamp) : Wanted :=
  .ofTexts kind [("device", l.job)] since

/-- Why a job that is not listed has vanished. -/
def vanished (plan : MigrationPlan) (s : Surroundings) (l : Leg) : ControlError :=
  match s.find plan.options.vmName (l.wants Event.blockJobError l.startedAt) with
  | .ok (e :: _) => l.failure ("I/O error during " ++ (e.text? "operation").getD "mirror")
  | _ => l.failure "job disappeared before completion"

def start (plan : MigrationPlan) (target : Endpoint) (s : Surroundings) (l : Leg) : Reaction Leg :=
  .ask { l with startedAt := s.stamp, stage := .starting }
    (.driveMirror l.job l.disk.device
      ("nbd:" ++ target.text ++ ":exportname=" ++ plan.options.dstDiskPath l.disk))

def list (l : Leg) : Reaction Leg := .ask { l with stage := .listing } .queryBlockJobs

/-- The job runs, or does not. -/
def onRunning (l : Leg) : Except ControlError Event → Reaction Leg
  | .ok _ => l.list
  | .error e => .fail e

/-- The monitor has answered the start of the job. -/
def onStarted (plan : MigrationPlan) (s : Surroundings) (l : Leg) :
    Except ControlError Json → Reaction Leg
  | .error e => .fail (l.failure ("start: " ++ e.message))
  | .ok _ =>
    match Await.begin s plan.options.vmName
      (.ofTexts Event.jobStatusChange [("id", l.job), ("status", "running")] l.startedAt)
      plan.config.jobStartTimeout with
    | .waits a => .stay { l with stage := .awaitingStart a }
    | .over outcome => l.onRunning outcome

/-- Takes the entry of the job in a listing into account. -/
def measure (s : Surroundings) (l : Leg) (entry : BlockJob) : Leg × StatUpdate :=
  let (speed, meter) := l.meter.sample entry.offset s.now
  ({ l with meter := meter },
    .disk l.disk.path ((Progress.ofCounters entry.len entry.offset).withSpeed speed))

/-- The monitor has answered with a listing. -/
def onListing (plan : MigrationPlan) (s : Surroundings) (l : Leg)
    (reply : Except ControlError Json) : Reaction Leg :=
  match reply.bind (Reply.interpret Order.queryBlockJobs.command.name BlockJob.listing) with
  | .error e => .fail e
  | .ok jobs =>
    match BlockJob.find? jobs l.job with
    | none => .fail (l.vanished plan s)
    | some entry =>
      let (measured, report) := l.measure s entry
      let stage : LegStage :=
        if entry.ready then .ready else .pausing (.begin s plan.config.pollInterval)
      ⟨.ok { measured with stage := stage }, none, [report]⟩

def complete (s : Surroundings) (l : Leg) : Reaction Leg :=
  .ask { l with stage := .completing s.stamp } (.blockJobComplete l.job)

/-- The mirror is over. -/
def conclude (l : Leg) : Reaction Leg :=
  ⟨.ok { l with stage := .concluded }, none, [.disk l.disk.path (.done l.disk.virtualSize)]⟩

/-- The job has ended, or has not. -/
def onEnded (l : Leg) : Except ControlError Event → Reaction Leg
  | .error e => .fail e
  | .ok e =>
    match e.text? "error" with
    | some reason => .fail (l.failure reason)
    | none => l.conclude

/-- The job was gone when it was to be completed: it has concluded unless an event tells of an
error. -/
def onGone (plan : MigrationPlan) (s : Surroundings) (l : Leg) : Reaction Leg :=
  match s.find plan.options.vmName (l.wants Event.blockJobError l.startedAt) with
  | .error e => .fail e
  | .ok (_ :: _) => .fail (l.vanished plan s)
  | .ok [] =>
    match s.find plan.options.vmName (l.wants Event.blockJobCompleted l.startedAt) with
    | .error e => .fail e
    | .ok ends =>
      match ends.findSome? (·.text? "error") with
      | some reason => .fail (l.failure reason)
      | none => l.conclude

/-- The monitor has answered the completion that was ordered at a given time. -/
def onCompleted (plan : MigrationPlan) (s : Surroundings) (l : Leg) (since : Timestamp) :
    Except ControlError Json → Reaction Leg
  | .ok _ =>
    match Await.begin s plan.options.vmName (l.wants Event.blockJobCompleted since)
      plan.config.jobFinishTimeout with
    | .waits a => .stay { l with stage := .awaitingEnd a }
    | .over outcome => l.onEnded outcome
  | .error e =>
    if e.isJobNotFound then l.onGone plan s else .fail (l.failure ("complete: " ++ e.message))

/-- The reaction of a mirror to what happens to it, if that can happen now. -/
def react? (plan : MigrationPlan) (target : Endpoint) (s : Surroundings) (cancelled : Bool)
    (l : Leg) (h : Happening) : Option (Reaction Leg) :=
  match l.stage, h with
  | .toStart, .enter => some (l.start plan target s)
  | .starting, .reply answer => some (l.onStarted plan s answer)
  | .awaitingStart a, .wake w =>
    (a.wake s cancelled w).map fun
      | .waits a => .stay { l with stage := .awaitingStart a }
      | .over outcome => l.onRunning outcome
  | .listing, .reply answer => some (l.onListing plan s answer)
  | .pausing p, .wake w =>
    (p.wake s cancelled w).map fun
      | .ok () => l.list
      | .error e => .fail e
  | .toComplete, .enter => some (l.complete s)
  | .completing since, .reply answer => some (l.onCompleted plan s since answer)
  | .awaitingEnd a, .wake w =>
    (a.wake s cancelled w).map fun
      | .waits a => .stay { l with stage := .awaitingEnd a }
      | .over outcome => l.onEnded outcome
  | _, _ => none

/-- The moment at which the mirror wakes by itself, if it rests. -/
def due? (l : Leg) : Option Nat :=
  match l.stage with
  | .awaitingStart a | .awaitingEnd a => some a.waiter.deadline
  | .pausing p => some p.due
  | _ => none

end Leg

end VmControl
