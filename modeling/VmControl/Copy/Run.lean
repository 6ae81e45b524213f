import VmControl.Config
import VmControl.Task.Effect
import VmControl.Task.Meter

/-!
The run of a disk copy, from making its target ready to its end.

A backup job is started and followed until it is no longer listed; then the events tell how it
ended. A run that fails while its job may still be at work cancels the job.
-/

namespace VmControl

/-- What a copy is to do, and under which bounds. -/
structure CopyPlan where
  options : CopyOptions
  config : Config
deriving DecidableEq

/-- A backup job that was ordered. -/
structure CopyJob where
  target : CopyTarget
  /-- When it was ordered; events before that do not count. -/
  startedAt : Timestamp
  meter : Meter
deriving DecidableEq

/-- How far a copy has come. -/
inductive CopyStage where
  | fresh
  /-- Its target is being made ready. -/
  | preparing
  /-- The start of its job was ordered. -/
  | starting (j : CopyJob)
  /-- Its job is expected to run. -/
  | awaitingStart (j : CopyJob) (a : Await)
  | listing (j : CopyJob)
  /-- It rests until the next listing. -/
  | pausing (j : CopyJob) (p : Pause)
  /-- The cancellation of its job was ordered. -/
  | cancelling (j : CopyJob) (cause : ControlError)
  | closing (e : Ending)

/-- A run of a copy. -/
structure CopyRun where
  /-- What is to be done. -/
  plan : CopyPlan
  /-- How far it has come. -/
  stage : CopyStage
  account : Account CopyStat

/-- A copy after a step and what it wants done. -/
abbrev CopyStep := CopyRun × List Effect

namespace CopyRun

/-- A run that has not begun. -/
def new (plan : CopyPlan) (stamp : Timestamp) : CopyRun :=
  ⟨plan, .fresh, .new (.start plan.options.disk.path plan.options.target stamp)⟩

def vm (r : CopyRun) : String := r.plan.options.vmName

def disk (r : CopyRun) : Disk := r.plan.options.disk

def job (r : CopyRun) : String := r.disk.copyJob

/-- The outcome of a run that has ended. -/
def outcome? (r : CopyRun) : Option (Except ControlError Unit) :=
  match r.stage with
  | .closing e => e.outcome?
  | _ => none

/-- The run at another stage. -/
def goTo (r : CopyRun) (stage : CopyStage) : CopyRun := { r with stage := stage }

/-- The run after sending updates of its statistics. -/
def report (r : CopyRun) (updates : List StatUpdate) : CopyRun :=
  { r with account := r.account.report updates }

/-- The failure of a copy. -/
def failure (r : CopyRun) (reason : String) : ControlError := .backup r.disk.path reason

/-! ## Coming to an outcome -/

/-- What the statistics say about a failure. -/
def failureReports (cancelled : Bool) (e : ControlError) : List StatUpdate :=
  [.error e.message,
    .status (if e.isInterrupted && cancelled then .interrupted else .failed)]

/-- The run fails, with nothing at work. -/
def fail (r : CopyRun) (cancelled : Bool) (e : ControlError) : CopyStep :=
  ((r.report (failureReports cancelled e)).goTo (.closing (.draining (.error e))), [])

def succeed (r : CopyRun) : CopyStep :=
  ((r.report [.disk r.disk.path (.done r.disk.virtualSize), .status .completed]).goTo
    (.closing (.draining (.ok ()))), [])

/-- A step with what was made for the copy removed. -/
def discarding (j : CopyJob) (x : CopyStep) : CopyStep := (x.1, .discard j.target :: x.2)

/-- The run fails while its job may be at work: the job is cancelled. -/
def abandon (r : CopyRun) (j : CopyJob) (e : ControlError) : CopyStep :=
  (r.goTo (.cancelling j e), [.order .course (.blockJobCancel r.job)])

/-- The outcome that the last events of a job tell: an error is told before a cancellation, and a
cancellation before an end. -/
def verdict (r : CopyRun) (errors cancellations ends : List Event) : Except ControlError Unit :=
  match errors with
  | e :: _ => .error (r.failure ("I/O error during " ++ (e.text? "operation").getD "backup"))
  | [] =>
    if cancellations.isEmpty then
      match ends.findSome? (·.text? "error") with
      | some reason => .error (r.failure reason)
      | none => .ok ()
    else .error (r.failure "job was cancelled")

/-- What is wanted of an event that tells of the job. -/
def wants (r : CopyRun) (j : CopyJob) (kind : String) : Wanted :=
  .ofTexts kind [("device", r.job)] j.startedAt

/-- How a job that is no longer listed has ended. -/
def conclusion (r : CopyRun) (s : Surroundings) (j : CopyJob) : Except ControlError Unit :=
  match s.find r.vm (r.wants j Event.blockJobError),
    s.find r.vm (r.wants j Event.blockJobCancelled),
    s.find r.vm (r.wants j Event.blockJobCompleted) with
  | .ok errors, .ok cancellations, .ok ends => r.verdict errors cancellations ends
  | .error e, _, _ | _, .error e, _ | _, _, .error e => .error e

/-! ## Following the job -/

/-- The order that starts the job of a copy to a target. -/
def startOrder (r : CopyRun) (target : CopyTarget) : Order :=
  let backup : Backup := ⟨r.job, r.disk.device, target.path, target.isBlock⟩
  let bitmap := r.plan.options.bitmapName
  match r.plan.options.mode with
  | .incremental => .incrementalBackup backup bitmap
  | .resetAndFull => .fullBackup .clear backup bitmap
  | .full => .fullBackup .add backup bitmap

def begin (r : CopyRun) : CopyStep :=
  ((r.report [.status .inProgress]).goTo .preparing, [.prepare r.plan.options])

/-- The target is ready, or cannot be made ready. -/
def onPrepared (r : CopyRun) (s : Surroundings) (cancelled : Bool) :
    Except ControlError CopyTarget → CopyStep
  | .error e => r.fail cancelled e
  | .ok target =>
    (r.goTo (.starting ⟨target, s.stamp, .new⟩), [.order .course (r.startOrder target)])

def list (r : CopyRun) (j : CopyJob) : CopyStep :=
  (r.goTo (.listing j), [.order .course .queryBlockJobs])

/-- The job runs, or does not. -/
def onRunning (r : CopyRun) (j : CopyJob) : Except ControlError Event → CopyStep
  | .ok _ => r.list j
  | .error e => r.abandon j e

/-- The monitor has answered the start of the job. -/
def onStarted (r : CopyRun) (s : Surroundings) (cancelled : Bool) (j : CopyJob) :
    Except ControlError Json → CopyStep
  | .error e => discarding j (r.fail cancelled (r.failure ("start: " ++ e.message)))
  | .ok _ =>
    match Await.begin s r.vm
      (.ofTexts Event.jobStatusChange [("id", r.job), ("status", "running")] j.startedAt)
      r.plan.config.jobStartTimeout with
    | .waits a => (r.goTo (.awaitingStart j a), [])
    | .over outcome => r.onRunning j outcome

/-- The monitor has answered with a listing. -/
def onListing (r : CopyRun) (s : Surroundings) (j : CopyJob)
    (reply : Except ControlError Json) : CopyStep :=
  match reply.bind (Reply.interpret Order.queryBlockJobs.command.name BlockJob.listing) with
  | .error e => r.abandon j e
  | .ok jobs =>
    match BlockJob.find? jobs r.job with
    | none =>
      match r.conclusion s j with
      | .ok () => discarding j r.succeed
      | .error e => r.abandon j e
    | some entry =>
      let (speed, meter) := j.meter.sample entry.offset s.now
      let progress := (Progress.ofCounters entry.len entry.offset).withSpeed speed
      ((r.report [.disk r.disk.path progress]).goTo
        (.pausing { j with meter := meter } (.begin s r.plan.config.pollInterval)), [])

/-! ## Steps -/

/-- What comes of something that happens to the run, if it can happen now. -/
def act? (r : CopyRun) (s : Surroundings) (cancelled : Bool) (h : Happening) : Option CopyStep :=
  match r.stage, h with
  | .fresh, .enter => some r.begin
  | .preparing, .prepared answer => some (r.onPrepared s cancelled answer)
  | .starting j, .reply answer => some (r.onStarted s cancelled j answer)
  | .awaitingStart j a, .wake w =>
    (a.wake s cancelled w).map fun
      | .waits a => (r.goTo (.awaitingStart j a), [])
      | .over outcome => r.onRunning j outcome
  | .listing j, .reply answer => some (r.onListing s j answer)
  | .pausing j p, .wake w =>
    (p.wake s cancelled w).map fun
      | .ok () => r.list j
      | .error e => r.abandon j e
  | .cancelling j cause, .reply _ => some (discarding j (r.fail cancelled cause))
  | _, _ => none

/-- What comes of a stimulus, if it can happen now. -/
def step? (r : CopyRun) (s : Surroundings) (cancelled : Bool) (x : Stimulus) : Option CopyStep :=
  match x with
  | .act .course h => r.act? s cancelled h
  | .act _ _ => none
  | .fold => (r.account.fold? s.stamp).map fun account => ({ r with account := account }, [])
  | x =>
    match r.stage with
    | .closing e =>
      (e.step? r.account (.keepCopying r.vm r.account.stat) x).map fun (e, effects) =>
        (r.goTo (.closing e), effects)
    | _ => none

/-- The moments at which the run wakes by itself. -/
def dues (r : CopyRun) : List Nat :=
  match r.stage with
  | .awaitingStart _ a => [a.waiter.deadline]
  | .pausing _ p => [p.due]
  | _ => []

end CopyRun

end VmControl
