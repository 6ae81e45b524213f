import VmControl.Copy.Run
import VmControl.Migration.Run
import VmControl.Task.Id
import VmControl.Task.Lifecycle

/-!
A task at work: its identifier, its life, and the run that is its body.
-/

namespace VmControl

/-- The body of a task. -/
inductive Work where
  | migration (r : MigrationRun)
  | copying (r : CopyRun)

namespace Work

/-- What comes of a stimulus, if it can happen now. -/
def step? (s : Surroundings) (cancelled : Bool) (x : Stimulus) : Work → Option (Work × List Effect)
  | .migration r => (r.step? s cancelled x).map fun (r, effects) => (.migration r, effects)
  | .copying r => (r.step? s cancelled x).map fun (r, effects) => (.copying r, effects)

def vm : Work → String
  | .migration r => r.vm
  | .copying r => r.vm

/-- The outcome of a run that has ended. -/
def outcome? : Work → Option (Except ControlError Unit)
  | .migration r => r.outcome?
  | .copying r => r.outcome?

/-- Everyone who can act. -/
def parts : Work → List Part
  | .migration r => r.parts
  | .copying _ => [.course]

/-- The moments at which someone wakes by itself. -/
def dues : Work → List Nat
  | .migration r => r.dues
  | .copying r => r.dues

end Work

/-- A task that was started. -/
structure Job where
  id : TaskId
  /-- The life of the task. -/
  task : Task
  work : Work

/-- What can happen to a task that was started. -/
inductive JobStimulus where
  /-- Something happens to its run. -/
  | work (x : Stimulus)
  /-- Its run has ended and it becomes idle. -/
  | finish
  /-- Everyone who waits for it is released. -/
  | release

/-- The failure of an outcome. -/
def failure? : Except ControlError Unit → Option ControlError
  | .ok () => none
  | .error e => some e

namespace Job

/-- The number of the only run of a task. -/
def onlyRun : Nat := 1

/-- A task that is started with a run. -/
def start (id : TaskId) (work : Work) : Job := ⟨id, Task.new.start?.getD .new, work⟩

/-- The task of a migration. -/
def migration (o : MigrationOptions) (config : Config) (stamp : Timestamp) : Job :=
  .start (.migration o.vmName) (.migration (.new ⟨o, config⟩ stamp))

/-- The task of a copy. -/
def copying (o : CopyOptions) (config : Config) (stamp : Timestamp) : Job :=
  .start (.diskCopying o.disk.path o.vmName) (.copying (.new ⟨o, config⟩ stamp))

/-- Whether the task is in progress. -/
def inProgress (j : Job) : Bool := j.task.inProgress

/-- Whether everyone who waits for the task has been released. -/
def isReleased (j : Job) : Bool := j.task.isReleased onlyRun

def vm (j : Job) : String := j.work.vm

/-- The moments at which someone wakes by itself. -/
def dues (j : Job) : List Nat := if j.inProgress then j.work.dues else []

/-- What comes of a stimulus, if it can happen now. -/
def step? (s : Surroundings) (j : Job) : JobStimulus → Option (Job × List Effect)
  | .work x =>
    if j.inProgress then
      (j.work.step? s j.task.isCancelled x).map fun (work, effects) =>
        ({ j with work := work }, effects)
    else none
  | .finish =>
    match j.work.outcome? with
    | some outcome =>
      if j.inProgress then some ({ j with task := j.task.finish (failure? outcome) }, []) else none
    | none => none
  | .release =>
    if !j.inProgress && !j.isReleased then some ({ j with task := j.task.release onlyRun }, [])
    else none

end Job

end VmControl
