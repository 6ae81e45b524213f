import VmControl.Gateway.Call
import VmControl.Rehearsal.Script

/-!
The steps of a scenario, what comes of them, and how far the ones that take time have come.
-/

namespace VmControl

/-- A monitor that follows a script. -/
structure ScriptedMonitor where
  script : Script
  log : EventLog

/-- What is told of a registered task. -/
structure TaskReport where
  /-- The identifier of the statistics and the one under which it is registered. -/
  sameId : Bool
  /-- Whether it is in progress. -/
  inProgress : Bool
  /-- The failure of its run. -/
  err : Option ControlError
deriving DecidableEq

/-- What comes of a step. -/
inductive StepResult where
  | done
  | hang
  | undecodable
  /-- It names a target that is none. -/
  | badTarget
  /-- It names something that is refused. -/
  | refused (e : OptionError)
  | flag (b : Bool)
  | attempt (outcome : Except ControlError Unit)
  /-- The reply of a monitor. -/
  | value (outcome : Except ControlError Json)
  /-- The disks of a machine. -/
  | disks (outcome : Except ControlError (List Disk))
  | migrationStat (outcome : Except ControlError MigrationStat)
  | copyStat (outcome : Except ControlError CopyStat)
  /-- A registered task, if there is one. -/
  | report (r : Option TaskReport)
  /-- Whether each registered task is in progress. -/
  | flags (m : OrderedMap Bool)
  | names (names : List String)
  | leaves (found : List (Path × Node))
  /-- A text for developers, and names. -/
  | debug (text : String) (names : List String)
  /-- The response of the gateway. -/
  | response (r : Response)
  /-- Results of steps that were taken together. -/
  | many (results : List StepResult)

/-- A step of a scenario. -/
inductive Step where
  /-- A step whose result is known. -/
  | known (r : StepResult)
  | startMigration (o : MigrationOptions)
  | startCopying (o : CopyOptions)
  | advance (ms : Nat)
  /-- Lets time pass and then takes another step. -/
  | later (ms : Nat) (next : Step)
  | together (steps : List Step)
  | cancel (id : TaskId)
  /-- Cancels all tasks of a machine. -/
  | cancelAll (vm : String)
  /-- Waits for a task to end. -/
  | wait (id : TaskId)
  | task (id : TaskId)
  /-- Looks at the statistics of a migration. -/
  | stat (vm : String)
  /-- Looks at the statistics of a copy. -/
  | copyStat (vm disk : String)
  | tasks
  /-- Lists the files of the store. -/
  | files
  /-- Writes a file of the store. -/
  | writeFile (name text : String)
  /-- Puts a plain file in the place of the store. -/
  | blockStore
  /-- Lets a monitor log an event. -/
  | emit (vm : String) (e : Emission)
  /-- Gives a machine a monitor. -/
  | attach (vm : String) (m : ScriptedMonitor)
  /-- Takes the monitor of a machine away. -/
  | closeMonitor (vm : String)
  | restart
  /-- Asks for the disks of a machine. -/
  | disks (vm : String)
  /-- Runs a command on a monitor. -/
  | run (vm : String) (c : Command)
  /-- Shows the tasks to a developer. -/
  | debug
  | makeDir (path : String)
  | makeFile (path : String)
  | makeBlock (path : String) (number : DeviceNumber)
  /-- Lists what is below a directory. -/
  | leaves (path : String)
  /-- Sends a request to the gateway. -/
  | http (q : HttpRequest)

instance : Inhabited Step := ⟨.known .done⟩

/-- How far a step that takes time has come. -/
inductive Actor where
  /-- A migration is being started. -/
  | starting (c : StartCall)
  /-- A task is being cancelled. -/
  | cancelling (c : CancelCall)
  /-- All tasks of a machine are being cancelled. -/
  | cancellingAll (c : CancelAllCall)
  /-- A request to the gateway. -/
  | exchange (x : GatewayCall)
  /-- A monitor carries out a command. -/
  | commanding
  /-- A monitor was asked for its disks. -/
  | listing
  | awaiting (found : FoundTask)
  /-- Time passes, and then another step may be taken. -/
  | sleeping (due : Nat) (next : Option Step)
  | group (members : List Nat)

namespace Actor

/-- What is told of a task. -/
def report (p : Pool) (found : FoundTask) : StepResult :=
  .report ((p.jobs[found.2]?).map fun j =>
    ⟨decide (j.id = found.1), j.inProgress, j.task.err⟩)

/-- What comes of something that happens to a step, if it can happen now. -/
def react? (p : Pool) (s : Surroundings) (a : Actor) (h : Happening) :
    Option (CallStep Actor StepResult) :=
  match a, h with
  | .starting c, h => (c.step? p s h).map fun x => (x.1, x.2.map .starting .attempt)
  | .cancelling c, .enter => (c.step? p).map fun x => (x.1, x.2.map .cancelling .attempt)
  | .cancellingAll c, .enter =>
    (c.step? p).map fun x => (x.1, x.2.map .cancellingAll fun _ => .done)
  | .exchange e, h => (e.step? p s h).map fun x => (x.1, x.2.map .exchange .response)
  | .commanding, .reply answer => some (p, .over (.value answer))
  | .listing, .reply answer => some (p, .over (.disks (answer.bind BlockDevice.disks)))
  | .awaiting found, .enter =>
    if p.isReleased found.2 then some (p, .over (report p found)) else none
  | _, _ => none

/-- The moment at which a step wakes by itself. -/
def due? : Actor → Option Nat
  | .starting c => c.due?
  | .exchange x => x.due?
  | .sleeping due _ => some due
  | _ => none

end Actor

end VmControl
