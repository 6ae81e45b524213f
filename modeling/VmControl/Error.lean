/-!
Why an operation fails, with the wording of every cause.
-/

namespace VmControl

/-- The kind of background work a task performs. -/
inductive TaskKind where
  /-- Moving a whole machine to another host while it runs. -/
  | migration
  /-- Copying one disk of a running machine. -/
  | diskCopying
deriving DecidableEq

/-- The name of a kind. -/
def TaskKind.name : TaskKind → String
  | .migration => "migration"
  | .diskCopying => "disk-copying"

/-- Why options or a task identifier are refused. -/
inductive OptionError where
  /-- A text is no task identifier. -/
  | taskId (value reason : String)
  /-- A text names no kind of task. -/
  | taskKind (text : String)
  /-- An option is not acceptable. -/
  | option (field reason : String)
deriving DecidableEq

/-- The wording of a refusal. -/
def OptionError.message : OptionError → String
  | .taskId value reason => "invalid task id '" ++ value ++ "': " ++ reason
  | .taskKind text => "unknown task kind '" ++ text ++ "'"
  | .option field reason => "invalid option '" ++ field ++ "': " ++ reason

/-- Why an operation on machines, monitors, peers or tasks fails. -/
inductive ControlError where
  /-- A task in progress already claims the object. -/
  | alreadyRunning (kind : TaskKind) (object : String) (owner : Option String)
  /-- No monitor is registered for the machine. -/
  | notAvailable (vm : String)
  /-- The machine does not run. -/
  | notRunning (vm : String)
  /-- A check failed before anything was provisioned. -/
  | precondition (reason : String)
  | invalidOptions (cause : OptionError)
  /-- The operator asked for cancellation. -/
  | interrupted
  /-- A bounded wait ran out. -/
  | deadlineExceeded (what : String)
  /-- The monitor answered with an error object. -/
  | refused (reason : String) (desc : String)
  | protocol (reason : String)
  /-- A call to the peer host failed. -/
  | remote (reason : String)
  | mirror (disk job reason : String)
  /-- The transfer of the machine state failed. -/
  | migration (reason : String)
  | backup (disk reason : String)
  /-- A record could not be read or written. -/
  | persist (reason : String)
  /-- A task that runs was started. -/
  | taskAlreadyRunning
  /-- A task that does not run was cancelled. -/
  | taskNotRunning
  /-- No task is registered under the identifier. -/
  | taskNotFound (id : String)
  | io (reason : String)
deriving DecidableEq

namespace ControlError

/-- The wording of a failure. -/
def message : ControlError → String
  | .alreadyRunning kind object owner =>
    "another task is already running: kind=" ++ kind.name ++ ", object=" ++ object ++ ", owner="
      ++ owner.getD "-"
  | .notAvailable vm => "monitor not available for VM " ++ vm
  | .notRunning vm => "VM " ++ vm ++ " is not running"
  | .precondition reason => reason
  | .invalidOptions cause => cause.message
  | .interrupted => "interrupted"
  | .deadlineExceeded what => "deadline exceeded: " ++ what
  | .refused reason desc => "QMP error: " ++ reason ++ ": " ++ desc
  | .protocol reason => "QMP protocol error: " ++ reason
  | .remote reason => "remote request failed: " ++ reason
  | .mirror disk job reason => "mirror of " ++ disk ++ " (job " ++ job ++ ") failed: " ++ reason
  | .migration reason => "migration failed: " ++ reason
  | .backup disk reason => "copy of " ++ disk ++ " failed: " ++ reason
  | .persist reason => "statistics persistence failed: " ++ reason
  | .taskAlreadyRunning => "task is already running"
  | .taskNotRunning => "task is not running"
  | .taskNotFound id => "task not found: " ++ id
  | .io reason => reason

/-- Whether a failure is the signal of cancellation. -/
def isInterrupted (e : ControlError) : Bool := decide (e = .interrupted)

/-- Whether the monitor answered that it knows no such job. Concluded jobs are reaped, so this is
how a finished job looks when it is addressed afterwards. -/
def isJobNotFound : ControlError → Bool
  | .refused reason _ => reason = "DeviceNotActive" || reason = "DeviceNotFound"
  | _ => false

end ControlError

end VmControl
