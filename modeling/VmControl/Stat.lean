import VmControl.Error
import VmControl.OrderedMap
import VmControl.Progress
import VmControl.Time.Timestamp

/-!
The statistics of tasks: what a caller sees of a migration or a copy while it runs and afterwards.

A report is changed only by updates, and a report with a terminal status is never changed again.
Main statements:

- `MigrationStat.apply_terminal`, `CopyStat.apply_terminal`: a terminal report stays as it is.
-/

namespace VmControl

/-- The stage of life of a task. -/
inductive TaskStatus where
  /-- No task was ever known. -/
  | none
  | starting
  | inMigrate
  | inProgress
  | completed
  /-- Ended because the operator asked for it. -/
  | interrupted
  | failed
deriving DecidableEq

namespace TaskStatus

/-- The name of a status. -/
def name : TaskStatus → String
  | .none => "none"
  | .starting => "starting"
  | .inMigrate => "inmigrate"
  | .inProgress => "inprogress"
  | .completed => "completed"
  | .interrupted => "interrupted"
  | .failed => "failed"

def all : List TaskStatus :=
  [.none, .starting, .inMigrate, .inProgress, .completed, .interrupted, .failed]

/-- The status with a name. -/
def ofName? (name : String) : Option TaskStatus := all.find? (fun s => s.name = name)

/-- Whether a status is one of an ended task. -/
def isTerminal : TaskStatus → Bool
  | .completed | .interrupted | .failed => true
  | .none | .starting | .inMigrate | .inProgress => false

end TaskStatus

/-- The statistics of a migration. -/
structure MigrationStat where
  dstServer : String
  /-- The stage of the task. -/
  status : TaskStatus
  /-- The transfer of the machine state. -/
  state : Progress
  /-- The mirrors, by disk path. -/
  disks : OrderedMap Progress
  /-- The wording of the failure. -/
  error : Option String
  /-- When the task was registered. -/
  startedAt : Option Timestamp
  finishedAt : Option Timestamp
deriving DecidableEq

/-- The statistics of a disk copy. -/
structure CopyStat where
  disk : String
  /-- Where it is copied to. -/
  target : String
  /-- The stage of the task. -/
  status : TaskStatus
  progress : Progress
  /-- The wording of the failure. -/
  error : Option String
  /-- When the task was registered. -/
  startedAt : Option Timestamp
  finishedAt : Option Timestamp
deriving DecidableEq

/-- A change of statistics. -/
inductive StatUpdate where
  | status (status : TaskStatus)
  /-- Progress of the machine state. -/
  | state (progress : Progress)
  | disk (path : String) (progress : Progress)
  /-- The wording of a failure; the first one counts. -/
  | error (message : String)
deriving DecidableEq

namespace MigrationStat

/-- The report when no migration was ever known. -/
def none : MigrationStat := ⟨"", .none, .initial, .empty, .none, .none, .none⟩

/-- The fresh report of a migration of the given disks. -/
def start (dstServer : String) (disks : List String) (now : Timestamp) : MigrationStat :=
  ⟨dstServer, .starting, .initial, OrderedMap.ofList (disks.map fun d => (d, .initial)), .none,
    some now, .none⟩

/-- The report after an update. A disk that is not part of the report is ignored. -/
def change (s : MigrationStat) (now : Timestamp) : StatUpdate → MigrationStat
  | .status status =>
    { s with
      status := status
      finishedAt := if status.isTerminal then some now else s.finishedAt }
  | .state progress => { s with state := progress }
  | .disk path progress => { s with disks := s.disks.replace path progress }
  | .error message => { s with error := some (s.error.getD message) }

/-- The report after an update, unless it is terminal. -/
def apply (s : MigrationStat) (now : Timestamp) (u : StatUpdate) : MigrationStat :=
  if s.status.isTerminal then s else s.change now u

/-- A terminal report stays as it is. -/
theorem apply_terminal {s : MigrationStat} (terminal : s.status.isTerminal = true) (now : Timestamp)
    (u : StatUpdate) : s.apply now u = s := if_pos terminal

end MigrationStat

namespace CopyStat

/-- The report when no copy was ever known. -/
def none : CopyStat := ⟨"", "", .none, .initial, .none, .none, .none⟩

/-- The fresh report of a copy. -/
def start (disk target : String) (now : Timestamp) : CopyStat :=
  ⟨disk, target, .starting, .initial, .none, some now, .none⟩

/-- The report after an update. A copy has one disk and no machine state. -/
def change (s : CopyStat) (now : Timestamp) : StatUpdate → CopyStat
  | .status status =>
    { s with
      status := status
      finishedAt := if status.isTerminal then some now else s.finishedAt }
  | .state _ => s
  | .disk _ progress => { s with progress := progress }
  | .error message => { s with error := some (s.error.getD message) }

/-- The report after an update, unless it is terminal. -/
def apply (s : CopyStat) (now : Timestamp) (u : StatUpdate) : CopyStat :=
  if s.status.isTerminal then s else s.change now u

/-- A terminal report stays as it is. -/
theorem apply_terminal {s : CopyStat} (terminal : s.status.isTerminal = true) (now : Timestamp)
    (u : StatUpdate) : s.apply now u = s := if_pos terminal

end CopyStat

end VmControl
