import VmControl.Json.Render

/-!
The commands that tasks give to a monitor.

An order names what is to be done; its command is the name and the arguments under which the monitor
knows it.
-/

namespace VmControl

/-- A command of the monitor protocol. -/
structure Command where
  name : String
  /-- The arguments, if any are sent. -/
  arguments : Option Json

namespace Command

/-- The line of a command, with the number under which its reply will come. -/
def line (c : Command) (id : Option Nat) : String :=
  Json.render <| .obj ([("execute", .str c.name)]
    ++ (match c.arguments with
      | some arguments => [("arguments", arguments)]
      | none => [])
    ++ match id with
      | some n => [("id", .nat n)]
      | none => [])

end Command

/-- One action of a transaction. -/
structure TransactionAction where
  kind : String
  data : Json

namespace TransactionAction

/-- The data form of an action. -/
def toJson (a : TransactionAction) : Json := .obj [("type", .str a.kind), ("data", a.data)]

/-- The command that takes all actions or none. -/
def command (actions : List TransactionAction) : Command :=
  ⟨"transaction", some (.obj [("actions", .arr (actions.map toJson))])⟩

end TransactionAction

structure Backup where
  /-- The identifier of the job. -/
  job : String
  /-- The device that is copied. -/
  device : String
  /-- The path to which it is copied. -/
  target : String
  /-- Whether the target is there already. -/
  existing : Bool
deriving DecidableEq

/-- What happens to a bitmap before everything is copied. -/
inductive BitmapChange where
  | add
  | clear
deriving DecidableEq

/-- What a task orders from a monitor. -/
inductive Order where
  /-- Mirrors a device to a target. -/
  | driveMirror (job device target : String)
  | queryBlockJobs
  | blockJobComplete (job : String)
  /-- Cancels a block job by force. -/
  | blockJobCancel (job : String)
  /-- Sets the capabilities of the state transfer. -/
  | setCapabilities
  /-- Sets the parameters of the state transfer. -/
  | setParameters (bandwidth cacheSize : UInt64)
  | migrate (uri : String)
  /-- Asks for the progress of the state transfer. -/
  | queryMigrate
  | migrateCancel
  | quit
  /-- Copies what a bitmap has recorded. -/
  | incrementalBackup (backup : Backup) (bitmap : String)
  /-- Changes a bitmap and copies everything, both or neither. -/
  | fullBackup (change : BitmapChange) (backup : Backup) (bitmap : String)
deriving DecidableEq

namespace Order

/-- The capabilities of a state transfer. Disks go through mirrors, so block data stay out. -/
def capabilities : List (String × Bool) :=
  [("xbzrle", true), ("auto-converge", true), ("dirty-bitmaps", true), ("compress", false),
    ("block", false)]

/-- The arguments of a backup. -/
def backupArguments (b : Backup) (sync : String) (bitmap : List (String × Json)) : Json :=
  .obj ([("job-id", .str b.job), ("device", .str b.device), ("target", .str b.target),
      ("format", .str "raw"), ("mode", .str (if b.existing then "existing" else "absolute-paths")),
      ("sync", .str sync)] ++ bitmap)

/-- The actions of a full backup. -/
def fullBackupActions (change : BitmapChange) (b : Backup) (bitmap : String) :
    List TransactionAction :=
  [⟨match change with
      | .add => "block-dirty-bitmap-add"
      | .clear => "block-dirty-bitmap-clear",
    .obj [("node", .str b.device), ("name", .str bitmap)]⟩,
   ⟨"drive-backup", backupArguments b "full" []⟩]

/-- The command of an order. -/
def command : Order → Command
  | .driveMirror job device target =>
    ⟨"drive-mirror", some (.obj [("job-id", .str job), ("device", .str device),
      ("target", .str target), ("sync", .str "full"), ("mode", .str "existing"),
      ("format", .str "raw")])⟩
  | .queryBlockJobs => ⟨"query-block-jobs", none⟩
  | .blockJobComplete job => ⟨"block-job-complete", some (.obj [("device", .str job)])⟩
  | .blockJobCancel job =>
    ⟨"block-job-cancel", some (.obj [("device", .str job), ("force", .bool true)])⟩
  | .setCapabilities =>
    ⟨"migrate-set-capabilities", some (.obj [("capabilities", .arr (capabilities.map fun c =>
      .obj [("capability", .str c.1), ("state", .bool c.2)]))])⟩
  | .setParameters bandwidth cacheSize =>
    ⟨"migrate-set-parameters", some (.obj [("max-bandwidth", .word bandwidth),
      ("xbzrle-cache-size", .word cacheSize)])⟩
  | .migrate uri => ⟨"migrate", some (.obj [("uri", .str uri)])⟩
  | .queryMigrate => ⟨"query-migrate", none⟩
  | .migrateCancel => ⟨"migrate_cancel", none⟩
  | .quit => ⟨"quit", none⟩
  | .incrementalBackup b bitmap =>
    ⟨"drive-backup", some (backupArguments b "incremental" [("bitmap", .str bitmap)])⟩
  | .fullBackup change b bitmap => TransactionAction.command (fullBackupActions change b bitmap)

end Order

end VmControl
