import VmControl.Codec.Options
import VmControl.Monitor.Order

/-!
The replies of a monitor that tasks interpret: the list of block jobs, the progress of the state
transfer, and the list of block devices.

Main statement:

- `BlockDevice.disk?_isSome`: a device is a disk exactly if it holds a medium.
-/

namespace VmControl

namespace Reply

/-- The failure of a command whose reply has another shape. -/
def unexpected (command : String) : ControlError := .protocol ("unexpected reply to " ++ command)

/-- Interprets the reply to a command. -/
def interpret {α : Type} (command : String) (decoder : Decoder α) (reply : Json) :
    Except ControlError α :=
  match Decode.ofJson decoder reply with
  | some a => .ok a
  | none => .error (unexpected command)

end Reply

/-- A block job in a listing. -/
structure BlockJob where
  /-- The identifier of the job. -/
  job : String
  jobType : String
  /-- The bytes to go through. -/
  len : UInt64
  offset : UInt64
  /-- Whether the job may be completed. -/
  ready : Bool
  /-- The status of the job. -/
  status : String
deriving DecidableEq

namespace BlockJob

/-- Interprets an entry of the listing. -/
def ofDraft : Decoder BlockJob :=
  Decode.record ["device", "type", "len", "offset", "ready", "status"] fun r =>
    BlockJob.mk <$> r.required "device" Decode.text
      <*> r.withDefault "type" Decode.text ""
      <*> r.required "len" Decode.word64
      <*> r.required "offset" Decode.word64
      <*> r.withDefault "ready" Decode.flag false
      <*> r.withDefault "status" Decode.text ""

def listing : Decoder (List BlockJob) := Decode.list ofDraft

/-- The entry of a job in a listing. -/
def find? (jobs : List BlockJob) (job : String) : Option BlockJob := jobs.find? (·.job = job)

end BlockJob

/-- The memory part of the progress of a state transfer. -/
structure RamInfo where
  total : UInt64
  /-- The bytes still to go. -/
  remaining : UInt64
  transferred : UInt64
  /-- The speed in megabits per second. -/
  mbps : Real64
deriving DecidableEq

namespace RamInfo

/-- The part when nothing is known. -/
def zero : RamInfo := ⟨0, 0, 0, .ofInt 0⟩

/-- Interprets the memory part. -/
def ofDraft : Decoder RamInfo :=
  Decode.record ["total", "remaining", "transferred", "mbps"] fun r =>
    RamInfo.mk <$> r.withDefault "total" Decode.word64 0
      <*> r.withDefault "remaining" Decode.word64 0
      <*> r.withDefault "transferred" Decode.word64 0
      <*> r.withDefault "mbps" Decode.double (.ofInt 0)

end RamInfo

/-- The progress of a state transfer. -/
structure MigrationInfo where
  /-- The status, if there is one. -/
  status : Option String
  /-- The memory part, if there is one. -/
  ram : Option RamInfo
  /-- The description of a failure, if there is one. -/
  errorDesc : Option String
deriving DecidableEq

namespace MigrationInfo

/-- Interprets the progress of a state transfer. -/
def ofDraft : Decoder MigrationInfo :=
  Decode.record ["status", "ram", "error-desc"] fun r =>
    MigrationInfo.mk <$> r.optional "status" Decode.text
      <*> r.optional "ram" RamInfo.ofDraft
      <*> r.optional "error-desc" Decode.text

end MigrationInfo

/-- The medium of a block device. -/
structure Medium where
  file : String
  driver : String
  /-- The size, if the image tells it. -/
  virtualSize : Option UInt64
  /-- The names of the bitmaps. -/
  bitmaps : List String
deriving DecidableEq

/-- A block device in a listing. -/
structure BlockDevice where
  /-- The name of the device; it may be empty. -/
  device : String
  /-- The path of the device in the machine, if it has one. -/
  qdev : Option String
  /-- The medium, if one is inserted. -/
  medium : Option Medium
deriving DecidableEq

namespace BlockDevice

/-- Interprets the medium of a device. -/
def mediumOfDraft : Decoder Medium :=
  Decode.record ["file", "drv", "image", "dirty-bitmaps"] fun r =>
    Medium.mk <$> r.required "file" Decode.text
      <*> r.required "drv" Decode.text
      <*> r.optional "image" (Decode.record ["virtual-size"] fun i =>
        i.required "virtual-size" Decode.word64)
      <*> r.withDefault "dirty-bitmaps" (Decode.list (Decode.record ["name"] fun b =>
        b.required "name" Decode.text)) []

def ofDraft : Decoder BlockDevice :=
  Decode.record ["device", "qdev", "inserted"] fun r =>
    BlockDevice.mk <$> r.required "device" Decode.text
      <*> r.optional "qdev" Decode.text
      <*> r.optional "inserted" mediumOfDraft

/-- The drivers whose data live on another host. -/
def networkDrivers : List String :=
  ["nbd", "rbd", "iscsi", "gluster", "sheepdog", "http", "https"]

/-- Whether the data of a medium live on another host, by its driver or by the scheme of its
file. -/
def isRemote (m : Medium) : Bool :=
  networkDrivers.contains m.driver || match Text.splitFirst? ':' m.file.toList with
    | some (scheme, _) => networkDrivers.contains (String.ofList scheme)
    | none => false

/-- The disk that a device is, if it holds a medium. -/
def disk? (b : BlockDevice) : Option Disk :=
  b.medium.map fun m =>
    { path := m.file
      device := if b.device = "" then b.qdev.getD "" else b.device
      backend := if isRemote m then .network else .localStorage
      virtualSize := m.virtualSize.getD 0
      bitmaps := m.bitmaps }

/-- The command that lists the devices. -/
def query : Command := ⟨"query-block", none⟩

/-- The disks of a reply to the listing, in its order. -/
def disks (reply : Json) : Except ControlError (List Disk) :=
  (Reply.interpret query.name (Decode.list ofDraft) reply).map (·.filterMap disk?)

/-- A device is a disk exactly if it holds a medium. -/
theorem disk?_isSome (b : BlockDevice) : b.disk?.isSome = b.medium.isSome := by
  simp [disk?]

end BlockDevice

end VmControl
