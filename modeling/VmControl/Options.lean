import VmControl.Disk
import VmControl.Error
import VmControl.Net.Address
import VmControl.OrderedMap

/-!
What a task is asked to do: the options of a migration and of a disk copy.

Options are fixed when a task starts. Those of a migration are checked first; a copy takes its mode
from the bitmaps of its disk. Main statement:

- `CopyMode.select_eq_incremental_iff`: when only changes are copied.
-/

namespace VmControl

/-- Why a text cannot name a machine. -/
def vmNameFault? (name : String) : Option String :=
  if name = "" then some "must not be empty"
  else if name = "." ∨ name = ".." then some "must not be a directory entry"
  else if name.toList.any (fun c => c = '/' || c = '\\' || c = '\x00') then
    some "must not contain path separators or NUL"
  else none

/-- Checks that a text can name a machine. Such names become parts of file names, so separators and
the names of directory entries are refused. -/
def checkVmName (name : String) : Except OptionError Unit :=
  match vmNameFault? name with
  | some reason => .error (.option "vm_name" reason)
  | none => .ok ()

/-- Renames that apply on the destination host. -/
structure Overrides where
  /-- The name of the machine there. -/
  vmName : Option String
  /-- The paths of disks there, by their paths here. -/
  disks : OrderedMap String
deriving DecidableEq

def Overrides.none : Overrides := ⟨.none, .empty⟩

/-- Everything a migration needs to move a machine. -/
structure MigrationOptions where
  vmName : String
  dstServer : String
  /-- The addresses of the destination; the first one carries the traffic. -/
  dstAddrs : List IpAddress
  /-- The configuration from which the machine is created anew. -/
  manifest : List UInt8
  /-- Files that go along with the configuration. -/
  extraFiles : OrderedMap (List UInt8)
  /-- The disks that are mirrored. -/
  disks : List Disk
  /-- The renames on the destination. -/
  overrides : Overrides
deriving DecidableEq

namespace MigrationOptions

/-- The refusal when there is no address. -/
def noAddress (o : MigrationOptions) : OptionError :=
  .option "dst_addrs" ("no address resolved for " ++ o.dstServer)

/-- Why a disk cannot follow the disks in front of it. -/
def diskFault? (earlier : List Disk) (d : Disk) : Option String :=
  if !d.isLocal then some (d.path ++ " is not a local disk")
  else if earlier.any (·.path = d.path) then some (d.path ++ " is listed twice")
  else if d.device = "" then some (d.path ++ " has no device name")
  else if earlier.any (·.jobId "" = d.jobId "") then
    some (d.path ++ " and another disk share device " ++ d.device)
  else none

/-- Checks disks one after the other against those in front. -/
def checkDisks : List Disk → List Disk → Except OptionError Unit
  | _, [] => .ok ()
  | earlier, d :: rest =>
    match diskFault? earlier d with
    | some reason => .error (.option "disks" reason)
    | none => checkDisks (earlier ++ [d]) rest

/-- Checks what a migration relies on: a usable name, an address, and local disks with devices of
their own. -/
def validate (o : MigrationOptions) : Except OptionError Unit :=
  match checkVmName o.vmName with
  | .error e => .error e
  | .ok () => if o.dstAddrs = [] then .error o.noAddress else checkDisks [] o.disks

/-- The address that carries the state transfer and the mirrors. -/
def primaryAddr (o : MigrationOptions) : Except OptionError IpAddress :=
  match o.dstAddrs with
  | addr :: _ => .ok addr
  | [] => .error o.noAddress

/-- The name of the machine on the destination. -/
def dstVmName (o : MigrationOptions) : String := o.overrides.vmName.getD o.vmName

/-- The path of a disk on the destination. -/
def dstDiskPath (o : MigrationOptions) (d : Disk) : String :=
  (o.overrides.disks.get? d.path).getD d.path

/-- The paths of all disks on the destination. -/
def dstDiskPaths (o : MigrationOptions) : List String := o.disks.map o.dstDiskPath

/-- The bytes that every destination path has to hold. -/
def capacities (o : MigrationOptions) : OrderedMap UInt64 :=
  OrderedMap.ofList (o.disks.map fun d => (o.dstDiskPath d, d.virtualSize))

end MigrationOptions

/-- How a disk copy treats the bitmap that tracks changes. -/
inductive CopyMode where
  /-- There is no bitmap yet: one is added and everything is copied. -/
  | full
  /-- Only what the bitmap has recorded is copied. -/
  | incremental
  /-- The bitmap is cleared and everything is copied. -/
  | resetAndFull
deriving DecidableEq

namespace CopyMode

/-- The name of a mode. -/
def name : CopyMode → String
  | .full => "full"
  | .incremental => "incremental"
  | .resetAndFull => "reset-and-full"

/-- The mode with a name. -/
def ofName? (name : String) : Option CopyMode :=
  if name = "full" then some .full
  else if name = "incremental" then some .incremental
  else if name = "reset-and-full" then some .resetAndFull
  else none

/-- The mode for a disk with or without a bitmap, and the wish to start over. -/
def select (hasBitmap reset : Bool) : CopyMode :=
  if hasBitmap then if reset then .resetAndFull else .incremental else .full

/-- Only changes are copied exactly if there is a bitmap and no wish to start over. -/
theorem select_eq_incremental_iff (hasBitmap reset : Bool) :
    select hasBitmap reset = .incremental ↔ hasBitmap = true ∧ reset = false := by
  cases hasBitmap <;> cases reset <;> decide

end CopyMode

/-- The restricted view of the file system in which a machine runs. -/
structure Confinement where
  /-- The directory that is its root. -/
  root : String
  /-- The user to whom device nodes are given. -/
  uid : UInt32
  /-- The group to which device nodes are given. -/
  gid : UInt32
deriving DecidableEq

/-- The options of a disk copy. -/
structure CopyOptions where
  vmName : String
  disk : Disk
  /-- The file or block device to which it is copied. -/
  target : String
  /-- Whether the bitmap is cleared first. -/
  resetBitmap : Bool
  /-- The bitmap that tracks changes. -/
  bitmapName : String
  /-- The confinement of the machine, if it has one. -/
  confinement : Option Confinement
deriving DecidableEq

/-- The mode of a copy. -/
def CopyOptions.mode (o : CopyOptions) : CopyMode :=
  CopyMode.select (o.disk.hasBitmap o.bitmapName) o.resetBitmap

end VmControl
