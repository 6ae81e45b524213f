/-!
The disks of a machine as its monitor reports them.

A block job is addressed by an identifier made of a word for the work and the device of the disk,
with every character that an identifier cannot hold replaced. Main statements:

- `Disk.isIdChar_jobChar`: what a job identifier is made of;
- `Disk.jobId_eq_iff`: two disks have one identifier under a word exactly if their devices agree
  after the replacement.
-/

namespace VmControl

/-- Where the data of a disk lives. -/
inductive DiskBackend where
  | localStorage
  /-- On another host; such a disk is not copied when the machine moves. -/
  | network
deriving DecidableEq

/-- The name of a backend. -/
def DiskBackend.name : DiskBackend → String
  | .localStorage => "local"
  | .network => "network"

/-- The backend with a name. -/
def DiskBackend.ofName? (name : String) : Option DiskBackend :=
  if name = "local" then some .localStorage
  else if name = "network" then some .network
  else none

/-- A disk of a running machine. -/
structure Disk where
  /-- The path on the host, which names the disk in statistics. -/
  path : String
  /-- The name of the device, with which block jobs address the disk. -/
  device : String
  backend : DiskBackend
  /-- The size in bytes that the machine sees. -/
  virtualSize : UInt64
  /-- The names of the bitmaps that track changes of the disk. -/
  bitmaps : List String
deriving DecidableEq

namespace Disk

/-- Whether the data lives on the host. -/
def isLocal (d : Disk) : Bool := d.backend = .localStorage

/-- Whether a bitmap of the name is attached. -/
def hasBitmap (d : Disk) (name : String) : Bool := d.bitmaps.contains name

/-- Whether a character may stand in a job identifier. -/
def isIdChar (c : Char) : Bool := c.isAlphanum || c = '-' || c = '.' || c = '_'

/-- The character that stands for another one in a job identifier. -/
def jobChar (c : Char) : Char := if isIdChar c then c else '_'

/-- A device name as it stands in job identifiers. -/
def jobName (device : String) : String := String.ofList (device.toList.map jobChar)

/-- The identifier of the block job on a disk for the work that a word names. -/
def jobId (d : Disk) (work : String) : String := work ++ "_" ++ jobName d.device

/-- The block job that mirrors the disk. -/
def mirrorJob (d : Disk) : String := d.jobId "migr"

/-- The block job that copies the disk. -/
def copyJob (d : Disk) : String := d.jobId "copy"

/-- Every character of a device name is replaced by one that an identifier admits. -/
theorem isIdChar_jobChar (c : Char) : isIdChar (jobChar c) = true := by
  rw [jobChar]
  split
  · assumption
  · decide

/-- Two disks have one identifier under a word exactly if their devices agree after the
replacement. -/
theorem jobId_eq_iff (a b : Disk) (work : String) :
    a.jobId work = b.jobId work ↔ jobName a.device = jobName b.device := by
  rw [jobId, jobId]
  constructor
  · intro same
    have chars := congrArg String.toList same
    simp only [String.toList_append, List.append_assoc] at chars
    exact String.toList_inj.mp (List.append_cancel_left (List.append_cancel_left chars))
  · intro same
    rw [same]

end Disk

end VmControl
