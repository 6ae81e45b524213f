import VmControl.Json.Decode
import VmControl.Options
import VmControl.Task.Id

/-!
Data forms of identifiers, disks and options.

A record is an object with its members in a fixed order; renames that are not there are left out.
-/

namespace VmControl

/-- The data form of a kind. -/
def TaskKind.toJson (k : TaskKind) : Json := .str k.name

/-- Interprets the data form of a kind. -/
def TaskKind.ofDraft : Decoder TaskKind := Decode.choice TaskKind.ofName?

/-- The data form of an identifier. -/
def TaskId.toJson (id : TaskId) : Json := .str id.text

/-- Interprets the data form of an identifier. -/
def TaskId.ofDraft : Decoder TaskId := fun d =>
  (Decode.text d).refine (fun s => (TaskId.ofText s).toOption)

/-- The data form of a backend. -/
def DiskBackend.toJson (b : DiskBackend) : Json := .str b.name

/-- Interprets the data form of a backend. -/
def DiskBackend.ofDraft : Decoder DiskBackend := Decode.choice DiskBackend.ofName?

/-- The data form of a mode. -/
def CopyMode.toJson (m : CopyMode) : Json := .str m.name

/-- Interprets the data form of a mode. -/
def CopyMode.ofDraft : Decoder CopyMode := Decode.choice CopyMode.ofName?

namespace Disk

/-- The data form of a disk. -/
def toJson (d : Disk) : Json :=
  .obj [("path", .str d.path), ("device", .str d.device), ("backend", d.backend.toJson),
    ("virtual_size", .word d.virtualSize), ("bitmaps", .texts d.bitmaps)]

/-- Interprets the data form of a disk. -/
def ofDraft : Decoder Disk :=
  Decode.record ["path", "device", "backend", "virtual_size", "bitmaps"] fun r =>
    Disk.mk <$> r.required "path" Decode.text
      <*> r.required "device" Decode.text
      <*> r.required "backend" DiskBackend.ofDraft
      <*> r.required "virtual_size" Decode.word64
      <*> r.withDefault "bitmaps" (Decode.list Decode.text) []

end Disk

/-- The data form of an address. -/
def IpAddress.toJson (a : IpAddress) : Json := .str a.text

/-- Interprets the data form of an address. -/
def IpAddress.ofDraft : Decoder IpAddress := fun d => (Decode.text d).refine IpAddress.ofText?

namespace Overrides

/-- The data form of renames. -/
def toJson (o : Overrides) : Json :=
  .obj ((match o.vmName with
      | some name => [("vm_name", .str name)]
      | .none => [])
    ++ if o.disks.isEmpty then [] else [("disks", .ofMap .str o.disks)])

/-- Interprets the data form of renames. -/
def ofDraft : Decoder Overrides :=
  Decode.record ["vm_name", "disks"] fun r =>
    Overrides.mk <$> r.optional "vm_name" Decode.text
      <*> r.withDefault "disks" (Decode.map Decode.text) .empty

end Overrides

/-- The data form of bytes. -/
def bytesToJson (bytes : List UInt8) : Json := .arr (bytes.map fun b => .nat b.toNat)

namespace MigrationOptions

/-- The data form of the options of a migration. -/
def toJson (o : MigrationOptions) : Json :=
  .obj [("vm_name", .str o.vmName), ("dst_server", .str o.dstServer),
    ("dst_addrs", .arr (o.dstAddrs.map IpAddress.toJson)), ("manifest", bytesToJson o.manifest),
    ("extra_files", .ofMap bytesToJson o.extraFiles), ("disks", .arr (o.disks.map Disk.toJson)),
    ("overrides", o.overrides.toJson)]

/-- Interprets the data form of the options of a migration. -/
def ofDraft : Decoder MigrationOptions :=
  Decode.record ["vm_name", "dst_server", "dst_addrs", "manifest", "extra_files", "disks",
      "overrides"] fun r =>
    MigrationOptions.mk <$> r.required "vm_name" Decode.text
      <*> r.required "dst_server" Decode.text
      <*> r.required "dst_addrs" (Decode.list IpAddress.ofDraft)
      <*> r.required "manifest" (Decode.list Decode.byte)
      <*> r.withDefault "extra_files" (Decode.map (Decode.list Decode.byte)) .empty
      <*> r.withDefault "disks" (Decode.list Disk.ofDraft) []
      <*> r.withDefault "overrides" Overrides.ofDraft .none

end MigrationOptions

namespace Confinement

/-- The data form of a confinement. -/
def toJson (c : Confinement) : Json :=
  .obj [("root", .str c.root), ("uid", .nat c.uid.toNat), ("gid", .nat c.gid.toNat)]

/-- Interprets the data form of a confinement. -/
def ofDraft : Decoder Confinement :=
  Decode.record ["root", "uid", "gid"] fun r =>
    Confinement.mk <$> r.required "root" Decode.text
      <*> r.required "uid" Decode.word32
      <*> r.required "gid" Decode.word32

end Confinement

namespace CopyOptions

/-- The data form of the options of a copy. -/
def toJson (o : CopyOptions) : Json :=
  .obj ([("vm_name", .str o.vmName), ("disk", o.disk.toJson), ("target", .str o.target),
      ("reset_bitmap", .bool o.resetBitmap), ("bitmap_name", .str o.bitmapName)]
    ++ match o.confinement with
      | some c => [("chroot", c.toJson)]
      | none => [])

/-- Interprets the data form of the options of a copy. -/
def ofDraft : Decoder CopyOptions :=
  Decode.record ["vm_name", "disk", "target", "reset_bitmap", "bitmap_name", "chroot"] fun r =>
    CopyOptions.mk <$> r.required "vm_name" Decode.text
      <*> r.required "disk" Disk.ofDraft
      <*> r.required "target" Decode.text
      <*> r.withDefault "reset_bitmap" Decode.flag false
      <*> r.required "bitmap_name" Decode.text
      <*> r.optional "chroot" Confinement.ofDraft

end CopyOptions

end VmControl
