import VmControl.Codec.Options

/-!
The bodies of gateway requests.

What a caller leaves out has a default; a disk list that is left out means every local disk, and is
different from an empty one.
-/

namespace VmControl

/-- The body of a request to move a machine. -/
structure MoveRequest where
  dstServer : String
  /-- The addresses of the destination; looked up when there are none. -/
  dstAddrs : List IpAddress
  /-- The configuration of the machine, handed on as it is. -/
  manifest : Json
  /-- Files that go along with the configuration. -/
  extraFiles : OrderedMap String
  /-- The paths of the disks to mirror, or every local disk. -/
  disks : Option (List String)
  /-- The renames on the destination. -/
  overrides : Overrides

namespace MoveRequest

def ofDraft : Decoder MoveRequest :=
  Decode.record ["dst_server", "dst_addrs", "manifest", "extra_files", "disks", "overrides"]
    fun r =>
      MoveRequest.mk <$> r.required "dst_server" Decode.text
        <*> r.withDefault "dst_addrs" (Decode.list IpAddress.ofDraft) []
        <*> r.required "manifest" Decode.anyMember
        <*> r.withDefault "extra_files" (Decode.map Decode.text) .empty
        <*> r.optional "disks" (Decode.list Decode.text)
        <*> r.withDefault "overrides" Overrides.ofDraft .none

end MoveRequest

/-- The body of a request to copy a disk. -/
structure CopyRequest where
  /-- Where the disk is copied to. -/
  target : String
  /-- Whether the bitmap is cleared first. -/
  resetBitmap : Bool
  /-- The bitmap that tracks changes. -/
  bitmapName : String
  /-- The confinement of the machine, if it has one. -/
  confinement : Option Confinement
deriving DecidableEq

namespace CopyRequest

/-- The bitmap of callers that name none. -/
def defaultBitmap : String := "ferry"

def ofDraft : Decoder CopyRequest :=
  Decode.record ["target", "reset_bitmap", "bitmap_name", "chroot"] fun r =>
    CopyRequest.mk <$> r.required "target" Decode.text
      <*> r.withDefault "reset_bitmap" Decode.flag false
      <*> r.withDefault "bitmap_name" Decode.text defaultBitmap
      <*> r.optional "chroot" Confinement.ofDraft

end CopyRequest

end VmControl
