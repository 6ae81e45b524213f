import VmControl.Options
import VmControl.Store.FileSystem

/-!
Where a copy is written to.

A target that is a block device is there already, and a confined machine reaches it through a node
of its own, made below the root of its confinement and removed after the copy.
-/

namespace VmControl

/-- Where a copy is written to. -/
structure CopyTarget where
  /-- The path as the machine sees it. -/
  path : String
  /-- Whether the target is a block device. -/
  isBlock : Bool
  /-- The node that was made for the copy, if one was. -/
  node : Option Path
deriving DecidableEq

namespace CopyTarget

/-- Whether a part of a path stands for no step. -/
def isStay (part : String) : Bool := part = "" || part = "."

/-- The path of a target seen from below a root. Of an absolute path, what stands for no step is
left out at both ends. -/
def confinedPath (target : String) : String :=
  match Text.parts '/' target with
  | "" :: rest =>
    "/" ++ "/".intercalate ((rest.dropWhile isStay).reverse.dropWhile isStay).reverse
  | _ => "/" ++ target

/-- The block device that a target is. None is found behind a path whose end stands for no step,
since that has to lead to a directory. -/
def device? (fs : FileSystem) (target : String) : Option DeviceNumber :=
  if (Text.parts '/' target).getLast?.any isStay then none
  else match fs.find? (Path.ofText target) with
    | some (.block number ..) => some number
    | _ => none

/-- The node of a target below the root of a confinement. -/
def nodePath (c : Confinement) (target : String) : Path := Path.ofText c.root ++ Path.ofText target

/-- The access mode of a node. -/
def nodeMode : Nat := 0o600

/-- The failure when the operating system refuses. -/
def refused (e : OsError) : ControlError := .io e.message

/-- Makes room for a node: the directories that lead to it, and no file in its place. -/
def clear (fs : FileSystem) (node : Path) : Except OsError Unit × FileSystem :=
  match fs.makeDirs node.dropLast with
  | .error e => (.error e, fs)
  | .ok fs =>
    if (fs.find? node).isSome then
      match fs.unlink node with
      | .error e => (.error e, fs)
      | .ok fs => (.ok (), fs)
    else (.ok (), fs)

/-- Makes a node for a device and gives it to the user and group of a confinement. A node that
cannot be given away is removed. -/
def makeNode (fs : FileSystem) (c : Confinement) (node : Path) (number : DeviceNumber) :
    Except OsError Unit × FileSystem :=
  match clear fs node with
  | (.error e, fs) => (.error e, fs)
  | (.ok (), fs) =>
    match fs.makeBlock node number nodeMode with
    | .error e => (.error e, fs)
    | .ok made =>
      match made.changeOwner node c.uid.toNat c.gid.toNat with
      | .error e => (.error e, made.remove node)
      | .ok owned => (.ok (), owned)

/-- Makes the target of a copy ready. -/
def prepare (fs : FileSystem) (o : CopyOptions) : Except ControlError CopyTarget × FileSystem :=
  match device? fs o.target, o.confinement with
  | some number, some c =>
    let node := nodePath c o.target
    match makeNode fs c node number with
    | (.error e, fs) => (.error (refused e), fs)
    | (.ok (), fs) => (.ok ⟨confinedPath o.target, true, some node⟩, fs)
  | some _, none => (.ok ⟨o.target, true, none⟩, fs)
  | none, _ => (.ok ⟨o.target, false, none⟩, fs)

/-- Removes what was made for a copy. -/
def discard (fs : FileSystem) (t : CopyTarget) : FileSystem :=
  match t.node with
  | some node =>
    match fs.unlink node with
    | .ok fs => fs
    | .error _ => fs
  | none => fs

end CopyTarget

end VmControl
