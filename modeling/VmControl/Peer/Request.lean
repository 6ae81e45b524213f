import VmControl.Codec.Options
import VmControl.Error
import VmControl.Text.Base64

/-!
What is asked of the host that receives a machine.
-/

namespace VmControl

/-- The configuration of a machine as it is handed on: the manifest and the files that go along. -/
structure Manifest where
  bytes : List UInt8
  extraFiles : OrderedMap (List UInt8)
deriving DecidableEq

namespace Manifest

/-- Bytes as they are sent. -/
def packed (bytes : List UInt8) : String := String.ofList (Base64.encode bytes)

/-- The files as they are sent. -/
def files (m : Manifest) : OrderedMap String := m.extraFiles.map packed

def toJson (m : Manifest) : Json :=
  .obj [("manifest", .str (packed m.bytes)), ("extra_files", .ofMap .str m.files)]

end Manifest

/-- A request to the receiving host. -/
inductive PeerRequest where
  /-- Does a machine with the name exist there? -/
  | isConfigPresent (vm : String)
  /-- Create a machine without starting it. -/
  | createConfig (manifest : Manifest)
  /-- Can the host hold so many bytes at each path? -/
  | checkCapacity (disks : OrderedMap UInt64)
  /-- Create a machine and start it so that it waits for its state. -/
  | startIncoming (manifest : Manifest)
  | startExport (vm : String) (address : IpAddress) (disks : List String)
  | stopExport (vm : String)
  | sendContinue (vm : String)
  | removeConfig (vm : String)
deriving DecidableEq

/-- The answer of the receiving host. -/
inductive PeerReply where
  | done
  | flag (value : Bool)
  /-- A port on which the host listens. -/
  | port (number : UInt16)
deriving DecidableEq

namespace PeerReply

/-- Whether an answer says yes. -/
def isYes : PeerReply → Bool
  | .flag b => b
  | _ => false

/-- The port of an answer. -/
def portNumber : PeerReply → UInt16
  | .port n => n
  | _ => 0

end PeerReply

end VmControl
