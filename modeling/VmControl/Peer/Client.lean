import VmControl.Json.Decode
import VmControl.Json.Render
import VmControl.Net.HttpStatus
import VmControl.Peer.Request
import VmControl.Text.Utf8
import VmControl.Time.Duration

/-!
The client of the receiving host: requests as posts with a data body, and what their responses mean.

An exchange may end in other ways than with a response.
-/

namespace VmControl

namespace PeerRequest

/-- The name under which a request is posted. -/
def operation : PeerRequest → String
  | .isConfigPresent _ => "config-present"
  | .createConfig _ => "create-config"
  | .checkCapacity _ => "check-capacity"
  | .startIncoming _ => "start-incoming"
  | .startExport .. => "start-export"
  | .stopExport _ => "stop-export"
  | .sendContinue _ => "continue"
  | .removeConfig _ => "remove-config"

/-- The path to which a request is posted. -/
def path (r : PeerRequest) : String := "/v1/peer/" ++ r.operation

/-- The data that are posted. -/
def body : PeerRequest → Json
  | .isConfigPresent vm | .stopExport vm | .sendContinue vm | .removeConfig vm =>
    .obj [("vm_name", .str vm)]
  | .createConfig manifest | .startIncoming manifest => manifest.toJson
  | .checkCapacity disks => .obj [("disks", .ofMap .word disks)]
  | .startExport vm address disks =>
    .obj [("vm_name", .str vm), ("addr", address.toJson), ("disks", .texts disks)]

/-- The first line of the post. -/
def line (r : PeerRequest) : String := "POST " ++ r.path ++ " HTTP/1.1"

/-- The bytes of the post. -/
def payload (r : PeerRequest) : List UInt8 := Utf8.encode r.body.render

end PeerRequest

/-- How an exchange ends. -/
inductive Exchange where
  | unreachable (reason : String)
  /-- The connection ends before there is a response. -/
  | hungUp (reason : String)
  /-- There is no response in time. -/
  | silent
  | response (status : HttpStatus) (body : List UInt8)
deriving DecidableEq

/-- The client of one receiving host. -/
structure PeerClient where
  /-- The name of the host. -/
  server : String
  endpoint : Endpoint
  /-- How long a request may take, in milliseconds. -/
  requestTimeout : UInt64
  /-- How long the start of a machine may take, in milliseconds. -/
  incomingTimeout : UInt64

namespace PeerClient

/-- The client of a host with addresses, of which the first counts. -/
def open? (server : String) (addresses : List IpAddress) (port : UInt16)
    (requestTimeout incomingTimeout : UInt64) : Except ControlError PeerClient :=
  match addresses with
  | [] => .error (.remote ("no address for " ++ server))
  | a :: _ => .ok ⟨server, ⟨a, port⟩, requestTimeout, incomingTimeout⟩

/-- How long a request may take. -/
def limit (c : PeerClient) : PeerRequest → UInt64
  | .startIncoming _ => c.incomingTimeout
  | _ => c.requestTimeout

/-- The failure of an exchange that took too long. -/
def timedOut (c : PeerClient) (r : PeerRequest) : ControlError :=
  .deadlineExceeded (r.operation ++ " on " ++ c.server ++ ": no reply within "
    ++ (Duration.ofMillis (c.limit r)).text)

/-- Interprets the bytes of a reply. -/
def decodeReply {α : Type} (r : PeerRequest) (decoder : Decoder α) (body : List UInt8) :
    Except ControlError α :=
  match Decode.ofReading decoder (Reader.readPieces (Utf8.pieces body)) with
  | .ok a => .ok a
  | .error _ => .error (.remote ("decode " ++ r.operation ++ " reply"))

/-- Interprets a reply that carries nothing. -/
def nothing : Decoder Unit := Decode.record [] fun _ => .value ()

/-- Interprets a reply that carries one member. -/
def single {α : Type} (name : String) (decoder : Decoder α) : Decoder (Option α) :=
  Decode.nullable (Decode.record [name] fun r => r.required name decoder)

/-- Interprets the paths that do not fit. -/
def shortages : Decoder (List String) :=
  Decode.record ["insufficient"] fun r => r.withDefault "insufficient" (Decode.list Decode.text) []

/-- The answer whose port may be missing. -/
def portReply (r : PeerRequest) : Option UInt16 → Except ControlError PeerReply
  | some port => .ok (.port port)
  | none => .error (.remote (r.operation ++ " reply carries no port"))

/-- The answer to a question about capacity. -/
def capacityReply (c : PeerClient) : List String → Except ControlError PeerReply
  | [] => .ok .done
  | short => .error (.precondition
    ("Insufficient space on " ++ c.server ++ " for " ++ ", ".intercalate short))

/-- The answer that the body of a successful response carries. An empty body says as little as
possible. -/
def reply (c : PeerClient) (r : PeerRequest) (body : List UInt8) : Except ControlError PeerReply :=
  match r with
  | .isConfigPresent _ =>
    if body = [] then .ok (.flag false)
    else (decodeReply r (single "present" Decode.flag) body).map fun p => .flag (p.getD false)
  | .startIncoming _ | .startExport .. =>
    if body = [] then portReply r none
    else (decodeReply r (single "port" Decode.word16) body).bind (portReply r)
  | .checkCapacity _ =>
    if body = [] then .ok .done else (decodeReply r shortages body).bind c.capacityReply
  | .createConfig _ | .stopExport _ | .sendContinue _ | .removeConfig _ =>
    if body = [] then .ok .done else (decodeReply r nothing body).map fun _ => .done

/-- The answer that an exchange gives. -/
def interpret (c : PeerClient) (r : PeerRequest) : Exchange → Except ControlError PeerReply
  | .unreachable reason => .error (.remote ("connect to " ++ c.endpoint.text ++ ": " ++ reason))
  | .hungUp reason => .error (.remote ("send " ++ r.path ++ ": " ++ reason))
  | .silent => .error (c.timedOut r)
  | .response status body =>
    let body := if status.isBodiless then [] else body
    if status.isSuccess then c.reply r body
    else .error (.remote ("HTTP " ++ status.text ++ " from " ++ r.path ++ ": "
      ++ String.ofList (Utf8.lossy body)))

end PeerClient

end VmControl
