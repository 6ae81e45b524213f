import VmControl.Monitor.EventLog
import VmControl.Monitor.Order
import VmControl.Peer.Request
import VmControl.Text.Utf8

/-!
Scripts: how a rehearsed monitor or receiving host behaves when it is called.

A script is a list of rules. A call is played by the first rule that fits it and is not used up; a
call that no rule fits is answered at once with nothing special.
-/

namespace VmControl

/-- An event that a call brings about. -/
structure Emission where
  event : String
  data : Json
  /-- When it is logged, counted from the call in milliseconds. -/
  delay : Nat
  /-- How old it says it is when it is logged, in milliseconds; one from the future is of negative
  age. -/
  age : Int

/-- What a rule lets happen to a call. -/
inductive RuleEnd where
  | hang
  | fail (e : ControlError)
  /-- It is answered, as the rule says or as calls usually are. -/
  | answer (reply : Option Json)

/-- A rule of a script. -/
structure Rule where
  /-- The command that it is for. -/
  command : String
  /-- The arguments that it is for. -/
  arguments : List (String × Json)
  /-- The moment from which it counts. -/
  since : Nat
  /-- The moment from which it counts no longer. -/
  before : Option Nat
  /-- How many more calls it is for. -/
  left : Option Nat
  /-- The events of a call. -/
  emissions : List Emission
  /-- How long the answer takes. -/
  latency : Option Nat
  ending : RuleEnd

namespace Rule

/-- Whether a rule is for a call. -/
def fits (r : Rule) (now : Nat) (command : String) (arguments : Json) : Bool :=
  r.command = command && decide (r.since ≤ now) && (r.before.map (decide <| now < ·)).getD true
    && r.left ≠ some 0
    && r.arguments.all fun wanted =>
      match arguments.get? wanted.1 with
      | some value => value.same wanted.2
      | none => false

/-- The rule after it was used. -/
def use (r : Rule) : Rule := { r with left := r.left.map (· - 1) }

end Rule

/-- How a monitor or a receiving host behaves. -/
structure Script where
  rules : List Rule
  /-- How long an answer takes when a rule does not say it. -/
  latency : Nat

/-- What comes of a call: its events and, unless it never ends, when it ends and how. -/
structure Play where
  emissions : List Emission
  /-- How long the answer takes, and the answer. -/
  answer : Option (Nat × Except ControlError (Option Json))

namespace Script

/-- The rules with the first one that is for a call used, and that one. -/
def pick (now : Nat) (command : String) (arguments : Json) :
    List Rule → Option (Rule × List Rule)
  | [] => none
  | r :: rest =>
    if r.fits now command arguments then some (r, r.use :: rest)
    else (pick now command arguments rest).map fun found => (found.1, r :: found.2)

/-- What comes of a call by a rule. -/
def follow (s : Script) (r : Rule) : Play :=
  let latency := r.latency.getD s.latency
  ⟨r.emissions,
    match r.ending with
    | .hang => none
    | .fail e => some (latency, .error e)
    | .answer reply => some (latency, .ok reply)⟩

def play (s : Script) (now : Nat) (command : String) (arguments : Json) : Play × Script :=
  match pick now command arguments s.rules with
  | some (r, rules) => (s.follow r, { s with rules := rules })
  | none => (⟨[], some (s.latency, .ok none)⟩, s)

end Script

namespace PeerRequest

/-- Bytes as a text. -/
def shownBytes (bytes : List UInt8) : Json := .str (String.ofList (Utf8.lossy bytes))

/-- A manifest with its files as texts. -/
def shownManifest (m : Manifest) : Json :=
  .obj [("manifest", shownBytes m.bytes), ("extra_files", .ofMap shownBytes m.extraFiles)]

/-- A request as a command of a script. -/
def shown : PeerRequest → String × Json
  | .isConfigPresent vm => ("is_config_present", .obj [("vm", .str vm)])
  | .createConfig m => ("create_config_from_manifest", shownManifest m)
  | .checkCapacity disks => ("check_disk_capacity", .obj [("disks", .ofMap .word disks)])
  | .startIncoming m => ("start_incoming_instance", shownManifest m)
  | .startExport vm address disks =>
    ("start_export_server",
      .obj [("vm", .str vm), ("addr", .str address.text), ("disks", .texts disks)])
  | .stopExport vm => ("stop_export_server", .obj [("vm", .str vm)])
  | .sendContinue vm => ("send_continue", .obj [("vm", .str vm)])
  | .removeConfig vm => ("remove_config", .obj [("vm", .str vm)])

/-- The port that a reply tells, or a usual one. -/
def scriptedPort (reply : Option Json) (usual : UInt16) : PeerReply :=
  .port (((reply.bind Json.word?).map fun n => UInt16.ofNat n.toNat).getD usual)

/-- The answer to a request that a reply of a script stands for. -/
def scripted (r : PeerRequest) (reply : Option Json) : PeerReply :=
  match r with
  | .isConfigPresent _ => .flag ((reply.bind Json.bool?).getD false)
  | .startIncoming _ => scriptedPort reply 4444
  | .startExport .. => scriptedPort reply 10809
  | _ => .done

end PeerRequest

end VmControl
