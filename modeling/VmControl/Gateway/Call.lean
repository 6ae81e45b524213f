import VmControl.Gateway.MediaType
import VmControl.Gateway.Request
import VmControl.Gateway.Response
import VmControl.Gateway.Route
import VmControl.Gateway.Target
import VmControl.Pool.Cancel
import VmControl.Pool.Start
import VmControl.Text.Percent
import VmControl.Text.Quoted

/-!
A request to the gateway, from its arrival to its response.

The route is looked for first, then the method, then the parameters of the path are decoded, then
the body, and only then the name of the machine is checked. Starting a task begins with asking the
monitor for the attached disks; where no address of the destination is told, its name is looked up
after that (`GatewayCall.resolved`). A name of a machine that cannot be used is answered with 400
(`GatewayCall.checkVm_refused`).
-/

namespace VmControl

/-- A request to the gateway. -/
structure HttpRequest where
  method : String
  /-- The target: a path and perhaps a query. -/
  target : String
  /-- The media type of the body, if one is told. -/
  mediaType : Option String
  body : String
deriving DecidableEq

namespace HttpRequest

/-- Whether a character may stand in a line of the head. -/
def isHeadChar (c : Char) : Bool := c = '\t' || (decide (0x20 ≤ c.toNat) && c.toNat ≠ 0x7f)

/-- Whether a request can be sent at all: its method is a token, its target is one, and the media
type fits into a line. -/
def isWellFormed (q : HttpRequest) : Bool :=
  MediaType.isToken q.method.toList && (Target.path? q.target).isSome
    && (q.mediaType.map fun m => m.toList.all isHeadChar).getD true

end HttpRequest

/-- How far a request has come. -/
inductive GatewayCall where
  /-- The monitor was asked for the disks of a machine that is to be moved. -/
  | listingToMove (vm : String) (r : MoveRequest)
  /-- The addresses of the destination are being found; the disks are chosen. -/
  | resolving (vm : String) (r : MoveRequest) (disks : List Disk)
  /-- The migration is being started. -/
  | starting (vm : String) (c : StartCall)
  /-- The monitor was asked for the disks of a machine of which one is to be copied. -/
  | listingToCopy (vm disk : String) (r : CopyRequest)
  /-- A task is being cancelled. -/
  | cancelling (c : CancelCall)

/-- A step of a request. -/
abbrev GatewayStep := CallStep GatewayCall Response

namespace GatewayCall

/-- The response is known. -/
def respond (p : Pool) (r : Response) : GatewayStep := (p, .over r)

def fail (p : Pool) (e : GatewayError) : GatewayStep := respond p (.ofError e)

/-! ## Reading a request -/

/-- Checks the name of a machine. -/
def checkVm (vm : String) : Except GatewayError Unit :=
  match checkVmName vm with
  | .ok () => .ok ()
  | .error e => .error (.invalidRequest (Text.quoted vm ++ ": " ++ e.message))

/-- Interprets the body of a request, or tells the status with which it is refused. -/
def body {α : Type} (decoder : Decoder α) (q : HttpRequest) : Except Nat α :=
  if ((q.mediaType.bind MediaType.ofText?).map (·.isData)).getD false then
    match Decode.ofText decoder q.body with
    | .ok a => .ok a
    | .error .malformed => .error 400
    | .error .mismatch => .error 422
  else .error 415

/-! ## Choosing disks -/

/-- The attached disks with the given paths, in that order, each of them once. -/
def select (attached : OrderedMap Disk) : List String → Except GatewayError (List Disk)
  | [] => .ok []
  | path :: rest =>
    match attached.get? path with
    | none => .error (.invalidRequest ("disk " ++ path ++ " is not attached or listed twice"))
    | some d => (select (attached.erase path) rest).map (d :: ·)

/-- The disks that a request asks for: those it names, or all that are local. -/
def chosen (r : MoveRequest) (attached : List Disk) : Except GatewayError (List Disk) :=
  match r.disks with
  | none => .ok (attached.filter (·.isLocal))
  | some paths => select (OrderedMap.ofList (attached.map fun d => (d.path, d))) paths

/-- The addresses that were found for a host, each of them once; there has to be one. -/
def resolved (host : String) : Except String (List IpAddress) → Except GatewayError (List IpAddress)
  | .error reason => .error (.invalidRequest ("cannot resolve " ++ host ++ ": " ++ reason))
  | .ok found =>
    if found.isEmpty then .error (.invalidRequest ("no address for " ++ host))
    else .ok found.eraseDups

/-- What the migration that a request asks for is to do. -/
def migrationOptions (vm : String) (r : MoveRequest) (disks : List Disk)
    (destination : List IpAddress) : MigrationOptions where
  vmName := vm
  dstServer := r.dstServer
  dstAddrs := destination
  manifest := Utf8.encode r.manifest.render
  extraFiles := r.extraFiles.map Utf8.encode
  disks := disks
  overrides := r.overrides

/-- What the copy that a request asks for is to do. -/
def copyOptions (vm disk : String) (r : CopyRequest) (attached : List Disk) :
    Except GatewayError CopyOptions :=
  match attached.find? (·.path = disk) with
  | none => .error (.invalidRequest ("disk " ++ disk ++ " is not attached to " ++ vm))
  | some d =>
    .ok {
      vmName := vm
      disk := d
      target := r.target
      resetBitmap := r.resetBitmap
      bitmapName := r.bitmapName
      confinement := r.confinement }

/-! ## Going on -/

/-- The request after a step of the start of a migration. -/
def ofStart (vm : String) (x : StartStep) : GatewayStep :=
  (x.1, x.2.map (.starting vm) fun
    | .ok () => .accepted (.migration vm)
    | .error e => .ofError (.control e))

/-- The request after a step of a cancellation. -/
def ofCancel (x : CancelStep) : GatewayStep :=
  (x.1, x.2.map .cancelling fun
    | .ok () => .bare 204
    | .error e => .ofError (.control e))

/-- The disks of a machine that is to be moved are known. Unless the request tells addresses of the
destination, they are asked for. -/
def onListingToMove (p : Pool) (s : Surroundings) (vm : String) (r : MoveRequest)
    (reply : Except ControlError Json) : GatewayStep :=
  match reply.bind BlockDevice.disks with
  | .error e => fail p (.control e)
  | .ok attached =>
    match chosen r attached with
    | .error e => fail p e
    | .ok disks =>
      if r.dstAddrs.isEmpty then (p, .goesOn (.resolving vm r disks) [.lookUp r.dstServer])
      else ofStart vm (StartCall.begin p s (migrationOptions vm r disks r.dstAddrs))

/-- The addresses of the destination were asked for. -/
def onFound (p : Pool) (s : Surroundings) (vm : String) (r : MoveRequest) (disks : List Disk)
    (answer : Except String (List IpAddress)) : GatewayStep :=
  match resolved r.dstServer answer with
  | .error e => fail p e
  | .ok destination => ofStart vm (StartCall.begin p s (migrationOptions vm r disks destination))

/-- The disks of a machine of which one is to be copied are known. -/
def onListingToCopy (p : Pool) (s : Surroundings) (vm disk : String) (r : CopyRequest)
    (reply : Except ControlError Json) : GatewayStep :=
  match reply.bind BlockDevice.disks with
  | .error e => fail p (.control e)
  | .ok attached =>
    match copyOptions vm disk r attached with
    | .error e => fail p e
    | .ok o =>
      match p.startCopying s o with
      | (.error e, p) => fail p (.control e)
      | (.ok (), p) => respond p (.accepted (.diskCopying o.disk.path vm))

/-- Asks the monitor for the disks of a machine. -/
def list (p : Pool) (vm : String) (next : GatewayCall) : GatewayStep :=
  (p, .goesOn next [.command vm BlockDevice.query])

/-- A request about a machine, unless its name cannot be used. -/
def about (p : Pool) (vm : String) (next : FileProgram GatewayStep) : FileProgram GatewayStep :=
  match checkVm vm with
  | .error e => .done (fail p e)
  | .ok () => next

/-- A request with a body, unless it cannot be interpreted. -/
def withBody {α : Type} (p : Pool) (q : HttpRequest) (decoder : Decoder α)
    (next : α → FileProgram GatewayStep) : FileProgram GatewayStep :=
  match body decoder q with
  | .error status => .done (respond p (.bare status))
  | .ok a => next a

/-- A response with statistics, or with the failure to find them. -/
def report {α : Type} (p : Pool) (body : α → ResponseBody)
    (look : FileProgram (Except ControlError α)) : FileProgram GatewayStep :=
  look.bind fun
    | .ok stat => .done (respond p ⟨200, body stat⟩)
    | .error e => .done (fail p (.control e))

/-- A request about the migration of a machine. -/
def onMigration (p : Pool) (q : HttpRequest) (vm : String) : FileProgram GatewayStep :=
  match q.method with
  | "GET" => about p vm (report p .migration (p.migrationStat vm))
  | "POST" => withBody p q MoveRequest.ofDraft fun r =>
      about p vm (.done (list p vm (.listingToMove vm r)))
  | "DELETE" => about p vm (.done (ofCancel (CancelCall.begin p (.migration vm))))
  | _ => .done (respond p (.bare 405))

/-- A request about the copy of a disk of a machine. -/
def onCopying (p : Pool) (q : HttpRequest) (vm disk : String) : FileProgram GatewayStep :=
  match q.method with
  | "GET" => about p vm (report p .copying (p.copyStat vm disk))
  | "POST" => withBody p q CopyRequest.ofDraft fun r =>
      about p vm (.done (list p vm (.listingToCopy vm disk r)))
  | "DELETE" => about p vm (.done (ofCancel (CancelCall.begin p (.diskCopying disk vm))))
  | _ => .done (respond p (.bare 405))

/-- Answers a request for something that needs no steps. -/
def onGet (p : Pool) (q : HttpRequest) (body : ResponseBody) : FileProgram GatewayStep :=
  .done (respond p (if q.method = "GET" then ⟨200, body⟩ else .bare 405))

/-- Whether a route takes a method. -/
def takes (route : Route) (method : String) : Bool :=
  method = "GET" || match route with
    | .migration _ | .copying .. => method = "POST" || method = "DELETE"
    | .tasks | .health => false

/-- Sends a request to its route. -/
def dispatch (p : Pool) (q : HttpRequest) : FileProgram GatewayStep :=
  match (Target.path? q.target).bind Route.find? with
  | none => .done (respond p (.bare 404))
  | some route =>
    if takes route q.method then
      match route with
      | .migration vm =>
        match Percent.decode? vm with
        | some vm => onMigration p q vm
        | none => .done (respond p (.bare 400))
      | .copying vm disk =>
        match Percent.decode? vm, Percent.decode? disk with
        | some vm, some disk => onCopying p q vm disk
        | _, _ => .done (respond p (.bare 400))
      | .tasks => onGet p q (.tasks p.flags)
      | .health => onGet p q .alive
    else .done (respond p (.bare 405))

/-- Begins a request. One that asks for the head only is answered as if it asked for all, without
what the response holds. -/
def begin (p : Pool) (q : HttpRequest) : FileProgram GatewayStep :=
  if q.method = "HEAD" then
    (dispatch p { q with method := "GET" }).bind fun x =>
      .done (x.1, x.2.map id Response.withoutBody)
  else dispatch p q

/-- What comes of something that happens to a request, if it can happen now. -/
def step? (p : Pool) (s : Surroundings) (x : GatewayCall) (h : Happening) : Option GatewayStep :=
  match x with
  | .listingToMove vm r =>
    match h with
    | .reply reply => some (onListingToMove p s vm r reply)
    | _ => none
  | .resolving vm r disks =>
    match h with
    | .found answer => some (onFound p s vm r disks answer)
    | _ => none
  | .starting vm c => (c.step? p s h).map (ofStart vm)
  | .listingToCopy vm disk r =>
    match h with
    | .reply reply => some (onListingToCopy p s vm disk r reply)
    | _ => none
  | .cancelling c =>
    match h with
    | .enter => (c.step? p).map ofCancel
    | _ => none

/-- The moment at which the request wakes by itself. -/
def due? : GatewayCall → Option Nat
  | .starting _ c => c.due?
  | _ => none

/-- A request about a machine whose name cannot be used is answered with 400 and asks for
nothing. -/
theorem checkVm_refused (p : Pool) (vm : String) (next : FileProgram GatewayStep)
    (refused : ∀ u, checkVmName vm ≠ .ok u) :
    ∃ e, about p vm next = .done (fail p e) ∧ e.status = 400 := by
  cases outcome : checkVmName vm with
  | ok u => exact absurd outcome (refused u)
  | error e =>
    exact ⟨.invalidRequest (Text.quoted vm ++ ": " ++ e.message), by simp [about, checkVm, outcome],
      rfl⟩

end GatewayCall

end VmControl
