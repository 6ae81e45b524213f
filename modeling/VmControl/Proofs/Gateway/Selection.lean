import Mathlib.Data.List.Forall2
import VmControl.Gateway.Call

/-!
# The disks that a machine is moved with

Whoever asks for a migration may list disks by their paths or leave the choice to the gateway, which
asks the monitor of the machine for what is attached. Without a list every drive is moved whose
medium lies on the host, in the order of the monitor (`LocalDisks`). With a list there is one disk
for each path, in the order of the list (`GatewayCall.select_eq_ok_iff`): each disk that is chosen
is taken out of what may be chosen from then on, so a path that comes again is refused like one that
is not attached (`GatewayCall.select_eq_error`).

`GatewayCall.Proceeds` tells a request that is refused from one whose migration is handed to the
tasks.
-/

namespace VmControl

/-! ## Drives -/

namespace Medium

/-- The data of a medium lie on the host: no network is named, neither by the driver nor by a scheme
in front of the file. -/
structure IsLocal (m : Medium) : Prop where
  driver : m.driver ∉ BlockDevice.networkDrivers
  scheme : ∀ scheme rest : List Char, m.file.toList = scheme ++ ':' :: rest → ':' ∉ scheme →
    String.ofList scheme ∉ BlockDevice.networkDrivers

theorem isRemote_eq_false_iff {m : Medium} : BlockDevice.isRemote m = false ↔ m.IsLocal := by
  rw [BlockDevice.isRemote, Bool.or_eq_false_iff, List.contains_eq_mem, decide_eq_false_iff_not]
  cases split : Text.splitFirst? ':' m.file.toList with
  | none =>
    refine ⟨fun here => ⟨here.1, fun scheme rest whole free => ?_⟩, fun here => ⟨here.driver, rfl⟩⟩
    cases split.symm.trans (Text.splitFirst?_eq_some_iff.mpr ⟨whole, free⟩)
  | some parts =>
    obtain ⟨scheme, rest⟩ := parts
    dsimp only
    rw [List.contains_eq_mem, decide_eq_false_iff_not]
    constructor
    · rintro ⟨driver, own⟩
      refine ⟨driver, fun scheme' rest' whole free => ?_⟩
      cases split.symm.trans (Text.splitFirst?_eq_some_iff.mpr ⟨whole, free⟩)
      exact own
    · intro here
      obtain ⟨whole, free⟩ := Text.splitFirst?_eq_some_iff.mp split
      exact ⟨here.driver, here.scheme scheme rest whole free⟩

end Medium

namespace BlockDevice

variable {b : BlockDevice} {d : Disk} {path : String} {devices : List BlockDevice}
  {disks : List Disk}

/-- A drive whose medium lies on the host. -/
def IsLocalDrive (b : BlockDevice) : Prop := ∃ m, b.medium = some m ∧ m.IsLocal

/-- A path is that of the medium of some drive. -/
def Attached (devices : List BlockDevice) (path : String) : Prop :=
  ∃ b ∈ devices, ∃ m, b.medium = some m ∧ m.file = path

theorem isLocal_iff_of_disk? (described : b.disk? = some d) :
    d.isLocal = true ↔ b.IsLocalDrive := by
  obtain ⟨m, medium, rfl⟩ := Option.map_eq_some_iff.mp described
  have unique : b.IsLocalDrive ↔ m.IsLocal := by
    refine ⟨?_, fun here => ⟨m, medium, here⟩⟩
    rintro ⟨m', other, here⟩
    cases medium.symm.trans other
    exact here
  rw [unique, ← Medium.isRemote_eq_false_iff]
  cases isRemote m <;> simp [Disk.isLocal]

theorem attached_iff : Attached devices path ↔ path ∈ (devices.filterMap disk?).map (·.path) := by
  rw [List.mem_map]
  constructor
  · rintro ⟨b, listed, m, medium, rfl⟩
    exact ⟨_, List.mem_filterMap.mpr ⟨b, listed, by rw [disk?, medium]; rfl⟩, rfl⟩
  · rintro ⟨d, described, rfl⟩
    obtain ⟨b, listed, describes⟩ := List.mem_filterMap.mp described
    obtain ⟨m, medium, rfl⟩ := Option.map_eq_some_iff.mp describes
    exact ⟨b, listed, m, medium, rfl⟩

/-- The disks of exactly the local drives of a listing, in its order. -/
inductive LocalDisks : List BlockDevice → List Disk → Prop
  | nil : LocalDisks [] []
  | takes {b : BlockDevice} {d : Disk} {devices : List BlockDevice} {disks : List Disk}
      (near : b.IsLocalDrive) (described : b.disk? = some d) (rest : LocalDisks devices disks) :
      LocalDisks (b :: devices) (d :: disks)
  | passes {b : BlockDevice} {devices : List BlockDevice} {disks : List Disk}
      (other : ¬ b.IsLocalDrive) (rest : LocalDisks devices disks) : LocalDisks (b :: devices) disks

theorem localDisks_filter (devices : List BlockDevice) :
    LocalDisks devices ((devices.filterMap disk?).filter (·.isLocal)) := by
  induction devices with
  | nil => exact .nil
  | cons b rest ih =>
    cases described : b.disk? with
    | none =>
      rw [List.filterMap_cons_none described]
      refine .passes ?_ ih
      rintro ⟨m, medium, -⟩
      have here : b.disk?.isSome = true := by rw [disk?_isSome, medium]; rfl
      rw [described] at here
      cases here
    | some d =>
      rw [List.filterMap_cons_some described, List.filter_cons]
      split
      · next near => exact .takes ((isLocal_iff_of_disk? described).mp near) described ih
      · next remote => exact .passes (mt (isLocal_iff_of_disk? described).mpr remote) ih

end BlockDevice

/-! ## Disks by their paths -/

namespace GatewayCall

variable {attached : OrderedMap Disk} {paths : List String} {disks : List Disk} {e : GatewayError}

/-- The failure of a request for a disk that is not there, or no longer. -/
def unselectable (path : String) : GatewayError :=
  .invalidRequest ("disk " ++ path ++ " is not attached or listed twice")

/-- Disks are chosen exactly if no path comes twice and each one is attached, and then they are the
attached disks with these paths. -/
theorem select_eq_ok_iff : select attached paths = .ok disks ↔
    paths.Nodup ∧ List.Forall₂ (fun path d => attached.get? path = some d) paths disks := by
  induction paths generalizing attached disks with
  | nil =>
    rw [select, List.forall₂_nil_left_iff]
    constructor
    · rintro ⟨⟩
      exact ⟨List.nodup_nil, rfl⟩
    · rintro ⟨-, rfl⟩
      rfl
  | cons path rest ih =>
    have step : select attached (path :: rest) = .ok disks ↔
        ∃ d others, attached.get? path = some d ∧ select (attached.erase path) rest = .ok others ∧
          disks = d :: others := by
      rw [select]
      cases attached.get? path with
      | none => simp
      | some d =>
        cases select (attached.erase path) rest with
        | error e => simp [Except.map]
        | ok others => simp [Except.map, eq_comm]
    -- the disks of the other paths are found in what is left exactly if the first path is not among
    -- them
    have remaining {others : List Disk} :
        List.Forall₂ (fun path' d => (attached.erase path).get? path' = some d) rest others ↔
          path ∉ rest ∧ List.Forall₂ (fun path' d => attached.get? path' = some d) rest others := by
      have each {path' : String} {d : Disk} : (attached.erase path).get? path' = some d ↔
          path' ≠ path ∧ attached.get? path' = some d := by
        rw [OrderedMap.get?_erase]
        split
        · next same => simp [same]
        · next apart => exact (and_iff_right apart).symm
      simp only [each]
      rw [List.forall₂_and_left]
      refine and_congr_left fun _ => ?_
      exact ⟨fun apart listed => apart path listed rfl,
        fun fresh path' listed same => fresh (same ▸ listed)⟩
    rw [step, List.nodup_cons, List.forall₂_cons_left_iff]
    constructor
    · rintro ⟨d, others, found, selected, rfl⟩
      obtain ⟨distinct, more⟩ := ih.mp selected
      obtain ⟨fresh, more⟩ := remaining.mp more
      exact ⟨⟨fresh, distinct⟩, d, others, found, more, rfl⟩
    · rintro ⟨⟨fresh, distinct⟩, d, others, found, more, rfl⟩
      exact ⟨d, others, found, ih.mpr ⟨distinct, remaining.mpr ⟨fresh, more⟩⟩, rfl⟩

/-- Choosing fails for one of the paths. -/
theorem select_eq_error (failed : select attached paths = .error e) :
    ∃ path ∈ paths, e = unselectable path := by
  induction paths generalizing attached with
  | nil => cases failed
  | cons path rest ih =>
    rw [select] at failed
    split at failed
    · cases failed
      exact ⟨path, List.mem_cons_self, rfl⟩
    · cases outcome : select (attached.erase path) rest with
      | ok others =>
        rw [outcome] at failed
        cases failed
      | error e' =>
        rw [outcome] at failed
        cases failed
        obtain ⟨path', listed, same⟩ := ih outcome
        exact ⟨path', List.mem_cons_of_mem _ listed, same⟩

theorem exists_select_iff (attached : OrderedMap Disk) (paths : List String) :
    (∃ disks, select attached paths = .ok disks) ↔
      paths.Nodup ∧ ∀ path ∈ paths, path ∈ attached.keys := by
  simp only [select_eq_ok_iff, exists_and_left, ← OrderedMap.isSome_get?_iff]
  refine and_congr_right' ?_
  induction paths with
  | nil => simp
  | cons path rest ih =>
    rw [List.forall_mem_cons, ← ih, Option.isSome_iff_exists]
    constructor
    · rintro ⟨disks, found⟩
      obtain ⟨d, others, here, more, rfl⟩ := List.forall₂_cons_left_iff.mp found
      exact ⟨⟨d, here⟩, others, more⟩
    · rintro ⟨⟨d, here⟩, others, more⟩
      exact ⟨d :: others, .cons here more⟩

/-! ## Requests -/

variable {q : HttpRequest} {r : MoveRequest} {spelt vm : String} {reply : Json}
  {devices : List BlockDevice} {answer : Except String (List IpAddress)}
  {addresses : List IpAddress}

/-- What becomes of a request to move a machine when its disks are known, if the look-up of the
destination answers `answer`: it is refused and the tasks do not hear of it, or its migration is
handed to them. That is done at once if the request tells addresses; else the look-up is asked for,
nothing but its answer is waited for, and the migration is handed over when it comes. -/
inductive Proceeds (answer : Except String (List IpAddress)) (p : Pool) (s : Surroundings)
    (vm : String) (r : MoveRequest) : Except GatewayError MigrationOptions → GatewayStep → Prop
  | refused (e : GatewayError) : Proceeds answer p s vm r (.error e) (fail p e)
  | handed (o : MigrationOptions) (told : r.dstAddrs ≠ []) :
      Proceeds answer p s vm r (.ok o) (ofStart vm (StartCall.begin p s o))
  | awaits (o : MigrationOptions) (next : GatewayCall) (untold : r.dstAddrs = [])
      (only : ∀ p' s' h, (step? p' s' next h).isSome → ∃ said, h = .found said)
      (answered : ∀ p' s',
        step? p' s' next (.found answer) = some (ofStart vm (StartCall.begin p' s' o))) :
      Proceeds answer p s vm r (.ok o) (p, .goesOn next [.lookUp r.dstServer])

/-- The addresses of the destination: those that the request tells, or else those that were found,
each of them once. -/
inductive Destination (r : MoveRequest) (answer : Except String (List IpAddress)) :
    List IpAddress → Prop
  | told (told : r.dstAddrs ≠ []) : Destination r answer r.dstAddrs
  | found {found : List IpAddress} (untold : r.dstAddrs = []) (answered : answer = .ok found)
      (some : found ≠ []) : Destination r answer found.eraseDups

/-- The options that are handed on say what the request says, with the disks that were chosen and
the addresses of the destination. -/
structure Orders (vm : String) (r : MoveRequest) (answer : Except String (List IpAddress))
    (o : MigrationOptions) : Prop where
  vmName : o.vmName = vm
  dstServer : o.dstServer = r.dstServer
  dstAddrs : Destination r answer o.dstAddrs
  manifest : o.manifest = Utf8.encode r.manifest.render
  extraFiles : o.extraFiles = r.extraFiles.map Utf8.encode
  overrides : o.overrides = r.overrides

theorem exists_destination (resolves : r.dstAddrs = [] → ∃ found, answer = .ok found ∧ found ≠ []) :
    ∃ addresses, Destination r answer addresses := by
  by_cases untold : r.dstAddrs = []
  · obtain ⟨found, answered, some⟩ := resolves untold
    exact ⟨_, .found untold answered some⟩
  · exact ⟨_, .told untold⟩

theorem Destination.of_untold (destination : Destination r answer addresses)
    (untold : r.dstAddrs = []) :
    ∃ found, answer = .ok found ∧ found ≠ [] ∧ addresses = found.eraseDups := by
  cases destination with
  | told told => exact absurd untold told
  | found _ answered some => exact ⟨_, answered, some, rfl⟩

theorem Destination.eq_of_told (destination : Destination r answer addresses)
    (told : r.dstAddrs ≠ []) : addresses = r.dstAddrs := by
  cases destination with
  | told => rfl
  | found untold => exact absurd untold told

/-- A request to move a machine, when its disks are known and its destination is reached. -/
def handedOn (vm : String) (r : MoveRequest) (addresses : List IpAddress) (attached : List Disk) :
    Except GatewayError MigrationOptions :=
  (chosen r attached).map fun disks => migrationOptions vm r disks addresses

/-- A request to move a machine that can be read asks the monitor for what is attached. -/
theorem begin_move {p : Pool} (post : q.method = "POST")
    (route : (Target.path? q.target).bind Route.find? = some (.migration spelt))
    (machine : Percent.decode? spelt = some vm) (read : body MoveRequest.ofDraft q = .ok r)
    (named : checkVmName vm = .ok ()) : begin p q = .done (list p vm (.listingToMove vm r)) := by
  have head : q.method ≠ "HEAD" := by rw [post]; decide
  have taken : takes (.migration spelt) q.method = true := by rw [post]; rfl
  rw [begin, if_neg head, dispatch]
  simp only [route, if_pos taken, machine]
  rw [onMigration, post]
  simp only [withBody, read, about, checkVm, named]

theorem proceeds_of_listed (p : Pool) (s : Surroundings)
    (listed : Decode.ofJson (Decode.list BlockDevice.ofDraft) reply = some devices)
    (destination : Destination r answer addresses) :
    ∃ next, step? p s (.listingToMove vm r) (.reply (.ok reply)) = some next ∧
      Proceeds answer p s vm r (handedOn vm r addresses (devices.filterMap BlockDevice.disk?))
        next := by
  have told : BlockDevice.disks reply = .ok (devices.filterMap BlockDevice.disk?) := by
    rw [BlockDevice.disks, Reply.interpret, listed]
    rfl
  refine ⟨_, rfl, ?_⟩
  simp only [onListingToMove, Except.bind, told, handedOn]
  cases chosen r (devices.filterMap BlockDevice.disk?) with
  | error e => exact .refused e
  | ok disks =>
    dsimp only
    split
    · next none =>
      have untold := List.isEmpty_iff.mp none
      refine .awaits _ _ untold (fun _ _ h taken => ?_) fun p' s' => ?_
      · cases h with
        | found said => exact ⟨said, rfl⟩
        | _ => cases taken
      · obtain ⟨found, answered, some, rfl⟩ := destination.of_untold untold
        rw [step?, onFound, answered, resolved, if_neg (mt List.isEmpty_iff.mp some)]
    · next some =>
      have some := mt List.isEmpty_iff.mpr some
      rw [destination.eq_of_told some]
      exact .handed _ some

theorem mem_keys_byPath {disks : List Disk} {path : String} :
    path ∈ (OrderedMap.ofList (disks.map fun d => (d.path, d))).keys ↔
      path ∈ disks.map (·.path) := by
  rw [OrderedMap.mem_keys_ofList, List.map_map]
  rfl

theorem of_get?_byPath {disks : List Disk} {path : String} {d : Disk}
    (found : (OrderedMap.ofList (disks.map fun d => (d.path, d))).get? path = some d) :
    d ∈ disks ∧ d.path = path := by
  have entered := OrderedMap.mem_of_mem_ofList (OrderedMap.mem_of_get?_eq_some found)
  obtain ⟨d', there, same⟩ := List.mem_map.mp entered
  cases same
  exact ⟨there, rfl⟩

/-- The disks that are chosen by their paths are attached, and have these paths in this order. -/
theorem paths_of_select {attached : List Disk}
    (selected : select (.ofList (attached.map fun d => (d.path, d))) paths = .ok disks) :
    disks.map (·.path) = paths ∧ ∀ d ∈ disks, d ∈ attached := by
  obtain ⟨-, each⟩ := select_eq_ok_iff.mp selected
  clear selected
  induction each with
  | nil => exact ⟨rfl, List.forall_mem_nil _⟩
  | cons here _ ih =>
    obtain ⟨there, same⟩ := of_get?_byPath here
    exact ⟨by rw [List.map_cons, same, ih.1], List.forall_mem_cons.mpr ⟨there, ih.2⟩⟩

/-- Without a list the disks of the local drives are moved. -/
theorem handedOn_of_all (all : r.disks = none) (devices : List BlockDevice) :
    ∃ o, handedOn vm r addresses (devices.filterMap BlockDevice.disk?) = .ok o ∧
      BlockDevice.LocalDisks devices o.disks := by
  rw [handedOn, chosen, all]
  exact ⟨_, rfl, BlockDevice.localDisks_filter devices⟩

/-- With a list there is a disk for each path, unless a path is not attached or comes twice. -/
theorem handedOn_of_paths (given : r.disks = some paths) (devices : List BlockDevice) :
    ((paths.Nodup ∧ ∀ path ∈ paths, BlockDevice.Attached devices path) ∧
        ∃ o, handedOn vm r addresses (devices.filterMap BlockDevice.disk?) = .ok o ∧
          o.disks.map (·.path) = paths ∧ ∀ d ∈ o.disks, ∃ b ∈ devices, b.disk? = some d) ∨
      (¬ paths.Nodup ∨ ∃ path ∈ paths, ¬ BlockDevice.Attached devices path) ∧
        ∃ path ∈ paths, handedOn vm r addresses (devices.filterMap BlockDevice.disk?) =
          .error (unselectable path) := by
  have choice : chosen r (devices.filterMap BlockDevice.disk?) =
      select (.ofList ((devices.filterMap BlockDevice.disk?).map fun d => (d.path, d))) paths := by
    rw [chosen, given]
  have selectable := exists_select_iff
    (.ofList ((devices.filterMap BlockDevice.disk?).map fun d => (d.path, d))) paths
  simp only [mem_keys_byPath, ← BlockDevice.attached_iff] at selectable
  rw [handedOn, choice]
  cases outcome : select (.ofList ((devices.filterMap BlockDevice.disk?).map fun d => (d.path, d)))
      paths with
  | error e =>
    obtain ⟨path, there, rfl⟩ := select_eq_error outcome
    refine .inr ⟨?_, path, there, rfl⟩
    by_contra sound
    simp only [not_or, not_not, not_exists, not_and] at sound
    obtain ⟨disks, selected⟩ := selectable.mpr sound
    cases outcome.symm.trans selected
  | ok disks =>
    obtain ⟨order, attached⟩ := paths_of_select outcome
    exact .inl ⟨selectable.mp ⟨_, outcome⟩, _, rfl, order,
      fun d there => List.mem_filterMap.mp (attached d there)⟩

/-- A request to move a machine whose body can be read asks for what is attached. When the monitor
has told it, and the destination has an address, the migration that is handed to the tasks moves the
disks of exactly the local drives, in their order; or, if paths are listed, exactly one attached
disk for each path, in the order of the list. Only with a list may it be refused before, as an
invalid request: exactly if a path is not attached or comes twice. -/
theorem moves_chosen (post : q.method = "POST")
    (route : (Target.path? q.target).bind Route.find? = some (.migration spelt))
    (machine : Percent.decode? spelt = some vm) (read : body MoveRequest.ofDraft q = .ok r)
    (named : checkVmName vm = .ok ())
    (listed : Decode.ofJson (Decode.list BlockDevice.ofDraft) reply = some devices)
    (resolves : r.dstAddrs = [] → ∃ found, answer = .ok found ∧ found ≠ []) :
    (∀ p, begin p q = .done (list p vm (.listingToMove vm r))) ∧
    ∃ outcome,
      (∀ p s, ∃ next, step? p s (.listingToMove vm r) (.reply (.ok reply)) = some next ∧
        Proceeds answer p s vm r outcome next) ∧
      (∀ o, outcome = .ok o → Orders vm r answer o) ∧
      (r.disks = none → ∃ o, outcome = .ok o ∧ BlockDevice.LocalDisks devices o.disks) ∧
      ∀ paths, r.disks = some paths →
        ((∃ e, outcome = .error e) ↔
          ¬ paths.Nodup ∨ ∃ path ∈ paths, ¬ BlockDevice.Attached devices path) ∧
        (∀ e, outcome = .error e → e.status = 400 ∧ ∃ path ∈ paths, e = unselectable path) ∧
        ∀ o, outcome = .ok o → o.disks.map (·.path) = paths ∧
          ∀ d ∈ o.disks, ∃ b ∈ devices, b.disk? = some d := by
  obtain ⟨addresses, destination⟩ := exists_destination resolves
  refine ⟨fun p => begin_move post route machine read named, _,
    fun p s => proceeds_of_listed p s listed destination, fun o handed => ?_,
    fun all => handedOn_of_all all devices, fun paths given => ?_⟩
  · rw [handedOn] at handed
    cases choice : chosen r (devices.filterMap BlockDevice.disk?) with
    | error e =>
      rw [choice] at handed
      cases handed
    | ok disks =>
      rw [choice] at handed
      cases handed
      exact ⟨rfl, rfl, destination, rfl, rfl, rfl⟩
  · rcases handedOn_of_paths given devices with
      ⟨⟨distinct, attached⟩, o, handed, order, drives⟩ | ⟨unsound, path, there, refused⟩
    · refine ⟨iff_of_false (fun ⟨_, refused⟩ => nomatch handed.symm.trans refused) ?_,
        fun e refused => (nomatch handed.symm.trans refused), fun o' handed' => ?_⟩
      · rintro (twice | ⟨path, there, absent⟩)
        · exact twice distinct
        · exact absent (attached path there)
      · cases handed.symm.trans handed'
        exact ⟨order, drives⟩
    · refine ⟨iff_of_true ⟨_, refused⟩ unsound, fun e refused' => ?_,
        fun o handed => (nomatch refused.symm.trans handed)⟩
      cases refused.symm.trans refused'
      exact ⟨rfl, path, there, rfl⟩

end GatewayCall

namespace Sample

open GatewayCall

/-- What is there is what came of it. -/
theorem eq_ok_of_isSome {ε α : Type} {x : Except ε α} (isSome : x.toOption.isSome = true) :
    x = .ok (x.toOption.get isSome) := by
  cases x with
  | error e => cases isSome
  | ok a => rfl

/-- A request to move two disks of a machine, in an order of its own, to a host of which no address
is told. -/
def moveTwo : HttpRequest where
  method := "POST"
  target := "/v1/vms/web/migration"
  mediaType := some "application/json"
  body := "\x7b\"dst_server\": \"backup\", \"manifest\": null, " ++
    "\"disks\": [\"/dev/vg/data\", \"/dev/vg/root\"]\x7d"

theorem moveTwo_readable : (body MoveRequest.ofDraft moveTwo).toOption.isSome = true := by
  decide +kernel

def moveTwoRequest : MoveRequest := Option.get _ moveTwo_readable

/-- Three drives, one of them empty. -/
def drives : Json :=
  .arr [.obj [("device", .str "drive0"),
      ("inserted", .obj [("drv", .str "raw"), ("file", .str "/dev/vg/root")])],
    .obj [("device", .str "cd0")],
    .obj [("device", .str "drive1"),
      ("inserted", .obj [("drv", .str "raw"), ("file", .str "/dev/vg/data")])]]

def listedDrives : List BlockDevice :=
  [⟨"drive0", none, some ⟨"/dev/vg/root", "raw", none, []⟩⟩, ⟨"cd0", none, none⟩,
    ⟨"drive1", none, some ⟨"/dev/vg/data", "raw", none, []⟩⟩]

theorem drives_listed :
    Decode.ofJson (Decode.list BlockDevice.ofDraft) drives = some listedDrives := by decide +kernel

/-- The host is found with two addresses, one of them twice. -/
def backupFound : Except String (List IpAddress) := .ok [.v4 10 0 0 2, .v4 10 0 0 3, .v4 10 0 0 2]

/-- The two disks are moved, in the order of the request, when the host has been found. -/
theorem moveTwo_handed : checkVmName "web" = .ok () ∧
    moveTwoRequest.dstAddrs = [] ∧ moveTwoRequest.disks = some ["/dev/vg/data", "/dev/vg/root"] ∧
    (∀ p, begin p moveTwo = .done (list p "web" (.listingToMove "web" moveTwoRequest))) ∧
    ∃ o, o.disks.map (·.path) = ["/dev/vg/data", "/dev/vg/root"] ∧
      o.dstAddrs = [.v4 10 0 0 2, .v4 10 0 0 3] ∧ ∀ p s, ∃ next,
        step? p s (.listingToMove "web" moveTwoRequest) (.reply (.ok drives)) = some next ∧
          Proceeds backupFound p s "web" moveTwoRequest (.ok o) next := by
  have read : body MoveRequest.ofDraft moveTwo = .ok moveTwoRequest :=
    eq_ok_of_isSome moveTwo_readable
  have route : (Target.path? moveTwo.target).bind Route.find? = some (.migration "web") := by
    decide +kernel
  have machine : Percent.decode? "web" = some "web" := by decide +kernel
  have untold : moveTwoRequest.dstAddrs = [] := by decide +kernel
  have resolves : moveTwoRequest.dstAddrs = [] → ∃ found, backupFound = .ok found ∧ found ≠ [] :=
    fun _ => ⟨_, rfl, List.cons_ne_nil _ _⟩
  have named : checkVmName "web" = .ok () := by decide +kernel
  have paths : moveTwoRequest.disks = some ["/dev/vg/data", "/dev/vg/root"] := by decide +kernel
  obtain ⟨asks, outcome, proceeds, orders, -, byPath⟩ := moves_chosen rfl route machine read named
    drives_listed resolves
  obtain ⟨refused, -, chosen⟩ := byPath _ paths
  have attached : ∀ path ∈ ["/dev/vg/data", "/dev/vg/root"],
      BlockDevice.Attached listedDrives path := by
    simp only [BlockDevice.attached_iff]
    decide +kernel
  refine ⟨named, untold, paths, asks, ?_⟩
  cases outcome with
  | error e =>
    rcases refused.mp ⟨e, rfl⟩ with twice | ⟨path, listed, absent⟩
    · exact absurd (by decide) twice
    · exact absurd (attached path listed) absent
  | ok o =>
    refine ⟨o, (chosen o rfl).1, ?_, proceeds⟩
    obtain ⟨found, answered, -, addresses⟩ := (orders o rfl).dstAddrs.of_untold untold
    cases answered
    exact addresses

end Sample

end VmControl
