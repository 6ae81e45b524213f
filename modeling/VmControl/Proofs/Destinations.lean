import VmControl.Proofs.Endpoint
import VmControl.Proofs.Migration.PhaseOrder
import VmControl.Proofs.Pool.Overlap

/-!
# Where the disks of a migration go

Destinations of disks are named in three places: in the request for room before a migration starts,
in the list of disks that the receiving host is to offer, and in the target of each mirror. All
three apply the renames of the options (`Host.Run.asksRoom`, `Permitted.of_offer`,
`Permitted.of_mirror`), so what they say is right exactly as far as the renames keep the disks apart
(`MigrationOptions.keepsApart_iff`). The check of options does not see to that: two disks may be
sent to one place, and the request for room then counts one of them (`Sample.merged_accepted`).
-/

namespace VmControl

open History

/-! ## The request for room -/

namespace Host

variable {config : Config} {past : List Moment} {h h' : Host} {move : Move} {errands : List Errand}
  {p q : Pool} {s : Surroundings} {o : Operation} {state next : CallState}
  {effects : List CallEffect} {room : OrderedMap UInt64} {number : Nat}

/-- A call to start a migration has asked for room. -/
def AsksRoom (past : List Moment) (h : Host) (o : MigrationOptions) (room : OrderedMap UInt64) :
    Prop :=
  ∃ m ∈ past, ∃ number state, .ofCall number (.request (.checkCapacity room)) ∈ m.errands ∧
    h.calls[number]? = some ⟨.startMigration o, state⟩

/-- The first step of a call does not ask for room. -/
theorem Operation.begin_asks (begun : o.begin p s = (q, state, effects)) :
    .request (.checkCapacity room) ∉ effects := by
  intro asks
  cases o with
  | startMigration o =>
    simp only [begin, StartCall.begin] at begun
    split at begun
    · cases begun; cases asks
    · split at begun
      · cases begun; cases asks
      · split at begun <;> cases begun
        · cases asks
        · cases List.mem_singleton.mp asks
  | startCopying o => cases begun; cases asks
  | cancel id =>
    simp only [begin, CancelCall.begin] at begun
    split at begun <;> cases begun <;> cases asks
  | cancelAll vm => cases begun; cases asks

/-- The start of a migration asks for room at the destinations of its disks. -/
theorem asks_of_step? {c d : StartCall} {x : Happening}
    (stepped : c.step? p s x = some (q, .goesOn d effects))
    (asks : .request (.checkCapacity room) ∈ effects) : room = c.options.capacities := by
  have register {turn : CallTurn StartCall (Except ControlError Unit)}
      (registered : c.register p s = (q, turn)) : turn ≠ .goesOn d effects := by
    rintro rfl
    unfold StartCall.register at registered
    split at registered <;> cases registered
  unfold StartCall.step? at stepped
  split at stepped
  · split at stepped <;> cases stepped
    cases List.mem_singleton.mp asks
  · obtain ⟨answer, -, came⟩ := Option.map_eq_some_iff.mp stepped
    unfold StartCall.onName at came
    split at came
    · cases came
    · split at came
      · cases came
      · split at came
        · exact absurd rfl (register came)
        · cases came
          cases List.mem_singleton.mp asks
          rfl
  · obtain ⟨answer, -, came⟩ := Option.map_eq_some_iff.mp stepped
    unfold StartCall.onRoom at came
    split at came
    · cases came
    · exact absurd rfl (register came)

/-- A further step asks for room at the destinations of the options with which it was started. -/
theorem CallState.step?_asks {x : Happening} (relied : state.Sound p o)
    (stepped : state.step? p s x = some (q, next, effects))
    (asks : .request (.checkCapacity room) ∈ effects) :
    ∃ options, o = .startMigration options ∧ room = options.capacities := by
  cases state with
  | starting c =>
    obtain ⟨⟨_, turn⟩, begun, same⟩ := Option.map_eq_some_iff.mp stepped
    rcases turn with ⟨d, more⟩ | ⟨outcome⟩
    · cases same
      exact ⟨c.options, relied, asks_of_step? begun asks⟩
    · cases same
      cases asks
  | cancelling c =>
    obtain ⟨⟨_, turn⟩, begun, same⟩ := Option.map_eq_some_iff.mp stepped
    rcases CancelCall.step?_spec relied.2 begun with ⟨-, ⟨_, rfl, -⟩ | ⟨rfl, -⟩ | rfl⟩ <;>
      cases same <;> cases asks
  | cancellingAll c =>
    obtain ⟨⟨_, turn⟩, begun, same⟩ := Option.map_eq_some_iff.mp stepped
    rcases CancelAllCall.step?_spec relied.2 begun with ⟨-, ⟨_, rfl, -⟩ | rfl⟩ <;>
      cases same <;> cases asks
  | returned => cases stepped

/-- A call that was made stays, and with it what it is for. -/
theorem Step.made {c : Call} (step : h.Step move h' errands) (made : h.calls[number]? = some c) :
    ∃ state, h'.calls[number]? = some ⟨c.operation, state⟩ := by
  have bound := (List.getElem?_eq_some_iff.mp made).1
  cases step with
  | call => exact ⟨c.state, (List.getElem?_append_left bound).trans made⟩
  | @goOn n s x d p state effects here =>
    by_cases same : n = number
    · subst same
      rw [here] at made
      cases made
      exact ⟨state, List.getElem?_set_self bound⟩
    · exact ⟨c.state, (List.getElem?_set_ne same).trans made⟩
  | task => exact ⟨c.state, made⟩

/-- Who asks for room at a move is the start of a migration. -/
theorem Sound.asks (sound : h.Sound) (step : h.Step move h' errands)
    (asks : .ofCall number (.request (.checkCapacity room)) ∈ errands) :
    ∃ options state, h'.calls[number]? = some ⟨.startMigration options, state⟩ ∧
      room = options.capacities := by
  cases step with
  | call begun =>
    obtain ⟨_, wanted, same⟩ := List.mem_map.mp asks
    cases same
    exact absurd wanted (Operation.begin_asks begun)
  | @goOn n s x c p state effects here stepped =>
    obtain ⟨_, wanted, same⟩ := List.mem_map.mp asks
    cases same
    obtain ⟨options, named, rfl⟩ :=
      CallState.step?_asks (sound.calls c (List.mem_of_getElem? here)) stepped wanted
    refine ⟨options, state, ?_, rfl⟩
    rw [← named]
    exact List.getElem?_set_self (List.getElem?_eq_some_iff.mp here).1
  | task =>
    obtain ⟨_, _, same⟩ := List.mem_map.mp asks
    cases same

/-- Room is asked for at the destinations of the disks, whatever they are. -/
theorem Run.asksRoom {o : MigrationOptions} (run : Run config past h)
    (asked : AsksRoom past h o room) : room = o.capacities := by
  have all : ∀ m ∈ past, ∀ number, .ofCall number (.request (.checkCapacity room)) ∈ m.errands →
      ∃ options state, h.calls[number]? = some ⟨.startMigration options, state⟩ ∧
        room = options.capacities := by
    clear asked
    induction run with
    | new => exact List.forall_mem_nil _
    | step run moved ih =>
      intro m there number asks
      rcases List.mem_append.mp there with before | now
      · obtain ⟨options, state, made, rfl⟩ := ih m before number asks
        obtain ⟨state, still⟩ := (step?_cases moved).made made
        exact ⟨options, state, still, rfl⟩
      · obtain rfl := List.mem_singleton.mp now
        exact run.sound.asks (step?_cases moved) asks
  obtain ⟨m, there, number, state, asks, made⟩ := asked
  obtain ⟨options, state', made', rfl⟩ := all m there number asks
  rw [made] at made'
  cases made'
  rfl

end Host

/-! ## Offers and mirrors -/

/-- The order starts a mirror whose target is offered under a name. -/
def Order.MirrorsTo (name : String) (o : Order) : Prop :=
  ∃ job device, ∃ offered : Endpoint,
    o = .driveMirror job device ("nbd:" ++ offered.text ++ ":exportname=" ++ name)

variable {plan : MigrationPlan} {past earlier : History} {m : Moment}

/-- What is to be offered is what the mirrors write to. -/
theorem Permitted.of_offer {vm : String} {address : IpAddress} {paths : List String}
    (permitted : Permitted plan earlier m (.request (.startExport vm address paths))) :
    paths = plan.options.dstDiskPaths := by
  cases permitted with
  | offer => rfl
  | request kind => cases kind
  | keep inside => cases inside

/-- The mirror of a disk writes to the destination of that disk. -/
theorem Permitted.of_mirror {part : Part} {o : Order} {name : String}
    (permitted : Permitted plan earlier m (.order part o)) (mirrors : o.MirrorsTo name) :
    ∃ d ∈ plan.options.disks, o.starts d.mirrorJob = true ∧ plan.options.dstDiskPath d = name := by
  obtain ⟨job, device, offered, rfl⟩ := mirrors
  generalize target : "nbd:" ++ offered.text ++ ":exportname=" ++ name = t at permitted
  cases permitted with
  | startMirror other listed =>
    rw [MigrationOptions.mirrorTarget] at target
    exact ⟨_, List.mem_of_getElem? listed, decide_eq_true rfl,
      (Endpoint.exportName_inj target).symm⟩
  | transfer kind => cases kind
  | undo kind => cases kind
  | keep inside => cases inside

/-- What happens once at most does not happen at two places. -/
theorem pairwise_of_countP {α β : Type} {p : β → α → Bool} {l : List α}
    (once : ∀ b, l.countP (p b) ≤ 1) :
    l.Pairwise fun x y => ∀ b, ¬ (p b x = true ∧ p b y = true) := by
  induction l with
  | nil => exact .nil
  | cons x rest ih =>
    refine List.pairwise_cons.mpr ⟨fun y there b both => ?_, ih fun b => ?_⟩
    · have none := once b
      rw [List.countP_cons_of_pos both.1] at none
      have some : 0 < rest.countP (p b) := List.countP_pos_iff.mpr ⟨y, there, both.2⟩
      omega
    · exact Nat.le_trans (List.sublist_cons_self x rest).countP_le (once b)

/-- Where the disks have destinations of their own, no two mirrors have the same one. -/
theorem Course.mirrors_apart {cancelled : Bool} {r : MigrationRun}
    (valid : plan.options.validate = .ok ()) (distinct : plan.options.dstDiskPaths.Nodup)
    (course : Course plan past cancelled r) :
    (orders past).Pairwise fun a b => ∀ name, ¬ (a.MirrorsTo name ∧ b.MirrorsTo name) := by
  have orderly := course.ordered.orderly
  have inOrder := orderly.inOrder (MigrationOptions.jobIds_nodup valid "migr")
  have once (job : String) : (orders past).countP (Order.starts job) ≤ 1 := by
    by_contra more
    have some : 0 < (orders past).countP (Order.starts job) := by omega
    obtain ⟨o, given, starts⟩ := List.countP_pos_iff.mp some
    obtain ⟨d, listed, rfl⟩ := inOrder.own o given job (Or.inl starts)
    exact more (inOrder.once d listed).1
  have mirror {o : Order} {name : String} (given : o ∈ orders past) (mirrors : o.MirrorsTo name) :
      ∃ d ∈ plan.options.disks, o.starts d.mirrorJob = true ∧
        plan.options.dstDiskPath d = name := by
    obtain ⟨part, sent⟩ := mem_orders.mp given
    obtain ⟨_, _, _, _, permitted⟩ := orderly.permitted_of_mem sent
    exact permitted.of_mirror mirrors
  refine (pairwise_of_countP once).imp_of_mem fun here there apart name => ?_
  rintro ⟨first, second⟩
  obtain ⟨d, listed, starts, goes⟩ := mirror here first
  obtain ⟨e, listed', starts', goes'⟩ := mirror there second
  -- one destination means one disk, and its mirror is started once
  have disks : plan.options.disks.Nodup := (MigrationOptions.paths_nodup valid).of_map
  have same : d = e := (List.nodup_map_iff_inj_on disks).mp distinct d listed e listed'
    (goes.trans goes'.symm)
  exact apart d.mirrorJob ⟨starts, same ▸ starts'⟩

/-! ## All three together -/

namespace MigrationOptions

/-- Wherever destinations are named, every disk has one of its own. -/
structure KeepsApart (o : MigrationOptions) : Prop where
  paths : o.dstDiskPaths.Nodup
  /-- The request for room has one entry for each disk, with its size. -/
  room : ∀ config past h room, Host.Run config past h → Host.AsksRoom past h o room →
    room.entries.Perm (o.disks.map fun d => (o.dstDiskPath d, d.virtualSize))
  /-- No path is offered twice. -/
  offers : ∀ config past cancelled r vm address paths, Course ⟨o, config⟩ past cancelled r →
    .request (.startExport vm address paths) ∈ wire past → paths = o.dstDiskPaths ∧ paths.Nodup
  /-- No two mirrors of a run have one target. -/
  mirrors : ∀ config past cancelled r, Course ⟨o, config⟩ past cancelled r →
    (orders past).Pairwise fun a b => ∀ name, ¬ (a.MirrorsTo name ∧ b.MirrorsTo name)

/-- Accepted options give every disk a destination of its own, in all requests and orders, exactly
if their renames keep the disks apart. -/
theorem keepsApart_iff {o : MigrationOptions} (valid : o.validate = .ok ()) :
    o.KeepsApart ↔ o.RenamesApart := by
  rw [← dstDiskPaths_nodup_iff valid]
  constructor
  · exact KeepsApart.paths
  · intro distinct
    refine ⟨distinct, ?_, ?_, ?_⟩
    · intro config past h room run asked
      rw [run.asksRoom asked]
      exact capacities_perm distinct
    · intro config past cancelled r vm address paths course sent
      obtain ⟨_, _, _, _, permitted⟩ := course.ordered.orderly.permitted_of_mem sent
      obtain rfl := permitted.of_offer
      exact ⟨rfl, distinct⟩
    · intro config past cancelled r course
      exact course.mirrors_apart valid distinct

end MigrationOptions

namespace Sample

/-- A second disk of the machine. -/
def spare : Disk := { disk with path := "/dev/vg/data", device := "drive1" }

/-- Both disks, the first one renamed on the destination. -/
def renamedTo (path : String) : MigrationOptions :=
  { Sample.plan.options with
    disks := [disk, spare]
    overrides := ⟨none, .ofList [(disk.path, path)]⟩ }

theorem renamedTo_valid (path : String) : (renamedTo path).validate = .ok () := by
  have disks : MigrationOptions.checkDisks [] [disk, spare] = .ok () := by decide +kernel
  simp only [MigrationOptions.validate, renamedTo, disks]
  rfl

/-- A rename to a path that no other disk has keeps the disks apart. -/
theorem renamed_apart : (renamedTo "/dev/vg/new").validate = .ok () ∧
    (renamedTo "/dev/vg/new").KeepsApart := by
  have apart : (renamedTo "/dev/vg/new").RenamesApart :=
    (MigrationOptions.dstDiskPaths_nodup_iff (renamedTo_valid _)).mp (by decide)
  exact ⟨renamedTo_valid _, (MigrationOptions.keepsApart_iff (renamedTo_valid _)).mpr apart⟩

/-- The check accepts a rename to the path of the other disk. Both disks then go to one place, and
the request for room has one entry for them. -/
theorem merged_accepted : ¬ (∀ o : MigrationOptions, o.validate = .ok () → o.dstDiskPaths.Nodup) ∧
    ¬ ∀ o : MigrationOptions, o.validate = .ok () →
      o.capacities.entries.length = o.disks.length := by
  have merged : ¬ (renamedTo spare.path).dstDiskPaths.Nodup ∧
      (renamedTo spare.path).capacities.entries.length ≠ (renamedTo spare.path).disks.length := by
    decide
  exact ⟨fun always => merged.1 (always _ (renamedTo_valid _)),
    fun always => merged.2 (always _ (renamedTo_valid _))⟩

end Sample

end VmControl
