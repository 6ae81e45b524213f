import VmControl.Proofs.Migration.Course

/-!
# What a migration may do when

`Permitted plan earlier m e` says that a migration with the history `earlier` may do `e` at the
moment `m`: which part may give which order, and what has to be known by then. `Orderly` is a
history in which nothing else was done and in which the mirrors and the transfer gave their orders
in turn, each at most once.
-/

namespace VmControl

open History

/-- Whether an order belongs to the transfer of the machine state. -/
def Order.isTransfer : Order → Bool
  | .setCapabilities | .setParameters .. | .migrate _ | .queryMigrate => true
  | _ => false

/-- Whether an order belongs to a rollback. -/
def Order.isUndo : Order → Bool
  | .blockJobCancel _ | .migrateCancel => true
  | _ => false

/-- Whether a request concerns the offer of disks. -/
def PeerRequest.isExport : PeerRequest → Bool
  | .startExport .. | .stopExport _ => true
  | _ => false

/-- The target of the mirror of a disk: the name under which its destination is offered. -/
def MigrationOptions.mirrorTarget (o : MigrationOptions) (offered : Endpoint) (d : Disk) : String :=
  "nbd:" ++ offered.text ++ ":exportname=" ++ o.dstDiskPath d

/-- What a migration may do at a moment. -/
inductive Permitted (plan : MigrationPlan) (earlier : History) (m : Moment) : Effect → Prop
  | startMirror {n : Nat} {d : Disk} (offered : Endpoint)
      (listed : plan.options.disks[n]? = some d) :
      Permitted plan earlier m (.order (.leg n)
        (.driveMirror d.mirrorJob d.device (plan.options.mirrorTarget offered d)))
  | listJobs {n : Nat} {d : Disk} (listed : plan.options.disks[n]? = some d) :
      Permitted plan earlier m (.order (.leg n) .queryBlockJobs)
  | endMirror {n : Nat} {d : Disk} (listed : plan.options.disks[n]? = some d)
      (transferred : Once TellsCompleted earlier) :
      Permitted plan earlier m (.order (.leg n) (.blockJobComplete d.mirrorJob))
  | watch (disks : plan.options.disks ≠ []) :
      Permitted plan earlier m (.order .watch .queryBlockJobs)
  | transfer {o : Order} (kind : o.isTransfer = true) (ready : AllReady plan earlier) :
      Permitted plan earlier m (.order .transfer o)
  | quit (wanted : m.cancelled = false) (handover : Handover plan earlier) :
      Permitted plan earlier m (.order .course .quit)
  | undo {o : Order} (kind : o.isUndo = true) : Permitted plan earlier m (.order .course o)
  | offer (vm : String) (address : IpAddress) (disks : plan.options.disks ≠ []) :
      Permitted plan earlier m (.request (.startExport vm address plan.options.dstDiskPaths))
  | withdraw (vm : String) (disks : plan.options.disks ≠ []) :
      Permitted plan earlier m (.request (.stopExport vm))
  | request {q : PeerRequest} (kind : q.isExport = false) : Permitted plan earlier m (.request q)
  | keep {e : Effect} (inside : e.isWire = false) : Permitted plan earlier m e

/-- The orders of a mirror: it is started, the jobs are listed, it is completed. -/
inductive MirrorOrders (job : String) : List Order → Prop
  | none : MirrorOrders job []
  | asked (device target : String) (times : Nat) :
      MirrorOrders job (.driveMirror job device target :: List.replicate times .queryBlockJobs)
  | ended (device target : String) (times : Nat) :
      MirrorOrders job (.driveMirror job device target ::
        (List.replicate times .queryBlockJobs ++ [.blockJobComplete job]))

/-- The orders by which the transfer of the machine state is begun. -/
def MigrationPlan.transferSetup (plan : MigrationPlan) (uri : String) : List Order :=
  [.setCapabilities, .setParameters plan.config.maxBandwidth plan.config.cacheSize, .migrate uri]

/-- The orders of the transfer of the machine state: it is begun, then asked for its progress. -/
def TransferOrders (plan : MigrationPlan) (orders : List Order) : Prop :=
  ∃ uri times, orders <+: plan.transferSetup uri ++ List.replicate times .queryMigrate

/-- Every mirror gave its orders in turn. -/
def MirrorsInTurn (plan : MigrationPlan) (past : History) : Prop :=
  ∀ n d, plan.options.disks[n]? = some d → MirrorOrders d.mirrorJob (ordersOf (.leg n) past)

/-- A history in which everything was permitted and the parts gave their orders in turn. -/
structure Orderly (plan : MigrationPlan) (past : History) : Prop where
  permitted : Throughout (fun earlier m => ∀ e ∈ m.effects, Permitted plan earlier m e) past
  mirrors : MirrorsInTurn plan past
  transfer : TransferOrders plan (ordersOf .transfer past)

variable {plan : MigrationPlan} {past : History} {m : Moment}

theorem Orderly.nil : Orderly plan [] where
  permitted := throughout_nil
  mirrors _ _ _ := .none
  transfer := ⟨"", 0, List.nil_prefix⟩

theorem MirrorsInTurn.frame (inTurn : MirrorsInTurn plan past)
    (silent : ∀ n, ordersOf (.leg n) (past ++ [m]) = ordersOf (.leg n) past) :
    MirrorsInTurn plan (past ++ [m]) := by
  intro n d listed
  rw [silent n]
  exact inTurn n d listed

/-- A moment at which neither a mirror nor the transfer orders anything. -/
theorem Orderly.concat (orderly : Orderly plan past)
    (permitted : ∀ e ∈ m.effects, Permitted plan past m e) (silent : m.Gives none) :
    Orderly plan (past ++ [m]) where
  permitted := throughout_concat.mpr ⟨orderly.permitted, permitted⟩
  mirrors := orderly.mirrors.frame fun _ => silent.other nofun nofun
  transfer := by
    have kept : ordersOf .transfer (past ++ [m]) = ordersOf .transfer past :=
      silent.other nofun nofun
    rw [kept]
    exact orderly.transfer

end VmControl
