import VmControl.Gate
import VmControl.Migration.Leg

/-!
The mirrors of all disks of a migration.

The mirrors run side by side until all are ready. From then on one listing at a time keeps the
progress of all of them up to date, until the machine state is on the other side; then all are
completed side by side. The first mirror that fails ends the phase, and the others are dropped as
they are.
-/

namespace VmControl

/-- How far the mirrors have come. -/
inductive Mirroring where
  /-- The mirrors become ready, each for itself. -/
  | syncing (legs : List Leg)
  /-- All are ready and a common listing was ordered. -/
  | listing (legs : List Leg)
  /-- All are ready and rest until the next common listing. -/
  | resting (legs : List Leg) (p : Pause)
  /-- The mirrors are completed, each for itself. -/
  | completing (legs : List Leg)
  | ended (outcome : Except ControlError Unit)

namespace Mirroring

/-- The phase of a migration of disks that has not begun. -/
def new (stamp : Timestamp) (disks : List Disk) : Mirroring := .syncing (disks.map (Leg.new stamp))

/-- Whether all mirrors have been ready. -/
def isSynced : Mirroring → Bool
  | .syncing _ => false
  | .listing _ | .resting .. | .completing _ => true
  | .ended outcome => outcome.toBool

/-- The outcome of a phase that is over. -/
def outcome? : Mirroring → Option (Except ControlError Unit)
  | .ended outcome => some outcome
  | _ => none

/-- The turn of the mirrors, which tells on whose behalf an order is given. -/
abbrev MirrorTurn := Turn (Part × Order) (Except ControlError Mirroring)

/-- The phase after one of its mirrors has reacted while all become ready. -/
def advance (legs : List Leg) (position : Nat) (r : Reaction Leg) : MirrorTurn :=
  match r.next with
  | .error e => ⟨.error e, none, r.reports⟩
  | .ok leg =>
    let legs := legs.set position leg
    if legs.all (·.isReady) then ⟨.ok (.listing legs), some (.watch, .queryBlockJobs), r.reports⟩
    else ⟨.ok (.syncing legs), r.order.map (.leg position, ·), r.reports⟩

/-- The phase after one of its mirrors has reacted while all are completed. -/
def settle (legs : List Leg) (position : Nat) (r : Reaction Leg) : MirrorTurn :=
  (r.mapOrder (Part.leg position, ·)).map (·.map fun leg =>
    let legs := legs.set position leg
    if legs.all (·.isConcluded) then .ended (.ok ()) else .completing legs)

/-- Takes a common listing into account, mirror by mirror, up to the first whose job is missing. -/
def measureAll (plan : MigrationPlan) (s : Surroundings) (jobs : List BlockJob) :
    List Leg → Except ControlError (List Leg) × List StatUpdate
  | [] => (.ok [], [])
  | leg :: rest =>
    match BlockJob.find? jobs leg.job with
    | none => (.error (leg.vanished plan s), [])
    | some entry =>
      let (measured, report) := leg.measure s entry
      let (others, reports) := measureAll plan s jobs rest
      (others.map (measured :: ·), report :: reports)

/-- The monitor has answered with a common listing. -/
def onListing (plan : MigrationPlan) (s : Surroundings) (legs : List Leg)
    (reply : Except ControlError Json) : MirrorTurn :=
  match reply.bind (Reply.interpret Order.queryBlockJobs.command.name BlockJob.listing) with
  | .error e => ⟨.error e, none, []⟩
  | .ok jobs =>
    let (measured, reports) := measureAll plan s jobs legs
    ⟨measured.map fun legs => .resting legs (.begin s plan.config.pollInterval), none, reports⟩

/-- The machine state is on the other side, or the phase is cancelled. -/
def onMigrated (legs : List Leg) : Except ControlError Unit → MirrorTurn
  | .ok () =>
    ⟨.ok (.completing (legs.map fun leg => { leg with stage := .toComplete })), none, []⟩
  | .error e => ⟨.error e, none, []⟩

/-- The reaction of the mirrors to what happens to one of them or to all, if that can happen now. A
gate that is open or a cancellation ends a rest before its time. -/
def react? (plan : MigrationPlan) (target : Endpoint) (s : Surroundings) (cancelled : Bool)
    (migrated : Gate) (m : Mirroring) (part : Part) (h : Happening) :
    Option MirrorTurn :=
  match m, part with
  | .syncing legs, .leg position =>
    match legs[position]? with
    | some leg => (leg.react? plan target s cancelled h).map (advance legs position)
    | none => none
  | .listing legs, .watch =>
    match h with
    | .reply answer => some (onListing plan s legs answer)
    | _ => none
  | .resting legs p, .watch =>
    match h with
    | .enter => (migrated.look cancelled).map (onMigrated legs)
    | .wake .elapse =>
      if p.isDue s && (migrated.look cancelled).isNone then
        some ⟨.ok (.listing legs), some (.watch, .queryBlockJobs), []⟩
      else none
    | _ => none
  | .completing legs, .leg position =>
    match legs[position]? with
    | some leg => (leg.react? plan target s cancelled h).map (settle legs position)
    | none => none
  | _, _ => none

def legs : Mirroring → List Leg
  | .syncing legs | .listing legs | .resting legs _ | .completing legs => legs
  | .ended _ => []

/-- The moments at which someone wakes by itself. -/
def dues : Mirroring → List Nat
  | .resting _ p => [p.due]
  | m => m.legs.filterMap (·.due?)

end Mirroring

end VmControl
