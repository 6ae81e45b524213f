import VmControl.Gate
import VmControl.Migration.Leg

/-!
The transfer of the machine state.

It begins when all disks are ready, sets the capabilities and parameters of the transfer, starts it,
and asks for its progress until it is over. Main statement:

- `Transfer.onProgress_completed`: a completed transfer is reported as finished.
-/

namespace VmControl

/-- How far the transfer has come. -/
inductive Transfer where
  /-- It waits until all disks are ready. -/
  | blocked
  | settingCapabilities
  | settingParameters
  | starting
  /-- It rests until the next question. -/
  | resting (meter : Meter) (p : Pause)
  /-- Its progress was asked for. -/
  | asking (meter : Meter)
  | ended (outcome : Except ControlError Unit)

namespace Transfer

/-- The outcome of a transfer that is over. -/
def outcome? : Transfer → Option (Except ControlError Unit)
  | .ended outcome => some outcome
  | _ => none

/-- The transfer goes on with an order after an answer, or fails. -/
def follow (next : Transfer) (order : Order) : Except ControlError Json → Reaction Transfer
  | .ok _ => .ask next order
  | .error e => .fail e

/-- The transfer rests after an answer, or fails. -/
def rest (plan : MigrationPlan) (s : Surroundings) (meter : Meter) : Transfer :=
  .resting meter (.begin s plan.config.pollInterval)

/-- Takes the progress into account. -/
def onProgress (plan : MigrationPlan) (s : Surroundings) (meter : Meter) (info : MigrationInfo) :
    Reaction Transfer :=
  let memory := info.ram.getD .zero
  let stopped (status : String) : Reaction Transfer :=
    .fail (.migration (info.errorDesc.getD ("state transfer " ++ status)))
  match info.status with
  | some "completed" =>
    ⟨.ok (.ended (.ok ())), none, [.state (.done (max memory.total memory.transferred))]⟩
  | some "failed" => stopped "failed"
  | some "cancelled" => stopped "cancelled"
  | _ =>
    let (speed, meter) := meter.sample memory.transferred s.now
    ⟨.ok (rest plan s meter), none,
      [.state ((Progress.ofCounters memory.total memory.transferred).withSpeed speed)]⟩

/-- The monitor has answered with the progress. -/
def onAnswer (plan : MigrationPlan) (s : Surroundings) (meter : Meter)
    (reply : Except ControlError Json) : Reaction Transfer :=
  match reply.bind (Reply.interpret Order.queryMigrate.command.name MigrationInfo.ofDraft) with
  | .error e => .fail e
  | .ok info => onProgress plan s meter info

/-- The reaction of the transfer to what happens to it, if that can happen now. -/
def react? (plan : MigrationPlan) (target : Endpoint) (s : Surroundings) (cancelled : Bool)
    (ready : Gate) (t : Transfer) (h : Happening) : Option (Reaction Transfer) :=
  match t, h with
  | .blocked, .enter =>
    (ready.look cancelled).map fun
      | .ok () => .ask .settingCapabilities .setCapabilities
      | .error e => .fail e
  | .settingCapabilities, .reply answer =>
    some (follow .settingParameters
      (.setParameters plan.config.maxBandwidth plan.config.cacheSize) answer)
  | .settingParameters, .reply answer =>
    some (follow .starting (.migrate ("tcp:" ++ target.text)) answer)
  | .starting, .reply (.ok _) => some (.stay (rest plan s .new))
  | .starting, .reply (.error e) => some (.fail e)
  | .resting meter p, .wake w =>
    (p.wake s cancelled w).map fun
      | .ok () => .ask (.asking meter) .queryMigrate
      | .error e => .fail e
  | .asking meter, .reply answer => some (onAnswer plan s meter answer)
  | _, _ => none

/-- The moment at which the transfer wakes by itself, if it rests. -/
def due? : Transfer → Option Nat
  | .resting _ p => some p.due
  | _ => none

/-- A completed transfer is reported as finished. -/
theorem onProgress_completed (plan : MigrationPlan) (s : Surroundings) (meter : Meter)
    (info : MigrationInfo) (completed : info.status = some "completed") :
    onProgress plan s meter info = ⟨.ok (.ended (.ok ())), none,
      [.state (.done (max (info.ram.getD .zero).total (info.ram.getD .zero).transferred))]⟩ := by
  simp [onProgress, completed]

end Transfer

end VmControl
