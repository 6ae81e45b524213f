import VmControl.Task.Account
import VmControl.Task.Reaction

/-!
What a task wants done outside itself, what can happen to it, and how it comes to its end.

A task that has an outcome lets all its updates be taken in, has the final statistics kept, and only
then ends.
-/

namespace VmControl

/-- What a task wants done. -/
inductive Effect where
  /-- The monitor is to carry out an order of a part of the task. -/
  | order (part : Part) (order : Order)
  /-- The receiving host is to be asked. -/
  | request (request : PeerRequest)
  /-- The target of a copy is to be made ready. -/
  | prepare (options : CopyOptions)
  /-- What was made for a copy is to be removed. -/
  | discard (target : CopyTarget)
  /-- The final statistics of a migration are to be kept. -/
  | keepMigration (vm : String) (stat : MigrationStat)
  /-- The final statistics of a copy are to be kept. -/
  | keepCopying (vm : String) (stat : CopyStat)

/-- What can happen to a task. -/
inductive Stimulus where
  /-- Something happens to a part. -/
  | act (part : Part) (h : Happening)
  /-- An update of the statistics is taken in. -/
  | fold
  /-- The final statistics are handed over to be kept. -/
  | persist
  /-- They have been kept, or could not be. -/
  | kept

/-- How far a task with an outcome has come. -/
inductive Ending where
  | draining (outcome : Except ControlError Unit)
  /-- The final statistics are being kept. -/
  | keeping (outcome : Except ControlError Unit)
  | ended (outcome : Except ControlError Unit)

namespace Ending

/-- The outcome of a task that has ended. -/
def outcome? : Ending → Option (Except ControlError Unit)
  | .ended outcome => some outcome
  | _ => none

/-- A step towards the end of a task with the given account and what is to be kept. -/
def step? {α : Type} (account : Account α) (keep : Effect) :
    Ending → Stimulus → Option (Ending × List Effect)
  | .draining outcome, .persist =>
    if account.left.isEmpty then some (.keeping outcome, [keep]) else none
  | .keeping outcome, .kept => some (.ended outcome, [])
  | _, _ => none

end Ending

end VmControl
