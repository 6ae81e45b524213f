import VmControl.Text.Split

/-!
The routes of gateway requests.

The path is split before anything in it is decoded, so a separator that is spelt with a percent sign
does not split it.
-/

namespace VmControl

/-- A route with its parameters as the path spells them. -/
inductive Route where
  /-- The migration of a machine. -/
  | migration (vm : String)
  /-- The copy of a disk of a machine. -/
  | copying (vm disk : String)
  | tasks
  | health
deriving DecidableEq

namespace Route

/-- The route of a path. -/
def find? (path : String) : Option Route :=
  match Text.parts '/' path with
  | ["", "v1", "vms", vm, "migration"] => some (.migration vm)
  | ["", "v1", "vms", vm, "disks", disk, "copying"] => some (.copying vm disk)
  | ["", "v1", "tasks"] => some .tasks
  | ["", "health"] => some .health
  | _ => none

end Route

end VmControl
