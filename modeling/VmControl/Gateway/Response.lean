import VmControl.Codec.Stat
import VmControl.Gateway.Error
import VmControl.Task.Id

/-!
The responses of the gateway.
-/

namespace VmControl

/-- What a response holds. -/
inductive ResponseBody where
  /-- Nothing, or words for a human reader. -/
  | empty
  | failure (e : GatewayError)
  /-- The task that was started. -/
  | started (id : TaskId)
  /-- The statistics of a migration. -/
  | migration (stat : MigrationStat)
  /-- The statistics of a copy. -/
  | copying (stat : CopyStat)
  /-- The tasks, and whether each is in progress. -/
  | tasks (flags : OrderedMap Bool)
  | alive
deriving DecidableEq

namespace ResponseBody

/-- The data form of a body; nothing if it holds no data. -/
def toJson? : ResponseBody → Option Json
  | .empty => none
  | .failure e => some e.body
  | .started id => some (.obj [("task", .str id.text)])
  | .migration stat => some stat.toJson
  | .copying stat => some stat.toJson
  | .tasks flags => some (.ofMap .bool flags)
  | .alive => some (.obj [("status", .str "ok")])

end ResponseBody

structure Response where
  status : Nat
  body : ResponseBody
deriving DecidableEq

namespace Response

/-- A response of the framework, which holds no data. -/
def bare (status : Nat) : Response := ⟨status, .empty⟩

/-- The response to a request that fails. -/
def ofError (e : GatewayError) : Response := ⟨e.status, .failure e⟩

/-- The response to a request that started a task. -/
def accepted (id : TaskId) : Response := ⟨202, .started id⟩

/-- The response without what it holds. -/
def withoutBody (r : Response) : Response := { r with body := .empty }

end Response

end VmControl
