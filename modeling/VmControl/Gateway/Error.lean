import VmControl.Error
import VmControl.Json.Basic

/-!
Failures of gateway requests and the responses they become.
-/

namespace VmControl

/-- Why a gateway request fails. -/
inductive GatewayError where
  | control (cause : ControlError)
  /-- The request holds unusable values. -/
  | invalidRequest (reason : String)
deriving DecidableEq

namespace GatewayError

/-- The wording of a failure. -/
def message : GatewayError → String
  | .control cause => cause.message
  | .invalidRequest reason => "invalid request: " ++ reason

/-- The status of the response. -/
def status : GatewayError → Nat
  | .invalidRequest _ => 400
  | .control cause =>
    match cause with
    | .invalidOptions _ => 400
    | .alreadyRunning .. | .taskNotRunning => 409
    | .notAvailable _ | .notRunning _ | .taskNotFound _ => 404
    | .precondition _ => 412
    | _ => 500

/-- The body of the response. -/
def body (e : GatewayError) : Json := .obj [("error", .str e.message)]

end GatewayError

end VmControl
