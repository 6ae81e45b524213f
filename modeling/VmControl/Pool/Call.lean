import VmControl.Pool.Basic

/-!
Calls that take several steps, with the tasks of the host changing between them.
-/

namespace VmControl

/-- What a call wants done. -/
inductive CallEffect where
  /-- A connection to a host that may receive a machine. -/
  | connect (server : String) (addresses : List IpAddress)
  /-- The receiving host is to be asked. -/
  | request (request : PeerRequest)
  /-- The monitor of a machine is to carry out a command. -/
  | command (vm : String) (command : Command)
  /-- The addresses of a host are to be found. -/
  | lookUp (host : String)

/-- What comes of a step of a call. -/
inductive CallTurn (κ α : Type) where
  | goesOn (call : κ) (effects : List CallEffect)
  | over (outcome : α)

namespace CallTurn

variable {κ κ' α β : Type}

/-- The turn of a call of which another one is a part. -/
def map (f : κ → κ') (g : α → β) : CallTurn κ α → CallTurn κ' β
  | .goesOn call effects => .goesOn (f call) effects
  | .over outcome => .over (g outcome)

end CallTurn

/-- The tasks after a step of a call, and what comes of it. -/
abbrev CallStep (κ α : Type) := Pool × CallTurn κ α

end VmControl
