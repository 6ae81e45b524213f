import VmControl.Monitor.Inbound
import VmControl.Monitor.Line
import VmControl.Monitor.Order

/-!
Opening a monitor connection.

The monitor introduces itself, the client asks for command mode, and the monitor answers. Until the
answer comes, greetings and events are passed over; every other line ends the attempt.
-/

namespace VmControl

/-- How far the opening of a connection has come. -/
inductive Handshake where
  | greeting
  /-- The answer to the request for command mode is awaited. -/
  | negotiating
deriving DecidableEq

namespace Handshake

/-- What follows a line. -/
inductive Next where
  | wait (h : Handshake)
  /-- Command mode is asked for. -/
  | ask
  /-- The connection can be used. -/
  | ready
  | failed (e : ControlError)
deriving DecidableEq

/-- The request for command mode. -/
def capabilities : Command := ⟨"qmp_capabilities", none⟩

/-- The failure of an attempt whose stream has ended. -/
def ended : ControlError := .protocol "connection closed"

/-- The failure of an attempt whose stream is no text. -/
def notText : ControlError := .io "stream did not contain valid UTF-8"

/-- The failure of an attempt that took too long. -/
def timedOut (socket : String) (timeout : UInt64) : ControlError :=
  .deadlineExceeded ("QMP handshake with " ++ socket ++ " did not finish within "
    ++ toString (timeout.toNat / 1000) ++ "s")

/-- What follows a classified line. -/
def next (h : Handshake) (line : Inbound) : Next :=
  match h, line with
  | .greeting, .greeting => .ask
  | .greeting, _ => .failed (.protocol "expected greeting")
  | .negotiating, .reply _ (.ok _) => .ready
  | .negotiating, .reply _ (.error e) => .failed e
  | .negotiating, _ => .wait .negotiating

/-- What follows a line that is received at a given time. -/
def receive (h : Handshake) (line : String) (receipt : Timestamp) : Next :=
  if Line.isBlank line then .wait h
  else match Inbound.parse line receipt with
    | .ok inbound => h.next inbound
    | .error e => .failed e.toError

end Handshake

end VmControl
