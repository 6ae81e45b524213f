import VmControl.Monitor.Enrolment
import VmControl.Monitor.Handshake
import VmControl.Monitor.Session

/-!
A rehearsal of monitor connections: which machine has which, and far ends that send given lines. A
call that a far end leaves without an answer is given up.
-/

namespace VmControl

/-- A line as it is sent, without its ending. -/
abbrev RawLine := List UInt8

/-- What a far end does on a new connection. -/
structure FarEnd where
  /-- Whether there is a far end at all. -/
  listens : Bool
  hello : List RawLine
  /-- Whether it goes away then. -/
  leavesEarly : Bool
  /-- What it sends after the first request. -/
  answer : List RawLine
  /-- Whether it goes away then. -/
  leaves : Bool

/-- A connection and its far end. -/
structure Wire where
  session : Session
  /-- Whether the far end is there. -/
  alive : Bool

namespace Wire

/-- The lines of what a far end sends. -/
def lines (sent : List RawLine) : List RawLine :=
  (Line.split (sent.flatMap fun line => line ++ [Line.feed])).1

/-- The reader takes one line. -/
def receive (receipt : Timestamp) (s : Session) (line : RawLine) : Session :=
  match Line.text? line with
  | some text => s.step (.receive text receipt)
  | none => s.step .lose

/-- The reader takes everything that a far end sends. -/
def feed (w : Wire) (receipt : Timestamp) (sent : List RawLine) : Wire :=
  { w with session := (lines sent).foldl (receive receipt) w.session }

/-- The far end goes away. -/
def hangUp (w : Wire) : Wire := ⟨w.session.step .lose, false⟩

/-- The failure to write to a far end that has gone away. -/
def brokenPipe : String := "Broken pipe (os error 32)"

/-- Whose turn it is writes its line. -/
def write (w : Wire) : Wire :=
  { w with
    session := w.session.run
      [.giveTurn, .register, if w.alive then .written else .unwritten brokenPipe] }

/-- Calls take their turns, and the far end answers the request of each as it comes. -/
def converse (w : Wire) (receipt : Timestamp) : Nat → List (List RawLine) → Wire
  | 0, _ => w
  | calls + 1, replies =>
    let next := w.write
    if next.session.sent.length = w.session.sent.length then next.converse receipt calls replies
    else (next.feed receipt (replies.headD [])).converse receipt calls replies.tail

end Wire

/-- What came of an attempt to connect. -/
structure Attempt where
  outcome : Except ControlError Unit
  /-- The request that the far end read. -/
  request : Option String

/-- Connections, far ends, and a clock that stands still. -/
structure SessionRehearsal where
  directory : String
  /-- How long an attempt to connect may take, in milliseconds. -/
  timeout : UInt64
  /-- The time of every receipt. -/
  receipt : Timestamp
  enrolment : Enrolment
  /-- All connections so far, by number. -/
  wires : List Wire

namespace SessionRehearsal

/-- A rehearsal without connections. -/
def new (directory : String) (timeout : UInt64) (receipt : Timestamp) : SessionRehearsal :=
  ⟨directory, timeout, receipt, .new, []⟩

/-- The connections that are registered. -/
def registry (r : SessionRehearsal) : Registry := r.enrolment.registry

/-- The connection of a machine. -/
def wire? (r : SessionRehearsal) (vm : String) : Except ControlError (Nat × Wire) :=
  match r.registry.find vm with
  | .error e => .error e
  | .ok connection =>
    match r.wires[connection]? with
    | some w => .ok (connection, w)
    | none => .error (.notAvailable vm)

def setWire (r : SessionRehearsal) (connection : Nat) (w : Wire) : SessionRehearsal :=
  { r with wires := r.wires.set connection w }

/-- What follows lines during the opening of a connection, and the lines that are left. -/
def negotiate (receipt : Timestamp) (h : Handshake) : List RawLine → Handshake.Next × List RawLine
  | [] => (.wait h, [])
  | line :: rest =>
    match Line.text? line with
    | none => (.failed Handshake.notText, rest)
    | some text =>
      match h.receive text receipt with
      | .wait h => negotiate receipt h rest
      | next => (next, rest)

/-- The failure of an attempt for which nothing more comes. -/
def stalled (r : SessionRehearsal) (vm : String) (left : Bool) : ControlError :=
  if left then Handshake.ended
  else Handshake.timedOut (r.directory ++ "/" ++ vm ++ ".qmp") r.timeout

/-- Takes a step of a call. -/
def enrol (r : SessionRehearsal) (a : EnrolmentStep) : SessionRehearsal :=
  { r with enrolment := r.enrolment.step a }

/-- Closes the connection that a call has to close, if there is one. -/
def retire (r : SessionRehearsal) (call : Nat) : SessionRehearsal :=
  match r.enrolment.retiring? call with
  | none => r
  | some connection =>
    let r := r.enrol (.close call)
    match r.wires[connection]? with
    | some w => r.setWire connection { w with session := w.session.close }
    | none => r

/-- The connection of a call is made: registers it and closes the one that it replaces. -/
def install (r : SessionRehearsal) (call : Nat) (w : Wire) : SessionRehearsal :=
  ({ r with wires := r.wires ++ [w] }.enrol (.register call)).retire call

/-- The second half of an attempt: the request has been sent. -/
def settle (r : SessionRehearsal) (call : Nat) (vm : String) (far : FarEnd) (rest : List RawLine) :
    Attempt × SessionRehearsal :=
  let request := some (Handshake.capabilities.line none)
  match negotiate r.receipt .negotiating (rest ++ Wire.lines far.answer) with
  | (.failed e, _) => (⟨.error e, request⟩, r.enrol (.fail call))
  | (.ready, left) =>
    let opened : Wire := ⟨left.foldl (Wire.receive r.receipt) (.new vm), true⟩
    (⟨.ok (), request⟩, r.install call (if far.leaves then opened.hangUp else opened))
  | _ => (⟨.error (r.stalled vm far.leaves), request⟩, r.enrol (.fail call))

/-- The first half of an attempt: the greeting is awaited. -/
def greet (r : SessionRehearsal) (call : Nat) (vm : String) (far : FarEnd) :
    Attempt × SessionRehearsal :=
  let failing (e : ControlError) := (⟨.error e, none⟩, r.enrol (.fail call))
  if !far.listens then failing (.io "No such file or directory (os error 2)")
  else match negotiate r.receipt .greeting (Wire.lines far.hello) with
    | (.failed e, _) => failing e
    | (.ask, rest) =>
      if far.leavesEarly then failing (.io Wire.brokenPipe) else r.settle call vm far rest
    | _ => failing (r.stalled vm far.leavesEarly)

/-- Connects to a far end and registers the connection. -/
def connect (r : SessionRehearsal) (vm : String) (far : FarEnd) : Attempt × SessionRehearsal :=
  (r.enrol (.connect vm)).greet r.enrolment.nextCall vm far

/-- Takes the connection of a machine away and closes it. -/
def close (r : SessionRehearsal) (vm : String) : SessionRehearsal :=
  (r.enrol (.dismiss vm)).retire r.enrolment.nextCall

/-- How a far end behaves after its replies. -/
inductive Ending where
  | stays
  | leaves
  /-- It stays, and the machine's connection is taken away. -/
  | isClosed
deriving DecidableEq

/-- What came of calls that have all been answered. -/
structure Conversation where
  /-- The outcome of each call. -/
  outcomes : List (Except ControlError Json)
  /-- The requests that the far end read, if it is there. -/
  requests : Option (List String)
  /-- Whether the log of the connection is closed afterwards. -/
  closed : Bool

/-- The callers of the last calls of a connection go away; whoever has an outcome has gone
already. -/
def giveUp (r : SessionRehearsal) (connection first : Nat) (s : Session) : SessionRehearsal :=
  match r.wires[connection]? with
  | some w =>
    let calls := List.range' first (s.calls.length - first)
    r.setWire connection { w with session := s.run (calls.map .drop) }
  | none => r

/-- Runs commands that start together; the far end answers the requests one by one. Nothing comes of
them while one of them still waits: then their callers give up. -/
def converse (r : SessionRehearsal) (vm : String) (commands : List Command)
    (replies : List (List RawLine)) (ending : Ending) : Option Conversation × SessionRehearsal :=
  match r.wire? vm with
  | .error e => (some ⟨commands.map fun _ => .error e, none, false⟩, r)
  | .ok (connection, w) =>
    let before := w.session
    let first := before.calls.length
    let begun : Wire := { w with session := before.run (commands.map .call) }
    let talked := begun.converse r.receipt commands.length replies
    let talked := if ending = .leaves then talked.hangUp else talked
    let r := r.setWire connection talked
    let r := if ending = .isClosed then r.close vm else r
    let after := ((r.wires[connection]?).getD talked).session
    match (List.range' first commands.length).mapM after.outcome? with
    | none => (none, r.giveUp connection first after)
    | some outcomes =>
      let sent := (after.sent.drop before.sent.length).map (·.2)
      (some ⟨outcomes, if w.alive then some sent else none, after.log.closed⟩, r)

/-- What came of taking a connection away. -/
structure Dismissal where
  /-- The outcome of a command that is run on it all the same, if it has one. -/
  outcome : Option (Except ControlError Json)
  /-- Whether the log of the connection is closed. -/
  closed : Bool

/-- Takes the connection of a machine away, closes it, and runs a command on it all the same. -/
def dismiss (r : SessionRehearsal) (vm : String) (command : Command) :
    Option Dismissal × SessionRehearsal :=
  match r.wire? vm with
  | .error _ => (none, r)
  | .ok (connection, w) =>
    let r := r.close vm
    let closed := ((r.wires[connection]?).getD w)
    let asked := ({ closed with session := closed.session.step (.call command) } : Wire).write
    (some ⟨asked.session.outcome? closed.session.calls.length, asked.session.log.closed⟩,
      r.setWire connection asked)

/-- Whether the log of a connection is closed. -/
def isClosed (r : SessionRehearsal) (connection : Nat) : Bool :=
  ((r.wires[connection]?).map (·.session.log.closed)).getD false

/-- The events of a machine that are wanted. -/
def find (r : SessionRehearsal) (vm : String) (wanted : Wanted) :
    Except ControlError (List Event) :=
  (r.wire? vm).map fun found => found.2.session.log.find wanted

/-- Waits for an event of a machine; nothing happens meanwhile but time passing. -/
def await (r : SessionRehearsal) (vm : String) (wanted : Wanted) (timeout : UInt64)
    (cancelled : Bool) : Except ControlError Event :=
  match r.wire? vm with
  | .error e => .error e
  | .ok (_, w) =>
    let log := w.session.log
    let waiter := Waiter.begin log wanted timeout 0
    match waiter.resume log cancelled 0 with
    | .ok outcome => outcome
    | .error _ => .error waiter.timeoutError

end SessionRehearsal

end VmControl
