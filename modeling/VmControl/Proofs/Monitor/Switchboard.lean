import VmControl.Monitor.Enrolment
import VmControl.Monitor.Handshake
import VmControl.Proofs.Monitor.Closing

/-!
# All connections of a host

Calls that make connections and calls that take them away go on side by side, while the connections
that were made are used. An attempt goes through its handshake and may fail at any point of it. Who
has replaced or taken away a connection closes it in the three steps of closing, and other moves may
come between them.

* `Switchboard.step?`: the calls, the attempts and the connections, one move at a time. The
  registrations are those of `Enrolment.step?`, the handshakes those of `Handshake.receive`, and
  each connection goes on by `Session.step?`.
* `Switchboard.Step` lists the moves with what each of them finds and leaves
  (`Switchboard.step?_cases`).
-/

namespace VmControl

/-- Whether a step is one of those that close a connection. -/
def SessionStep.isClosing : SessionStep → Bool
  | .beginClose | .takeWriter | .endClose => true
  | _ => false

namespace Session

variable {s t : Session} {x : SessionStep}

/-- The next step that closes a connection; nothing when it is closed. -/
def nextClosing? (s : Session) : Option SessionStep :=
  match s.closing with
  | .notBegun => some .beginClose
  | .begun => some .takeWriter
  | .writerTaken => some .endClose
  | .finished => none

/-- Nobody has begun to close a connection, and commands can be written to it. -/
structure IsUsable (s : Session) : Prop where
  closing : s.closing = .notBegun
  isOpen : s.isOpen = true

theorem isUsable_new (vm : String) : (new vm).IsUsable := ⟨rfl, rfl⟩

theorem closing_of_step? (stepped : s.step? x = some t) (other : x.isClosing = false) :
    t.closing = s.closing := by
  cases shuts_of_step? stepped with
  | begins | takes | ends => cases other
  | other _ same => exact same

theorem isOpen_of_step? (stepped : s.step? x = some t) (other : x.isClosing = false) :
    t.isOpen = s.isOpen := by
  have failed : s.failPending.isOpen = s.isOpen := by rw [failPending_frame]
  cases step?_cases stepped with
  | call | giveTurn | enroll | refuse | written | unwritten | drop | pass | event => rfl
  | reply =>
    unfold deliver
    split <;> rfl
  | giveUp | lose => exact failed
  | beginClose | takeWriter | endClose => cases other

/-- Closing goes on, unless a line is being written. -/
theorem exists_nextClosing (idle : s.Unwritten) (going : s.closing ≠ .finished) :
    ∃ x t, s.nextClosing? = some x ∧ s.step? x = some t := by
  cases point : s.closing with
  | notBegun => exact ⟨.beginClose, _, by rw [nextClosing?, point], by rw [step?, if_pos point]⟩
  | begun =>
    exact ⟨.takeWriter, _, by rw [nextClosing?, point],
      by rw [step?, if_pos ⟨point, writer?_of_unwritten idle⟩]⟩
  | writerTaken => exact ⟨.endClose, _, by rw [nextClosing?, point], by rw [step?, if_pos point]⟩
  | finished => exact absurd point going

end Session

/-- The connections of machines, the attempts to make them, and what goes on at each of them. -/
structure Switchboard where
  /-- The registrations and the calls that change them. -/
  enrolment : Enrolment
  /-- How far the attempt of each call has come; nothing where none goes on. -/
  attempts : List (Option Handshake)
  /-- The connections so far, by number. -/
  sessions : List Session

namespace Switchboard

inductive Move where
  /-- A call begins to make a connection for a machine. -/
  | connect (vm : String)
  /-- The attempt of a call receives a line. -/
  | hear (call : Nat) (line : String) (receipt : Timestamp)
  /-- The attempt of a call ends without a line: there is no far end, or it has gone away, or its
  bytes are no text, or nothing can be written to it, or it takes too long. -/
  | breakOff (call : Nat) (e : ControlError)
  /-- A call begins to take the connection of a machine away. -/
  | dismiss (vm : String)
  /-- A call goes on with closing the connection that it has replaced or taken away. -/
  | close (call : Nat)
  /-- A connection goes on by itself: its callers, its reader. -/
  | use (connection : Nat) (x : SessionStep)

/-- What has come of a move. -/
inductive Event where
  | asked (vm : String)
  /-- The attempt of a call goes on. -/
  | heard (call : Nat)
  | failed (call : Nat) (e : ControlError)
  /-- The connection of a call is made and registered for a machine. -/
  | registered (call : Nat) (vm : String) (connection : Nat)
  /-- A call has taken the registration of a machine away. -/
  | dismissed (call : Nat) (vm : String)
  | closing (call connection : Nat)
  /-- A call has closed a connection and returns. -/
  | closed (call connection : Nat)
  | used (connection : Nat)
deriving DecidableEq

/-- No connection was ever made. -/
def new : Switchboard := ⟨.new, [], []⟩

/-- The attempt of a call, while it goes on. -/
def attempt? (b : Switchboard) (call : Nat) : Option Handshake := (b.attempts[call]?).join

/-- The attempt of a call fails. -/
def fail (b : Switchboard) (call : Nat) (e : ControlError) : Option (Switchboard × Event) :=
  (b.enrolment.step? (.fail call)).map fun enrolment =>
    ({ b with enrolment := enrolment, attempts := b.attempts.set call none }, .failed call e)

/-- The connection of a call is made and registered. -/
def install (b : Switchboard) (call : Nat) : Option (Switchboard × Event) :=
  match b.enrolment.calls[call]? with
  | some (.connecting vm) =>
    (b.enrolment.step? (.register call)).map fun enrolment =>
      (⟨enrolment, b.attempts.set call none, b.sessions ++ [.new vm]⟩,
        .registered call vm b.enrolment.made)
  | _ => none

/-- A call goes on with closing a connection; when that is done it returns. -/
def goOnClosing (b : Switchboard) (call connection : Nat) (s : Session) :
    Option (Switchboard × Event) :=
  (s.nextClosing?.bind s.step?).bind fun t =>
    let b := { b with sessions := b.sessions.set connection t }
    if t.closing = .finished then
      (b.enrolment.step? (.close call)).map fun enrolment =>
        ({ b with enrolment := enrolment }, .closed call connection)
    else some (b, .closing call connection)

/-- The connections after a move, and what has come of it; nothing where the move cannot be made. -/
def step? (b : Switchboard) : Move → Option (Switchboard × Event)
  | .connect vm =>
    (b.enrolment.step? (.connect vm)).map fun enrolment =>
      ({ b with enrolment := enrolment, attempts := b.attempts ++ [some .greeting] }, .asked vm)
  | .hear call line receipt =>
    match b.attempt? call with
    | none => none
    | some h =>
      match h.receive line receipt with
      | .wait h => some ({ b with attempts := b.attempts.set call (some h) }, .heard call)
      | .ask => some ({ b with attempts := b.attempts.set call (some .negotiating) }, .heard call)
      | .ready => b.install call
      | .failed e => b.fail call e
  | .breakOff call e => if (b.attempt? call).isSome then b.fail call e else none
  | .dismiss vm =>
    (b.enrolment.step? (.dismiss vm)).map fun enrolment =>
      ({ b with enrolment := enrolment, attempts := b.attempts ++ [none] },
        .dismissed b.enrolment.nextCall vm)
  | .close call =>
    (b.enrolment.retiring? call).bind fun connection =>
      (b.sessions[connection]?).bind fun s => b.goOnClosing call connection s
  | .use connection x =>
    if x.isClosing then none
    else (b.sessions[connection]?).bind fun s => (s.step? x).map fun t =>
      ({ b with sessions := b.sessions.set connection t }, .used connection)

/-- The moves so far and what has come of them, oldest first. -/
inductive Run : List Event → Switchboard → Prop
  | new : Run [] new
  | step {past : List Event} {b c : Switchboard} {move : Move} {e : Event} (before : Run past b)
      (stepped : b.step? move = some (c, e)) : Run (past ++ [e]) c

/-- Leads connections through moves. -/
def replay? (b : Switchboard) (moves : List Move) : Option (List Event × Switchboard) :=
  VmControl.replay? step? Prod.fst (fun _ _ (_, e) => [e]) b moves

theorem Run.of_replay? {moves : List Move} (replayable : (Switchboard.new.replay? moves).isSome) :
    Run (Option.get _ replayable).1 (Option.get _ replayable).2 :=
  holds_of_replay? (R := Run) .new (fun _ _ => .step) replayable

variable {b d : Switchboard} {move : Move} {e : Event} {call connection : Nat} {vm : String}
  {failure : ControlError} {s t : Session} {x : SessionStep}

/-- What a move finds and leaves. -/
inductive Step (b : Switchboard) : Event → Switchboard → Prop
  | asked (vm : String) : Step b (.asked vm)
      { b with
        enrolment := { b.enrolment with calls := b.enrolment.calls ++ [.connecting vm] }
        attempts := b.attempts ++ [some .greeting] }
  | heard (call : Nat) (h : Handshake) : Step b (.heard call)
      { b with attempts := b.attempts.set call (some h) }
  | failed {call : Nat} {vm : String}
      (connecting : b.enrolment.calls[call]? = some (.connecting vm))
      (e : ControlError) : Step b (.failed call e)
      { b with
        enrolment := { b.enrolment with calls := b.enrolment.calls.set call .returned }
        attempts := b.attempts.set call none }
  | registered {call : Nat} {vm : String}
      (connecting : b.enrolment.calls[call]? = some (.connecting vm)) :
      Step b (.registered call vm b.enrolment.made)
      { enrolment := { b.enrolment with
          registry := b.enrolment.registry.register vm b.enrolment.made
          made := b.enrolment.made + 1
          calls := b.enrolment.calls.set call (Enrolment.retire (b.enrolment.registry.get? vm)) }
        attempts := b.attempts.set call none
        sessions := b.sessions ++ [.new vm] }
  | dismissed (vm : String) : Step b (.dismissed b.enrolment.calls.length vm)
      { b with
        enrolment := { b.enrolment with
          registry := b.enrolment.registry.unregister vm
          calls := b.enrolment.calls ++ [Enrolment.retire (b.enrolment.registry.get? vm)] }
        attempts := b.attempts ++ [none] }
  | closing {call connection : Nat} {s t : Session} {x : SessionStep}
      (retiring : b.enrolment.calls[call]? = some (.retiring connection))
      (here : b.sessions[connection]? = some s) (stepped : s.step? x = some t)
      (going : t.closing ≠ .finished) : Step b (.closing call connection)
      { b with sessions := b.sessions.set connection t }
  | closed {call connection : Nat} {s t : Session} {x : SessionStep}
      (retiring : b.enrolment.calls[call]? = some (.retiring connection))
      (here : b.sessions[connection]? = some s) (stepped : s.step? x = some t)
      (finished : t.closing = .finished) : Step b (.closed call connection)
      { b with
        enrolment := { b.enrolment with
          closed := connection :: b.enrolment.closed
          calls := b.enrolment.calls.set call .returned }
        sessions := b.sessions.set connection t }
  | used {connection : Nat} {s t : Session} {x : SessionStep}
      (here : b.sessions[connection]? = some s)
      (stepped : s.step? x = some t) (other : x.isClosing = false) : Step b (.used connection)
      { b with sessions := b.sessions.set connection t }

theorem fail_cases (failed : b.fail call failure = some (d, e)) : b.Step e d := by
  obtain ⟨enrolment, stepped, same⟩ := Option.map_eq_some_iff.mp failed
  simp only [Enrolment.step?] at stepped
  split at stepped
  · next vm connecting =>
    cases stepped
    cases same
    exact .failed connecting failure
  · cases stepped

theorem install_cases (installed : b.install call = some (d, e)) : b.Step e d := by
  unfold install at installed
  split at installed
  · next vm connecting =>
    simp only [Enrolment.step?, connecting, Option.map_some] at installed
    cases installed
    exact .registered connecting
  · cases installed

theorem retiring?_eq_some_iff {enrolment : Enrolment} :
    enrolment.retiring? call = some connection ↔
      enrolment.calls[call]? = some (.retiring connection) := by
  unfold Enrolment.retiring?
  split
  · next own found => simp [found]
  · next other =>
    refine iff_of_false nofun fun found => ?_
    exact other connection found

theorem goOnClosing_cases (retiring : b.enrolment.calls[call]? = some (.retiring connection))
    (here : b.sessions[connection]? = some s)
    (goes : b.goOnClosing call connection s = some (d, e)) :
    b.Step e d := by
  obtain ⟨t, stepped, goes⟩ := Option.bind_eq_some_iff.mp goes
  obtain ⟨x, -, stepped⟩ := Option.bind_eq_some_iff.mp stepped
  simp only [Enrolment.step?, retiring, Option.map_some] at goes
  split at goes
  · next finished =>
    cases goes
    exact .closed retiring here stepped finished
  · next going =>
    cases goes
    exact .closing retiring here stepped going

theorem step?_cases (stepped : b.step? move = some (d, e)) : b.Step e d := by
  cases move with
  | connect vm =>
    cases stepped
    exact .asked vm
  | hear call line receipt =>
    simp only [step?] at stepped
    split at stepped
    · cases stepped
    · split at stepped
      · cases stepped
        exact .heard call _
      · cases stepped
        exact .heard call _
      · exact install_cases stepped
      · exact fail_cases stepped
  | breakOff call failure =>
    simp only [step?] at stepped
    split at stepped
    · exact fail_cases stepped
    · cases stepped
  | dismiss vm =>
    cases stepped
    exact .dismissed vm
  | close call =>
    obtain ⟨connection, retiring, goes⟩ := Option.bind_eq_some_iff.mp stepped
    obtain ⟨s, here, goes⟩ := Option.bind_eq_some_iff.mp goes
    exact goOnClosing_cases (retiring?_eq_some_iff.mp retiring) here goes
  | use connection x =>
    simp only [step?] at stepped
    split at stepped
    · cases stepped
    · next other =>
      obtain ⟨s, here, mapped⟩ := Option.bind_eq_some_iff.mp stepped
      obtain ⟨t, went, same⟩ := Option.map_eq_some_iff.mp mapped
      cases same
      exact .used here went (Bool.eq_false_iff.mpr other)

end Switchboard

end VmControl
