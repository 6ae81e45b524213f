import VmControl.Monitor.EventLog
import VmControl.Monitor.Inbound
import VmControl.Monitor.Line
import VmControl.Monitor.Order

/-!
An open monitor connection that any number of callers share.

Calls take turns: a call keeps its turn until it has its answer, so commands do not interleave. The
writing half of the connection is held only while a line is written, so closing never waits for an
answer. A reader hands every reply to the call under whose number it comes, and every event to the
log. All of this happens in small steps that may come in any order; a step that cannot happen is no
step. Main statement:

- `Session.deliver_pending`: a reply is handed over once.
-/

namespace VmControl

/-- Where a call stands. -/
inductive CallStage where
  /-- It waits for its turn. -/
  | queued
  | admitted
  /-- Its line is being written; its answer may come before that is done. -/
  | writing (id : Nat) (early : Option (Except ControlError Json))
  /-- It waits for its answer. -/
  | waiting (id : Nat)
  | ended (outcome : Except ControlError Json)
  /-- Its caller has gone away. -/
  | dropped

namespace CallStage

/-- Whether a call at this stage has its turn. -/
def hasTurn : CallStage → Bool
  | .admitted | .writing .. | .waiting _ => true
  | _ => false

/-- Whether a call at this stage writes. -/
def isWriting : CallStage → Bool
  | .writing .. => true
  | _ => false

/-- The outcome of a call that has ended. -/
def outcome? : CallStage → Option (Except ControlError Json)
  | .ended outcome => some outcome
  | _ => none

/-- The stage after the answer under a number; a call that does not wait under it stays as it is. -/
def answer (stage : CallStage) (id : Nat) (outcome : Except ControlError Json) : CallStage :=
  match stage with
  | .writing own none => if own = id then .writing own (some outcome) else stage
  | .waiting own => if own = id then .ended outcome else stage
  | _ => stage

end CallStage

/-- A call of a command. -/
structure Call where
  command : Command
  stage : CallStage

/-- How far the closing of a connection has come. -/
inductive Closing where
  | notBegun
  /-- The reader is stopped and the log is closed. -/
  | begun
  /-- The writing half is given up. -/
  | writerTaken
  | finished
deriving DecidableEq

/-- An open monitor connection. -/
structure Session where
  vm : String
  /-- The calls so far, in the order in which they came. -/
  calls : List Call
  /-- Whether the writing half is there. -/
  isOpen : Bool
  /-- The number of the next command. -/
  nextId : Nat
  /-- The numbers under which replies are awaited, each with the position of its call. -/
  pending : List (Nat × Nat)
  /-- Whether the reader is at work. -/
  reading : Bool
  /-- The events that were received. -/
  log : EventLog
  /-- The lines that were written, oldest first, each with its number. -/
  sent : List (Nat × String)
  /-- How far closing has come. -/
  closing : Closing

/-- A step of a connection. -/
inductive SessionStep where
  | call (command : Command)
  /-- The call that came first gets its turn. -/
  | giveTurn
  /-- The call that has its turn takes the writing half. -/
  | register
  | written
  /-- Its line could not be written. -/
  | unwritten (reason : String)
  | drop (position : Nat)
  /-- The reader receives a line at a given time. -/
  | receive (line : String) (receipt : Timestamp)
  /-- The reader meets the end of the stream or bytes that are no text. -/
  | lose
  | beginClose
  /-- Closing takes the writing half. -/
  | takeWriter
  | endClose

namespace Session

/-- A connection that has just been opened. -/
def new (vm : String) : Session :=
  ⟨vm, [], true, 1, [], true, EventLog.new EventLog.defaultCapacity, [], .notBegun⟩

/-- The failure of calls that a closing connection leaves without an answer. -/
def unanswered (s : Session) : ControlError := .protocol ("monitor of " ++ s.vm ++ " closed")

/-- The failure of calls on a connection without a writing half. -/
def shut (s : Session) : ControlError := .protocol ("monitor of " ++ s.vm ++ " is closed")

/-- Changes the stage of the call at a position. -/
def change (s : Session) (position : Nat) (f : CallStage → CallStage) : Session :=
  { s with calls := s.calls.modify position fun c => { c with stage := f c.stage } }

/-- The position of the call that has its turn. -/
def turn? (s : Session) : Option Nat := s.calls.findIdx? fun c => c.stage.hasTurn

/-- The position of the call that came first of those that wait for their turn. -/
def first? (s : Session) : Option Nat := s.calls.findIdx? fun c =>
  match c.stage with
  | .queued => true
  | _ => false

/-- The position of the call that writes. -/
def writer? (s : Session) : Option Nat := s.calls.findIdx? fun c => c.stage.isWriting

/-- The call at the position of the one that has its turn. -/
def current? (s : Session) : Option (Nat × Call) :=
  match s.turn? with
  | some position => (s.calls[position]?).map (position, ·)
  | none => none

/-- Hands an answer to the call that waits for it under a number, if one does. -/
def deliver (s : Session) (id : Nat) (outcome : Except ControlError Json) : Session :=
  match s.pending.lookup id with
  | none => s
  | some position =>
    ({ s with pending := s.pending.filter (·.1 ≠ id) }).change position (·.answer id outcome)

/-- Hands a failure to every call that waits for an answer. -/
def failPending (s : Session) : Session :=
  let failed := s.pending.foldl
    (fun (t : Session) entry => t.change entry.2 (·.answer entry.1 (.error s.unanswered))) s
  { failed with pending := [] }

/-- The reader stops: waiting calls fail and the log is closed. -/
def stopReader (s : Session) : Session :=
  let failed := s.failPending
  { failed with reading := false, log := failed.log.close }

/-- Takes a classified line into account. -/
def accept (s : Session) : Inbound → Session
  | .event e => { s with log := s.log.push e }
  | .reply (some id) outcome => s.deliver id.toNat outcome
  | .reply none _ | .greeting => s

/-- Takes a line into account. A line that is no object is passed over; every other line that cannot
be classified stops the reader. -/
def take (s : Session) (line : String) (receipt : Timestamp) : Session :=
  if Line.isBlank line then s
  else match Inbound.parse line receipt with
    | .ok inbound => s.accept inbound
    | .error e => if e.isSkipped then s else s.stopReader

/-- The call that has its turn takes the writing half: it gets a number, or fails if there is no
writing half. -/
def enroll (s : Session) (position : Nat) : Session :=
  if s.isOpen then
    { s.change position (fun _ => .writing s.nextId none) with
      nextId := s.nextId + 1
      pending := s.pending ++ [(s.nextId, position)] }
  else s.change position fun _ => .ended (.error s.shut)

/-- The line of the call at a position is written. -/
def finishWrite (s : Session) (position : Nat) (command : Command) (id : Nat)
    (early : Option (Except ControlError Json)) : Session :=
  { s.change position (fun _ =>
      match early with
      | some outcome => .ended outcome
      | none => .waiting id) with
    sent := s.sent ++ [(id, command.line (some id))] }

/-- The line of the call at a position could not be written. -/
def abandonWrite (s : Session) (position id : Nat) (reason : String) : Session :=
  { s.change position (fun _ => .ended (.error (.io reason))) with
    pending := s.pending.filter (·.1 ≠ id) }

/-- The connection after a step, if the step can happen. -/
def step? (s : Session) : SessionStep → Option Session
  | .call command => some { s with calls := s.calls ++ [⟨command, .queued⟩] }
  | .giveTurn =>
    match s.turn?, s.first? with
    | none, some position => some (s.change position fun _ => .admitted)
    | _, _ => none
  | .register =>
    match s.current? with
    | some (position, ⟨_, .admitted⟩) => some (s.enroll position)
    | _ => none
  | .written =>
    match s.current? with
    | some (position, ⟨command, .writing id early⟩) =>
      some (s.finishWrite position command id early)
    | _ => none
  | .unwritten reason =>
    match s.current? with
    | some (position, ⟨_, .writing id _⟩) => some (s.abandonWrite position id reason)
    | _ => none
  | .drop position =>
    match s.calls[position]? with
    | some ⟨_, .ended _⟩ | some ⟨_, .dropped⟩ | none => none
    | some _ => some (s.change position fun _ => .dropped)
  | .receive line receipt => if s.reading then some (s.take line receipt) else none
  | .lose => if s.reading then some s.stopReader else none
  | .beginClose =>
    if s.closing = .notBegun then some { s.stopReader with closing := .begun } else none
  | .takeWriter =>
    if s.closing = .begun ∧ s.writer? = none then
      some { s with isOpen := false, closing := .writerTaken }
    else none
  | .endClose =>
    if s.closing = .writerTaken then some { s.failPending with closing := .finished } else none

/-- The connection after a step; a step that cannot happen changes nothing. -/
def step (s : Session) (a : SessionStep) : Session := (s.step? a).getD s

/-- The connection after steps. -/
def run (s : Session) (steps : List SessionStep) : Session := steps.foldl step s

/-- The steps by which a connection is closed. -/
def closeSteps : List SessionStep := [.beginClose, .takeWriter, .endClose]

/-- Closes a connection on which nothing is being written. -/
def close (s : Session) : Session := s.run closeSteps

/-- The outcome of the call at a position, if it has ended. -/
def outcome? (s : Session) (position : Nat) : Option (Except ControlError Json) :=
  (s.calls[position]?).bind (·.stage.outcome?)

@[simp] theorem change_pending (s : Session) (position : Nat) (f : CallStage → CallStage) :
    (s.change position f).pending = s.pending := rfl

/-- A reply is handed over once: afterwards nobody waits under its number. -/
theorem deliver_pending (s : Session) (id : Nat) (outcome : Except ControlError Json) :
    (s.deliver id outcome).pending.lookup id = none := by
  rw [deliver]
  split
  · next absent => exact absent
  · rw [change_pending]
    simp only [List.lookup_eq_none_iff, List.mem_filter]
    rintro entry ⟨_, differ⟩
    simp only [ne_eq, decide_not, Bool.not_eq_eq_eq_not, Bool.not_true, decide_eq_false_iff_not]
      at differ
    exact bne_iff_ne.mpr (Ne.symm differ)

end Session

end VmControl
