import VmControl.Error
import VmControl.Monitor.Event

/-!
The lines that a monitor sends: greetings, replies and events.

A line is an object. The first of the members `QMP`, `event`, `return` and `error` that it has
decides alone what it is. Main statement:

- `Inbound.parse_of_not_object`: a line that is no object is malformed, whatever it holds.
-/

namespace VmControl

/-- Why a line cannot be classified. -/
inductive LineError where
  /-- The line is no object. -/
  | malformed
  /-- The event has no name. -/
  | eventName
  /-- The stamp of the event is none. -/
  | timestamp
  | errorBody
  /-- The line is an object of no known kind. -/
  | unrecognized (line : String)
deriving DecidableEq

namespace LineError

def message : LineError → String
  | .malformed => "malformed message"
  | .eventName => "event name is not a string"
  | .timestamp => "bad event timestamp"
  | .errorBody => "bad error reply"
  | .unrecognized line => "unrecognized message: " ++ line

/-- Whether a reader goes on after the line. -/
def isSkipped (e : LineError) : Bool := decide (e = .malformed)

/-- The failure of a call that met the line. -/
def toError (e : LineError) : ControlError := .protocol e.message

end LineError

inductive Inbound where
  | greeting
  /-- The answer to a command, with the number of the command if it carries one. -/
  | reply (id : Option UInt64) (result : Except ControlError Json)
  | event (e : Event)

namespace Inbound

/-- The stamp of an event as it is sent. -/
structure RawStamp where
  /-- Seconds since 1 January 1970. -/
  seconds : Int
  microseconds : Int

def RawStamp.ofDraft : Decoder RawStamp :=
  Decode.record ["seconds", "microseconds"] fun r =>
    RawStamp.mk <$> r.required "seconds" Decode.signed64 <*> r.required "microseconds"
      Decode.signed64

/-- The microseconds of a stamp, kept within a second. -/
def RawStamp.micros (s : RawStamp) : Nat := (max 0 (min s.microseconds 999999)).toNat

/-- The point in time of a stamp; a second outside all years stands for the time of receipt. -/
def RawStamp.resolve (s : RawStamp) (receipt : Timestamp) : Timestamp :=
  (Timestamp.ofSeconds? s.seconds (s.micros * 1000)).getD receipt

/-- Interprets the error object of a failed reply. -/
def errorBody : Decoder ControlError :=
  Decode.record ["class", "desc"] fun r =>
    ControlError.refused <$> r.required "class" Decode.text <*> r.required "desc" Decode.text

/-- The stamp of an event that may carry one. -/
def stamp (members : List (String × Json)) (receipt : Timestamp) : Except LineError Timestamp :=
  match members.lookup "timestamp" with
  | none => .ok receipt
  | some raw =>
    match Decode.ofJson RawStamp.ofDraft raw with
    | some s => .ok (s.resolve receipt)
    | none => .error .timestamp

def parseEvent (name : Json) (members : List (String × Json)) (receipt : Timestamp) :
    Except LineError Inbound :=
  match name with
  | .str kind =>
    match stamp members receipt with
    | .error e => .error e
    | .ok time => .ok (.event ⟨kind, (members.lookup "data").getD .null, time⟩)
  | _ => .error .eventName

/-- Classifies the members of a line. -/
def ofMembers (line : String) (members : List (String × Json)) (receipt : Timestamp) :
    Except LineError Inbound :=
  if (members.lookup "QMP").isSome then .ok .greeting
  else match members.lookup "event" with
  | some name => parseEvent name members receipt
  | none =>
    let id := (members.lookup "id").bind Json.word?
    match members.lookup "return", members.lookup "error" with
    | some value, _ => .ok (.reply id (.ok value))
    | none, some body =>
      match Decode.ofJson errorBody body with
      | some e => .ok (.reply id (.error e))
      | none => .error .errorBody
    | none, none => .error (.unrecognized line)

/-- Classifies a line that is received at a given time. -/
def parse (line : String) (receipt : Timestamp) : Except LineError Inbound :=
  match Decode.ofText (Decode.map Decode.anyMember) line with
  | .ok members => ofMembers line members.entries receipt
  | .error _ => .error .malformed

/-- A line that is no object is malformed, whatever it holds. -/
theorem parse_of_not_object {line : String} (receipt : Timestamp)
    (h : ∀ members, Decode.ofText (Decode.map Decode.anyMember) line ≠ .ok members) :
    parse line receipt = .error .malformed := by
  rw [parse]
  split
  · next members object => exact absurd object (h members)
  · rfl

end Inbound

end VmControl
