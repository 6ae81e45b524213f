import VmControl.Codec.Stat

/-!
Events that a monitor reports on its own, and what a waiter wants of one.

Main statement:

- `Wanted.holds_iff`: which events are wanted.
-/

namespace VmControl

/-- An event of a monitor. -/
structure Event where
  event : String
  data : Json
  timestamp : Timestamp

namespace Event

/-- The kind of event that tells of a new status of a job. -/
def jobStatusChange : String := "JOB_STATUS_CHANGE"

/-- The kind of event that tells of the end of a block job. -/
def blockJobCompleted : String := "BLOCK_JOB_COMPLETED"

/-- The kind of event that tells of a cancelled block job. -/
def blockJobCancelled : String := "BLOCK_JOB_CANCELLED"

/-- The kind of event that tells of an error of a block job. -/
def blockJobError : String := "BLOCK_JOB_ERROR"

/-- Whether an event is of a kind and carries every given field with an equal value. -/
def isMatch (e : Event) (kind : String) (fields : OrderedMap Json) : Bool :=
  e.event = kind && fields.entries.all fun field =>
    match e.data.get? field.1 with
    | some value => value.same field.2
    | none => false

/-- The text under a name in the data. -/
def text? (e : Event) (name : String) : Option String := (e.data.get? name).bind Json.str?

/-- The data form of an event. -/
def toJson (e : Event) : Json :=
  .obj [("event", .str e.event), ("data", e.data), ("timestamp", e.timestamp.toJson)]

/-- Interprets the data form of an event. -/
def ofDraft : Decoder Event :=
  Decode.record ["event", "data", "timestamp"] fun r =>
    Event.mk <$> r.required "event" Decode.text
      <*> r.withDefault "data" Decode.anyMember .null
      <*> r.required "timestamp" Timestamp.ofDraft

end Event

/-- What is wanted of an event: its kind, fields that it carries, and the time since when it
counts. -/
structure Wanted where
  kind : String
  fields : OrderedMap Json
  /-- The earliest stamp that counts. -/
  since : Timestamp

namespace Wanted

/-- Whether an event is wanted. -/
def holds (w : Wanted) (e : Event) : Bool :=
  decide (w.since ≤ e.timestamp) && e.isMatch w.kind w.fields

/-- The event of a kind that carries texts under given names. -/
def ofTexts (kind : String) (fields : List (String × String)) (since : Timestamp) : Wanted :=
  ⟨kind, OrderedMap.ofList (fields.map fun field => (field.1, .str field.2)), since⟩

theorem holds_iff (w : Wanted) (e : Event) :
    w.holds e = true ↔ w.since ≤ e.timestamp ∧ e.isMatch w.kind w.fields = true := by
  simp [holds]

end Wanted

end VmControl
