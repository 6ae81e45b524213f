import Mathlib.Data.List.Induction
import VmControl.Monitor.EventLog

/-!
# What a log holds and finds

* `Json.same_iff`: equal values are the same value, but for the sign of zeros.
* `Wanted.Fits`: an event is what is wanted.
* `EventLog.push_latest`: a log that holds the latest events holds them after one more.
* `EventLog.Retains`, `EventLog.retains`: after any changes a log holds the latest events, as many
  as it keeps, and finds those of them that are wanted.
-/

namespace VmControl

/-! ## Equal values -/

/-- A double in which zero has no sign. -/
def Real64.unsigned (x : Real64) : Real64 := if x.magnitude.isZero then ⟨false, 0, 0⟩ else x

theorem Real64.same_iff {a b : Real64} : a.same b = true ↔ a.unsigned = b.unsigned := by
  have zero : (⟨0, 0⟩ : Magnitude).isZero = true := rfl
  rw [same, Bool.or_eq_true, decide_eq_true_iff, Bool.and_eq_true, unsigned, unsigned]
  cases left : a.magnitude.isZero <;> cases right : b.magnitude.isZero
  · simp
  · -- only one of them is zero, so they differ
    simp only [Bool.false_eq_true, false_and, or_false, if_false, if_true]
    constructor
    · rintro rfl
      rw [left] at right
      cases right
    · rintro rfl
      rw [zero] at left
      cases left
  · simp only [Bool.false_eq_true, and_false, or_false, if_false, if_true]
    constructor
    · rintro rfl
      rw [left] at right
      cases right
    · rintro rfl
      rw [zero] at right
      cases right
  · simp

/-- A number in which zero has no sign. -/
def Number.unsigned : Number → Number
  | .whole n => .whole n
  | .real x => .real x.unsigned

theorem Number.same_iff {a b : Number} : a.same b = true ↔ a.unsigned = b.unsigned := by
  cases a <;> cases b <;> simp [same, unsigned, Real64.same_iff]

namespace Json

mutual

/-- A value in which zeros have no sign. -/
def unsigned : Json → Json
  | .null => .null
  | .bool b => .bool b
  | .num n => .num n.unsigned
  | .str s => .str s
  | .arr items => .arr (unsignedItems items)
  | .obj members => .obj (unsignedMembers members)

/-- Items in which zeros have no sign. -/
def unsignedItems : List Json → List Json
  | [] => []
  | item :: rest => item.unsigned :: unsignedItems rest

/-- Members in whose values zeros have no sign. -/
def unsignedMembers : List (String × Json) → List (String × Json)
  | [] => []
  | (name, value) :: rest => (name, value.unsigned) :: unsignedMembers rest

end

mutual

/-- Values are equal exactly if they are the same but for the sign of zeros. -/
theorem same_iff : ∀ {a b : Json}, a.same b = true ↔ a.unsigned = b.unsigned
  | .null, b => by cases b <;> simp [same, unsigned]
  | .bool a, b => by cases b <;> simp [same, unsigned]
  | .num a, b => by cases b <;> simp [same, unsigned, Number.same_iff]
  | .str a, b => by cases b <;> simp [same, unsigned]
  | .arr items, b => by
    cases b with
    | arr others => rw [same, sameItems_iff, unsigned, unsigned, arr.injEq]
    | null | bool | num | str | obj => simp [same, unsigned]
  | .obj members, b => by
    cases b with
    | obj others => rw [same, sameMembers_iff, unsigned, unsigned, obj.injEq]
    | null | bool | num | str | arr => simp [same, unsigned]

theorem sameItems_iff : ∀ {items others : List Json},
    sameItems items others = true ↔ unsignedItems items = unsignedItems others
  | [], others => by cases others <;> simp [sameItems, unsignedItems]
  | item :: rest, [] => by simp [sameItems, unsignedItems]
  | item :: rest, other :: more => by
    rw [sameItems, Bool.and_eq_true, same_iff, sameItems_iff, unsignedItems, unsignedItems,
      List.cons.injEq]

theorem sameMembers_iff : ∀ {members others : List (String × Json)},
    sameMembers members others = true ↔ unsignedMembers members = unsignedMembers others
  | [], others => by cases others <;> simp [sameMembers, unsignedMembers]
  | (name, value) :: rest, [] => by simp [sameMembers, unsignedMembers]
  | (name, value) :: rest, (other, given) :: more => by
    rw [sameMembers, Bool.and_eq_true, Bool.and_eq_true, beq_iff_eq, same_iff, sameMembers_iff,
      unsignedMembers, unsignedMembers, List.cons.injEq, Prod.mk.injEq]

end

end Json

/-! ## What is wanted -/

/-- An event is of the kind that is wanted, carries all fields that are wanted, and is not too
old. -/
structure Wanted.Fits (w : Wanted) (e : Event) : Prop where
  kind : e.event = w.kind
  fields : ∀ field ∈ w.fields.entries, ∃ value, e.data.get? field.1 = some value ∧
    value.same field.2 = true
  since : w.since ≤ e.timestamp

theorem Event.isMatch_iff {e : Event} {kind : String} {fields : OrderedMap Json} :
    e.isMatch kind fields = true ↔ e.event = kind ∧ ∀ field ∈ fields.entries,
      ∃ value, e.data.get? field.1 = some value ∧ value.same field.2 = true := by
  rw [isMatch, Bool.and_eq_true, decide_eq_true_iff, List.all_eq_true]
  refine and_congr_right fun _ => forall₂_congr fun field _ => ?_
  cases e.data.get? field.1 <;> simp

theorem Wanted.holds_iff_fits {w : Wanted} {e : Event} : w.holds e = true ↔ w.Fits e := by
  rw [holds_iff, Event.isMatch_iff]
  constructor
  · rintro ⟨since, kind, fields⟩
    exact ⟨kind, fields, since⟩
  · rintro ⟨kind, fields, since⟩
    exact ⟨since, kind, fields⟩

/-- An event has a value under the name of every field, the same one but for the sign of zeros. -/
def Event.Carries (e : Event) (fields : OrderedMap Json) : Prop :=
  ∀ field ∈ fields.entries, ∃ value, e.data.get? field.1 = some value ∧
    value.unsigned = field.2.unsigned

theorem Event.carries_iff_isMatch {e : Event} {fields : OrderedMap Json} :
    e.Carries fields ↔ e.isMatch e.event fields = true := by
  simp only [isMatch_iff, true_and, Json.same_iff, Carries]

instance (e : Event) (fields : OrderedMap Json) : Decidable (e.Carries fields) :=
  decidable_of_iff _ Event.carries_iff_isMatch.symm

namespace EventLog

variable {log : EventLog} {capacity : Nat}

/-! ## What a log holds -/

/-- A log that holds the latest of some events holds them after one more. -/
theorem push_latest {log : EventLog} {all : List Event}
    (latest : log.events = all.drop (all.length - log.bound)) (e : Event) :
    (log.push e).events = (all ++ [e]).drop ((all ++ [e]).length - log.bound) := by
  have positive : 1 ≤ log.bound := Nat.le_max_right _ _
  have length : (all ++ [e]).length = all.length + 1 := List.length_append
  have kept : log.events.length = all.length - (all.length - log.bound) := by
    rw [latest, List.length_drop]
  rw [EventLog.push, length]
  by_cases full : log.bound ≤ all.length
  · have filled : log.events.length = log.bound := by omega
    have short : all.length + 1 - log.bound ≤ all.length := by omega
    have one : all.length + 1 - log.bound = all.length - log.bound + 1 := by omega
    rw [if_pos filled, latest, List.drop_drop, List.drop_append_of_le_length short, one]
  · have room : ¬ log.events.length = log.bound := by omega
    have all' : all.length - log.bound = 0 := by omega
    have none : all.length + 1 - log.bound = 0 := by omega
    rw [if_neg room, none, latest, all', List.drop_zero, List.drop_zero]

/-- What may happen to a log. -/
inductive Change where
  | push (e : Event)
  | close

/-- The event that a change brings. -/
def Change.event? : Change → Option Event
  | .push e => some e
  | .close => none

def change (log : EventLog) : Change → EventLog
  | .push e => log.push e
  | .close => log.close

/-- The log of a capacity after changes, oldest first. -/
def after (capacity : Nat) (changes : List Change) : EventLog := changes.foldl change (new capacity)

/-- The events that were pushed, oldest first. -/
def pushed (changes : List Change) : List Event := changes.filterMap Change.event?

/-- After any changes a log holds the latest events that were pushed. -/
theorem after_latest (capacity : Nat) (changes : List Change) :
    (after capacity changes).bound = max capacity 1 ∧
      (after capacity changes).events =
        (pushed changes).drop ((pushed changes).length - max capacity 1) := by
  induction changes using List.reverseRecOn with
  | nil => exact ⟨rfl, List.drop_nil.symm⟩
  | append_singleton changes last ih =>
    obtain ⟨bound, events⟩ := ih
    have next : after capacity (changes ++ [last]) = (after capacity changes).change last := by
      rw [after, List.foldl_append]
      rfl
    cases last with
    | push e =>
      have more : pushed (changes ++ [.push e]) = pushed changes ++ [e] := List.filterMap_append ..
      rw [← bound] at events
      rw [next, more, ← bound]
      exact ⟨rfl, push_latest events e⟩
    | close =>
      have same : pushed (changes ++ [.close]) = pushed changes := by
        rw [pushed, List.filterMap_append]
        exact List.append_nil _
      rw [next, same]
      exact ⟨bound, events⟩

/-! ## What a log finds -/

theorem find_eq_filter (log : EventLog) (kind : String) (fields : OrderedMap Json)
    (since : Timestamp) :
    log.find ⟨kind, fields, since⟩ =
      log.events.filter fun e => e.event = kind ∧ e.Carries fields ∧ since ≤ e.timestamp := by
  refine List.filter_congr fun e _ => ?_
  rw [Bool.eq_iff_iff, Wanted.holds_iff, Event.isMatch_iff, decide_eq_true_iff]
  simp only [Json.same_iff]
  constructor
  · rintro ⟨young, ofKind, carries⟩
    exact ⟨ofKind, carries, young⟩
  · rintro ⟨ofKind, carries, young⟩
    exact ⟨young, ofKind, carries⟩

/-- Who wants further fields, or later events, is given what is left of what was found before. -/
theorem find_narrowed (log : EventLog) (kind : String) {fields more : OrderedMap Json}
    {since later : Timestamp} (further : ∀ field ∈ fields.entries, field ∈ more.entries)
    (newer : since ≤ later) :
    log.find ⟨kind, more, later⟩ =
      (log.find ⟨kind, fields, since⟩).filter fun e => e.Carries more ∧ later ≤ e.timestamp := by
  rw [find_eq_filter, find_eq_filter, List.filter_filter]
  refine List.filter_congr fun e _ => ?_
  rw [Bool.eq_iff_iff, Bool.and_eq_true, decide_eq_true_iff, decide_eq_true_iff, decide_eq_true_iff]
  constructor
  · rintro ⟨ofKind, carries, young⟩
    refine ⟨⟨carries, young⟩, ofKind, fun field wanted => carries field (further field wanted), ?_⟩
    rw [Timestamp.le_iff] at newer young ⊢
    omega
  · rintro ⟨⟨carries, young⟩, ofKind, -⟩
    exact ⟨ofKind, carries, young⟩

/-- What a log of a capacity holds and finds, of the events that were pushed. One event is always
kept. -/
structure Retains (capacity : Nat) (pushed : List Event) (log : EventLog) : Prop where
  size : log.events.length = min pushed.length (max capacity 1)
  /-- They are the last ones, in the order in which they came. -/
  latest : log.events <:+ pushed
  found : ∀ (kind : String) (fields : OrderedMap Json) (since : Timestamp),
    log.find ⟨kind, fields, since⟩ =
      log.events.filter fun e => e.event = kind ∧ e.Carries fields ∧ since ≤ e.timestamp
  /-- Further fields and a later time only take events away. -/
  narrowed : ∀ (kind : String) (fields more : OrderedMap Json) (since later : Timestamp),
    (∀ field ∈ fields.entries, field ∈ more.entries) → since ≤ later →
      log.find ⟨kind, more, later⟩ =
        (log.find ⟨kind, fields, since⟩).filter fun e => e.Carries more ∧ later ≤ e.timestamp

/-- Whatever is pushed, before and after a log is closed, it holds the latest events and finds all
of them that are wanted. -/
theorem retains (capacity : Nat) (changes : List Change) :
    (after capacity changes).Retains capacity (pushed changes) where
  size := by
    rw [(after_latest capacity changes).2, List.length_drop]
    omega
  latest := by
    rw [(after_latest capacity changes).2]
    exact List.drop_suffix ..
  found := find_eq_filter _
  narrowed kind _ _ _ _ further newer := find_narrowed _ kind further newer

/-- A log that is asked to keep nothing keeps one event. -/
example (first second : Event) : (after 0 [.push first, .close, .push second]).events = [second] :=
  rfl

end EventLog

end VmControl
