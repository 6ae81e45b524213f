import VmControl.Proofs.Waits

/-!
# Events from before

A log may hold events that came before a task was started. They take up room, so they drive each
other and only each other out, and they count among the changes of the log. Whoever looks only for
events since the start finds the same with them and without them.

* `EventLog.Overlies`: a log with older events in front, next to the same log without them. It stays
  so (`EventLog.Overlies.push`, `EventLog.Overlies.close`).
* `Surroundings.Overlain`: the same of all logs. Searches find the same (`Surroundings.find_over`),
  and waits take the same course with another count of changes (`Await.begin_over`,
  `Await.wake_echoes`).
* `Backlog.overlies`: whatever was recorded before the start lies in front.
-/

namespace VmControl

/-- Alike arguments, where there are any, have alike images. -/
theorem rel_map {α β γ δ : Type} {R : α → β → Prop} {S : γ → δ → Prop} {f : α → γ} {g : β → δ}
    {x : Option α} {y : Option β} (rel : Option.Rel R x y) (images : ∀ a b, R a b → S (f a) (g b)) :
    Option.Rel S (x.map f) (y.map g) := by
  cases rel with
  | none => exact .none
  | some alike => exact .some (images _ _ alike)

theorem rel_eq {α : Type} {x : Option α} : Option.Rel Eq x x := by
  cases x with
  | none => exact .none
  | some a => exact .some rfl

namespace Timestamp

variable {a b c : Timestamp}

theorem le_refl : a ≤ a := by
  rw [le_iff]
  omega

theorem le_trans (ab : a ≤ b) (bc : b ≤ c) : a ≤ c := by
  rw [le_iff] at ab bc ⊢
  omega

theorem not_le_of_lt (ab : a < b) : ¬ b ≤ a := fun ba => ba ab

end Timestamp

/-- An event from before is not wanted by those who look for later ones. -/
theorem Wanted.not_holds {w : Wanted} {e : Event} {start : Timestamp} (young : start ≤ w.since)
    (stale : e.timestamp < start) : w.holds e = false := by
  refine Bool.eq_false_iff.mpr fun holds => ?_
  have late := Timestamp.le_trans young (w.holds_iff e |>.mp holds).1
  exact Timestamp.not_le_of_lt stale late

namespace EventLog

/-- A log holds what another one holds, with events from before the start in front, and has changed
more often by a number. -/
structure Overlies (start : Timestamp) (more : Nat) (full bare : EventLog) : Prop where
  capacity : full.capacity = bare.capacity
  closed : full.closed = bare.closed
  changes : full.changes = bare.changes + more
  within : full.events.length ≤ full.bound
  stale : ∃ old, full.events = old ++ bare.events ∧ ∀ e ∈ old, e.timestamp < start

namespace Overlies

variable {start : Timestamp} {more : Nat} {full bare : EventLog} {w : Wanted}

theorem find_eq (overlies : Overlies start more full bare) (young : start ≤ w.since) :
    full.find w = bare.find w := by
  obtain ⟨old, split, stale⟩ := overlies.stale
  have none : old.filter w.holds = [] :=
    List.filter_eq_nil_iff.mpr fun e listed => by
      rw [Wanted.not_holds young (stale e listed)]; nofun
  rw [find, find, split, List.filter_append, none, List.nil_append]

theorem first?_eq (overlies : Overlies start more full bare) (young : start ≤ w.since) :
    full.first? w = bare.first? w := by
  obtain ⟨old, split, stale⟩ := overlies.stale
  have none : old.find? w.holds = none :=
    List.find?_eq_none.mpr fun e listed => by rw [Wanted.not_holds young (stale e listed)]; nofun
  rw [first?, first?, split, List.find?_append, none, Option.none_or]

theorem look_eq (overlies : Overlies start more full bare) (young : start ≤ w.since) :
    full.look w = bare.look w := by
  rw [look, look, overlies.first?_eq young, overlies.closed]

/-- A full log drops the oldest of the events from before as long as there are any. -/
theorem push (overlies : Overlies start more full bare) (e : Event) :
    Overlies start more (full.push e) (bare.push e) := by
  have bound : full.bound = bare.bound := congrArg (max · 1) overlies.capacity
  have within := overlies.within
  obtain ⟨old, split, stale⟩ := overlies.stale
  have length : full.events.length = old.length + bare.events.length := by
    rw [split, List.length_append]
  refine ⟨overlies.capacity, overlies.closed, ?_, full.length_push_le e within, ?_⟩
  · rw [changes_push, changes_push, overlies.changes]
    omega
  cases old with
  | nil =>
    refine ⟨[], ?_, List.forall_mem_nil _⟩
    rw [EventLog.push, EventLog.push, bound, split, List.nil_append, List.nil_append]
  | cons first rest =>
    rw [List.length_cons] at length
    -- as long as an event from before is left, the other log has room
    have room : ¬ bare.events.length = bare.bound := by omega
    rw [EventLog.push, EventLog.push]
    by_cases filled : full.events.length = full.bound
    · refine ⟨rest, ?_, fun e listed => stale e (List.mem_cons_of_mem _ listed)⟩
      rw [if_pos filled, if_neg room, split, List.cons_append, List.drop_one, List.tail_cons,
        List.append_assoc]
    · refine ⟨first :: rest, ?_, stale⟩
      rw [if_neg filled, if_neg room, split, List.append_assoc]

theorem close (overlies : Overlies start more full bare) :
    Overlies start more full.close bare.close := by
  refine ⟨overlies.capacity, rfl, ?_, overlies.within, overlies.stale⟩
  rw [changes_close, changes_close, overlies.changes]
  omega

end Overlies

end EventLog

/-! ## What was recorded before -/

/-- What a log has seen before a task was started. -/
structure Backlog where
  /-- The number of events that the log was asked to keep. -/
  capacity : Nat
  /-- The events that were recorded, oldest first. -/
  events : List Event
  /-- Whether the log was closed. -/
  closed : Bool

namespace Backlog

def log (b : Backlog) : EventLog :=
  let filled := b.events.foldl EventLog.push (.new b.capacity)
  if b.closed then filled.close else filled

/-- The same without the events. -/
def cleared (b : Backlog) : Backlog := { b with events := [] }

theorem overlies_fill {start : Timestamp} {bare : EventLog} {events : List Event} :
    ∀ {more : Nat} {full : EventLog}, full.Overlies start more bare → bare.events = [] →
      (∀ e ∈ events, e.timestamp < start) →
      (events.foldl EventLog.push full).Overlies start (more + events.length) bare := by
  -- by induction on the events that still come, whatever the log holds by then
  induction events with
  | nil =>
    intro more full overlies _ _
    exact overlies
  | cons e rest ih =>
    intro more full overlies empty stale
    obtain ⟨old, split, before⟩ := overlies.stale
    rw [empty, List.append_nil] at split
    have pushed : (full.push e).Overlies start (more + 1) bare := by
      refine ⟨overlies.capacity, overlies.closed, ?_, full.length_push_le e overlies.within,
        (full.push e).events, ?_, ?_⟩
      · rw [EventLog.changes_push, overlies.changes]
        omega
      · rw [empty, List.append_nil]
      · intro x listed
        rw [EventLog.push, split] at listed
        rcases List.mem_append.mp listed with kept | new
        · refine before x ?_
          split at kept
          · exact List.mem_of_mem_drop kept
          · exact kept
        · rw [List.mem_singleton.mp new]
          exact stale e (List.mem_cons_self ..)
    have all := ih pushed empty fun x listed => stale x (List.mem_cons_of_mem _ listed)
    rwa [Nat.add_right_comm, Nat.add_assoc] at all

/-- Events from before lie in front of what comes later. -/
theorem overlies {b : Backlog} {start : Timestamp} (stale : ∀ e ∈ b.events, e.timestamp < start) :
    b.log.Overlies start b.events.length b.cleared.log := by
  have same : (EventLog.new b.capacity).Overlies start 0 (.new b.capacity) :=
    ⟨rfl, rfl, rfl, Nat.zero_le _, [], rfl, List.forall_mem_nil _⟩
  have filled := overlies_fill same rfl stale
  rw [Nat.zero_add] at filled
  unfold log cleared
  cases b.closed with
  | false => exact filled
  | true => exact filled.close

end Backlog

/-! ## Searches and waits -/

/-- The same wait with more changes taken into account. -/
def Await.shift (more : Nat → Nat) (a : Await) : Await :=
  { a with waiter := { a.waiter with seen := a.waiter.seen + more a.connection } }

namespace Await

variable {more : Nat → Nat} {a : Await}

@[simp] theorem shift_connection : (a.shift more).connection = a.connection := rfl

@[simp] theorem shift_wanted : (a.shift more).waiter.wanted = a.waiter.wanted := rfl

end Await

def AwaitResult.shift (more : Nat → Nat) : AwaitResult → AwaitResult
  | .waits a => .waits (a.shift more)
  | .over outcome => .over outcome

/-- Who still waits looks for nothing that is older than a moment. -/
def AwaitResult.Since (start : Timestamp) (result : AwaitResult) : Prop :=
  ∀ a, result = .waits a → start ≤ a.waiter.wanted.since

/-- The same moment with other logs. -/
def Surroundings.over (s : Surroundings) (logs : Nat → EventLog) : Surroundings :=
  { s with log := logs }

namespace Surroundings

variable {s : Surroundings} {logs : Nat → EventLog}

@[simp] theorem over_now : (s.over logs).now = s.now := rfl

@[simp] theorem over_stamp : (s.over logs).stamp = s.stamp := rfl

@[simp] theorem over_registry : (s.over logs).registry = s.registry := rfl

@[simp] theorem over_log : (s.over logs).log = logs := rfl

end Surroundings

/-- Logs that hold what the logs of a moment hold, with events from before the start in front. -/
structure Surroundings.Overlain (start : Timestamp) (more : Nat → Nat) (s : Surroundings)
    (logs : Nat → EventLog) : Prop where
  young : start ≤ s.stamp
  logs : ∀ connection, (logs connection).Overlies start (more connection) (s.log connection)

section Overlain

variable {start : Timestamp} {more : Nat → Nat} {s : Surroundings} {logs : Nat → EventLog}
  {w : Wanted} {vm : String} {timeout : UInt64}

theorem Surroundings.find_over (overlain : s.Overlain start more logs) (young : start ≤ w.since) :
    (s.over logs).find vm w = s.find vm w := by
  simp only [find, over_registry, over_log]
  cases s.registry.find vm with
  | error e => rfl
  | ok connection => exact congrArg Except.ok ((overlain.logs connection).find_eq young)

theorem Await.begin_over (overlain : s.Overlain start more logs) (young : start ≤ w.since) :
    Await.begin (s.over logs) vm w timeout = (Await.begin s vm w timeout).shift more := by
  simp only [Await.begin, Surroundings.over_registry, Surroundings.over_log, Surroundings.over_now]
  cases s.registry.find vm with
  | error e => rfl
  | ok connection =>
    have same := (overlain.logs connection).look_eq young
    have changes := (overlain.logs connection).changes
    simp only [same]
    cases (s.log connection).look w with
    | some outcome => rfl
    | none => simp only [AwaitResult.shift, shift, Waiter.begin, changes]

theorem Await.begin_since (young : start ≤ w.since) : (Await.begin s vm w timeout).Since start := by
  intro a waits
  rw [(Await.begin_waits waits).2]
  exact young

theorem Await.wake_over {a : Await} {cancelled : Bool} {why : Wake}
    (overlain : s.Overlain start more logs) (young : start ≤ a.waiter.wanted.since) :
    (a.shift more).wake (s.over logs) cancelled why =
      (a.wake s cancelled why).map (AwaitResult.shift more) := by
  cases why with
  | notice =>
    have same := (overlain.logs a.connection).look_eq young
    have changes := (overlain.logs a.connection).changes
    have stirred : (a.shift more).waiter.isStirred (logs a.connection) =
        a.waiter.isStirred (s.log a.connection) := by
      simp only [Waiter.isStirred, shift, changes, ne_eq, Nat.add_right_cancel_iff]
    simp only [wake, Surroundings.over_log, shift_connection, shift_wanted, stirred, same]
    split
    · cases (s.log a.connection).look a.waiter.wanted with
      | some outcome => rfl
      | none => simp only [Option.map_some, AwaitResult.shift, shift, Waiter.notice, changes]
    · rfl
  | interrupt => cases cancelled <;> rfl
  | elapse =>
    have due : (a.shift more).waiter.isDue s.now = a.waiter.isDue s.now := rfl
    simp only [wake, Surroundings.over_now, due]
    cases a.waiter.isDue s.now <;> rfl

theorem Await.wake_echoes {a : Await} {cancelled : Bool} {why : Wake}
    (overlain : s.Overlain start more logs) (young : start ≤ a.waiter.wanted.since) :
    Option.Rel (fun full bare => full = bare.shift more ∧ bare.Since start)
      ((a.shift more).wake (s.over logs) cancelled why) (a.wake s cancelled why) := by
  rw [wake_over overlain young]
  cases woken : a.wake s cancelled why with
  | none => exact .none
  | some result =>
    refine .some ⟨rfl, fun b still => ?_⟩
    rw [still] at woken
    rw [(wake_waits woken).2]
    exact young

end Overlain

end VmControl
