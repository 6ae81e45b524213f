import VmControl.Migration.Run
import VmControl.Proofs.Past

/-!
# The history of a migration

A run is observed moment by moment: what surrounded it, whether the operator had cancelled by then,
what happened, and what the run wanted done about it. From such a history one reads off what went to
the monitor and to the receiving host (`History.wire`), what each part has ordered
(`History.ordersOf`), and what an answer was an answer to (`Answers`).

The predicates below name the evidence on which a migration goes on: a listing that shows a mirror
ready (`ListsReady`), the end of the state transfer (`TellsCompleted`), and the two ways in which a
mirror is known to be over (`SeesEnd`, `FindsGone`). `Handover` is all of it together: nothing is
left for which the machine here would be needed.
-/

namespace VmControl

namespace Effect

/-- Whether an effect goes to the monitor or to the receiving host. -/
def isWire : Effect → Bool
  | .order .. | .request .. => true
  | _ => false

/-- The order that an effect gives on behalf of a part. -/
def orderOf? (part : Part) : Effect → Option Order
  | .order p o => if p = part then some o else none
  | _ => none

@[simp] theorem orderOf?_self (part : Part) (o : Order) : (order part o).orderOf? part = some o :=
  if_pos rfl

theorem orderOf?_other {part other : Part} (apart : other ≠ part) (o : Order) :
    (order other o).orderOf? part = none := if_neg apart

end Effect

/-- What is wanted of an event that tells of a block job. -/
def Wanted.ofJob (kind job : String) (since : Timestamp) : Wanted :=
  .ofTexts kind [("device", job)] since

/-- A moment of a run. -/
structure Moment where
  surroundings : Surroundings
  /-- Whether the operator has cancelled by then. -/
  cancelled : Bool
  stimulus : Stimulus
  /-- What the run wants done about it. -/
  effects : List Effect

/-- What goes out at a moment. -/
def Moment.wire (m : Moment) : List Effect := m.effects.filter Effect.isWire

/-- What has happened in a run, oldest first. -/
abbrev History := List Moment

namespace History

/-- What has gone out. -/
def wire (past : History) : List Effect := past.flatMap Moment.wire

/-- The orders of a part. -/
def ordersOf (part : Part) (past : History) : List Order :=
  (wire past).filterMap (Effect.orderOf? part)

@[simp] theorem wire_append (past more : History) : wire (past ++ more) = wire past ++ wire more :=
  List.flatMap_append

@[simp] theorem wire_singleton (m : Moment) : wire [m] = m.wire := by
  rw [wire, List.flatMap_singleton]

theorem ordersOf_concat (part : Part) (past : History) (m : Moment) :
    ordersOf part (past ++ [m]) =
      ordersOf part past ++ m.wire.filterMap (Effect.orderOf? part) := by
  rw [ordersOf, wire_append, List.filterMap_append, wire_singleton, ordersOf]

theorem mem_wire {past : History} {e : Effect} : e ∈ wire past ↔ ∃ m ∈ past, e ∈ m.wire :=
  List.mem_flatMap

end History

/-- What comes of the order of a turn that names the part on whose behalf it is given. -/
def turnEffects (order : Option (Part × Order)) : List Effect :=
  order.toList.map fun (part, order) => .order part order

/-- At a moment the order of a turn is given, and no other one on behalf of the phases. -/
structure Moment.Gives (m : Moment) (order : Option (Part × Order)) : Prop where
  given : ∀ e ∈ turnEffects order, e ∈ m.effects
  only : ∀ part, part ≠ .course →
    m.wire.filterMap (Effect.orderOf? part) = (turnEffects order).filterMap (Effect.orderOf? part)

namespace Moment

variable {m : Moment}

theorem wire_turn {order : Option (Part × Order)} (given : m.effects = turnEffects order) :
    m.wire = turnEffects order := by
  rw [wire, given, List.filter_eq_self]
  intro e ordered
  obtain ⟨_, _, rfl⟩ := List.mem_map.mp ordered
  rfl

theorem Gives.of_turn {order : Option (Part × Order)} (given : m.effects = turnEffects order) :
    m.Gives order where
  given e ordered := given ▸ ordered
  only part _ := by rw [wire_turn given]

/-- Where nothing goes out on behalf of a phase, no order of a phase is given. -/
theorem Gives.of_silent
    (silent : ∀ e ∈ m.effects, ∀ part, part ≠ .course → e.orderOf? part = none) :
    m.Gives none where
  given e ordered := by cases ordered
  only part phase := by
    refine List.filterMap_eq_nil_iff.mpr fun e sent => ?_
    exact silent e (List.mem_filter.mp sent).1 part phase

variable {past : History} {part : Part}

/-- The orders of the part that acts. -/
theorem Gives.own {order : Option Order} (gives : m.Gives (order.map (part, ·)))
    (phase : part ≠ .course) :
    History.ordersOf part (past ++ [m]) = History.ordersOf part past ++ order.toList := by
  rw [History.ordersOf_concat, gives.only part phase]
  cases order with
  | none => rfl
  | some o => simp [turnEffects]

/-- The orders of a part when another one acts. -/
theorem Gives.other {order : Option (Part × Order)} (gives : m.Gives order) (phase : part ≠ .course)
    (apart : ∀ other o, order = some (other, o) → other ≠ part) :
    History.ordersOf part (past ++ [m]) = History.ordersOf part past := by
  rw [History.ordersOf_concat, gives.only part phase]
  cases order with
  | none => exact List.append_nil _
  | some ordered =>
    obtain ⟨other, o⟩ := ordered
    simp [turnEffects, Effect.orderOf?_other (apart other o rfl)]

end Moment

open History

/-! ## Evidence -/

/-- The monitor answers the last order of a part. -/
def Answers (part : Part) (order : Order) (answer : Except ControlError Json) (earlier : History)
    (m : Moment) : Prop :=
  (ordersOf part earlier).getLast? = some order ∧ m.stimulus = .act part (.reply answer)

/-- The monitor lists a block job as ready to be completed. -/
def ListsReady (job : String) (earlier : History) (m : Moment) : Prop :=
  ∃ part reply jobs entry, Answers part .queryBlockJobs (.ok reply) earlier m ∧
    Reply.interpret Order.queryBlockJobs.command.name BlockJob.listing reply = .ok jobs ∧
    BlockJob.find? jobs job = some entry ∧ entry.ready = true

/-- The monitor tells that the state transfer has completed. -/
def TellsCompleted (earlier : History) (m : Moment) : Prop :=
  ∃ reply info, Answers .transfer .queryMigrate (.ok reply) earlier m ∧
    Reply.interpret Order.queryMigrate.command.name MigrationInfo.ofDraft reply = .ok info ∧
    info.status = some "completed"

/-- A part starts a mirror job at a time of day. -/
def StartsMirror (part : Part) (job : String) (since : Timestamp) (_ : History) (m : Moment) :
    Prop :=
  (∃ device target, .order part (.driveMirror job device target) ∈ m.effects) ∧
    m.surroundings.stamp = since

/-- A part orders the completion of a mirror at a time of day, the state transfer being over. -/
def OrdersEnd (part : Part) (job : String) (since : Timestamp) (earlier : History) (m : Moment) :
    Prop :=
  .order part (.blockJobComplete job) ∈ m.effects ∧ m.surroundings.stamp = since ∧
    Once TellsCompleted earlier

/-- The monitor takes the order to complete a mirror, while it is on a connection. -/
def TakesEnd (vm : String) (part : Part) (job : String) (connection : Nat) (since : Timestamp)
    (earlier : History) (m : Moment) : Prop :=
  (∃ v, Answers part (.blockJobComplete job) (.ok v) earlier m) ∧
    m.surroundings.registry.find vm = .ok connection ∧ Once (OrdersEnd part job since) earlier

/-- The log of the connection that took the order to complete a mirror holds its end, stamped since
the order and without an error. -/
def SeesEnd (vm : String) (part : Part) (job : String) (earlier : History) (m : Moment) : Prop :=
  ∃ connection since e, e ∈ (m.surroundings.log connection).events ∧
    (Wanted.ofJob Event.blockJobCompleted job since).holds e = true ∧ e.text? "error" = none ∧
    Once (TakesEnd vm part job connection since) (earlier ++ [m])

/-- The monitor no longer knows the mirror that is to be completed, and its log holds no error of
the job since the mirror was started. -/
def FindsGone (vm : String) (part : Part) (job : String) (earlier : History) (m : Moment) : Prop :=
  ∃ failure connection started ordered,
    Answers part (.blockJobComplete job) (.error failure) earlier m ∧
    failure.isJobNotFound = true ∧ m.surroundings.registry.find vm = .ok connection ∧
    (∀ e ∈ (m.surroundings.log connection).events,
      (Wanted.ofJob Event.blockJobError job started).holds e = false ∧
      ((Wanted.ofJob Event.blockJobCompleted job started).holds e = true →
        e.text? "error" = none)) ∧
    Once (StartsMirror part job started) earlier ∧ Once (OrdersEnd part job ordered) earlier

/-- A mirror is known to be over. -/
def Concluded (vm job : String) (past : History) : Prop :=
  ∃ part, Once (SeesEnd vm part job) past ∨ Once (FindsGone vm part job) past

/-- Every mirror was listed as ready. -/
def AllReady (plan : MigrationPlan) (past : History) : Prop :=
  ∀ d ∈ plan.options.disks, Once (ListsReady d.mirrorJob) past

/-- Everything is on the other side. -/
structure Handover (plan : MigrationPlan) (past : History) : Prop where
  transferred : Once TellsCompleted past
  ready : AllReady plan past
  concluded : ∀ d ∈ plan.options.disks, Concluded plan.options.vmName d.mirrorJob past

theorem AllReady.append {plan : MigrationPlan} {past : History} (ready : AllReady plan past)
    (more : History) : AllReady plan (past ++ more) :=
  fun d listed => (ready d listed).append more

theorem Concluded.append {vm job : String} {past : History} (finished : Concluded vm job past)
    (more : History) : Concluded vm job (past ++ more) := by
  obtain ⟨part, seen | gone⟩ := finished
  · exact ⟨part, Or.inl (seen.append more)⟩
  · exact ⟨part, Or.inr (gone.append more)⟩

theorem Handover.append {plan : MigrationPlan} {past : History} (handover : Handover plan past)
    (more : History) : Handover plan (past ++ more) where
  transferred := handover.transferred.append more
  ready := handover.ready.append more
  concluded d listed := (handover.concluded d listed).append more

end VmControl
