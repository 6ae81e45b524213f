import VmControl.Proofs.Migration.Ordering
import VmControl.Proofs.Migration.Replay
import VmControl.Proofs.Options

/-!
# In which order the phases of a migration work

Seen from the monitor, whoever gives the orders: the transfer of the machine state is set up and
begun only when every mirror was listed as ready, no mirror is completed before the transfer was
told to be over, and every mirror is started and completed at most once, under an identifier of its
own. Without disks there are no mirrors, and the transfer waits for nothing
(`Course.phases_in_order`).
-/

namespace VmControl

open History

/-- The order that an effect gives, on whoever's behalf. -/
def Effect.order? : Effect → Option Order
  | .order _ o => some o
  | _ => none

@[simp] theorem Effect.order?_order (part : Part) (o : Order) : (order part o).order? = some o :=
  rfl

namespace Order

/-- Whether an order begins the transfer of the machine state. -/
def isSetup : Order → Bool
  | .setCapabilities | .setParameters .. | .migrate _ => true
  | _ => false

/-- Whether an order starts a mirror job. -/
def starts (job : String) : Order → Bool
  | .driveMirror j .. => j = job
  | _ => false

/-- Whether an order completes a mirror job. -/
def completes (job : String) : Order → Bool
  | .blockJobComplete j => j = job
  | _ => false

theorem eq_of_starts {job : String} {o : Order} (kind : o.starts job = true) :
    ∃ device target, o = .driveMirror job device target := by
  unfold starts at kind
  split at kind
  · next j device target =>
    obtain rfl := of_decide_eq_true kind
    exact ⟨device, target, rfl⟩
  · cases kind

theorem eq_of_completes {job : String} {o : Order} (kind : o.completes job = true) :
    o = .blockJobComplete job := by
  unfold completes at kind
  split at kind
  · next j =>
    obtain rfl := of_decide_eq_true kind
    rfl
  · cases kind

end Order

/-- Whether something goes out for the mirrors. -/
def Effect.isForMirrors : Effect → Bool
  | .order _ (.driveMirror ..) | .order _ .queryBlockJobs | .order _ (.blockJobComplete _) => true
  | .request (.startExport ..) | .request (.stopExport _) => true
  | _ => false

/-- All orders, whoever gave them. -/
def History.orders (past : History) : List Order := (wire past).filterMap Effect.order?

variable {plan : MigrationPlan} {past : History} {m : Moment}

/-- Orders of a kind that only one part gives are the orders of that kind of that part. -/
theorem filter_orders {effects : List Effect} {part : Part} {kind : Order → Bool}
    (own : ∀ other o, .order other o ∈ effects → kind o = true → other = part) :
    (effects.filterMap Effect.order?).filter kind =
      (effects.filterMap (Effect.orderOf? part)).filter kind := by
  induction effects with
  | nil => rfl
  | cons e rest ih =>
    have others := ih fun other o there => own other o (List.mem_cons_of_mem _ there)
    cases e with
    | order other o =>
      by_cases same : other = part
      · subst same
        rw [List.filterMap_cons_some (Effect.orderOf?_self other o),
          List.filterMap_cons_some (Effect.order?_order other o), List.filter_cons,
          List.filter_cons, others]
      · have foreign : kind o = false := by
          refine Bool.eq_false_iff.mpr fun holds => same ?_
          exact own other o List.mem_cons_self holds
        rw [List.filterMap_cons_none (Effect.orderOf?_other same o),
          List.filterMap_cons_some (Effect.order?_order other o),
          List.filter_cons_of_neg (by simp [foreign]), others]
    | _ => exact others

theorem countP_orders {effects : List Effect} {part : Part} {kind : Order → Bool}
    (own : ∀ other o, .order other o ∈ effects → kind o = true → other = part) :
    (effects.filterMap Effect.order?).countP kind =
      (effects.filterMap (Effect.orderOf? part)).countP kind := by
  rw [List.countP_eq_length_filter, List.countP_eq_length_filter, filter_orders own]

/-- A job of its own tells a disk. -/
theorem index_of_job {disks : List Disk} {n k : Nat} {d e : Disk}
    (distinct : (disks.map (·.mirrorJob)).Nodup) (there : disks[n]? = some d)
    (also : disks[k]? = some e) (same : d.mirrorJob = e.mirrorJob) : k = n := by
  have below : k < (disks.map (·.mirrorJob)).length := by
    rw [List.length_map]
    exact (List.getElem?_eq_some_iff.mp also).1
  refine (List.getElem?_inj below distinct).mp ?_
  rw [List.getElem?_map, List.getElem?_map, there, also, Option.map_some, Option.map_some, same]

/-- What went out was permitted when it did. -/
theorem Orderly.permitted_of_mem {e : Effect} (orderly : Orderly plan past) (sent : e ∈ wire past) :
    ∃ earlier m later, past = earlier ++ m :: later ∧ Permitted plan earlier m e := by
  obtain ⟨m, there, now⟩ := mem_wire.mp sent
  obtain ⟨earlier, later, split⟩ := List.append_of_mem there
  have permitted := orderly.permitted earlier m later split e (List.mem_filter.mp now).1
  exact ⟨earlier, m, later, split, permitted⟩

/-! ## What is permitted -/

namespace Permitted

variable {earlier : History} {part : Part}

theorem of_setup {o : Order} (permitted : Permitted plan earlier m (.order part o))
    (kind : o.isSetup = true) : part = .transfer ∧ AllReady plan earlier := by
  cases permitted with
  | transfer _ ready => exact ⟨rfl, ready⟩
  | startMirror | listJobs | endMirror | watch | quit => cases kind
  | undo undo => cases o <;> simp [Order.isSetup, Order.isUndo] at kind undo
  | keep inside => cases inside

theorem of_starts {o : Order} {job : String} (permitted : Permitted plan earlier m (.order part o))
    (kind : o.starts job = true) :
    ∃ n d, plan.options.disks[n]? = some d ∧ part = .leg n ∧ job = d.mirrorJob := by
  obtain ⟨device, target, rfl⟩ := Order.eq_of_starts kind
  cases permitted with
  | startMirror _ listed => exact ⟨_, _, listed, rfl, rfl⟩
  | transfer kind => cases kind
  | undo kind => cases kind
  | keep inside => cases inside

theorem of_completes {o : Order} {job : String}
    (permitted : Permitted plan earlier m (.order part o)) (kind : o.completes job = true) :
    (∃ n d, plan.options.disks[n]? = some d ∧ part = .leg n ∧ job = d.mirrorJob) ∧
      Once TellsCompleted earlier := by
  obtain rfl := Order.eq_of_completes kind
  cases permitted with
  | endMirror listed transferred => exact ⟨⟨_, _, listed, rfl, rfl⟩, transferred⟩
  | transfer kind => cases kind
  | undo kind => cases kind
  | keep inside => cases inside

/-- Without disks nothing is done for mirrors. -/
theorem of_none {e : Effect} (permitted : Permitted plan earlier m e)
    (none : plan.options.disks = []) : e.isForMirrors = false := by
  cases permitted with
  | startMirror _ listed | listJobs listed | endMirror listed => simp [none] at listed
  | watch disks => exact absurd none disks
  | offer _ _ disks | withdraw _ disks => exact absurd none disks
  | @transfer o kind => cases o <;> first | rfl | cases kind
  | @undo o kind => cases o <;> first | rfl | cases kind
  | @request q kind => cases q <;> first | rfl | cases kind
  | quit => rfl
  | @keep e inside => cases e <;> first | rfl | cases inside

end Permitted

/-! ## In turn -/

theorem MirrorOrders.once {job : String} {orders : List Order} (inTurn : MirrorOrders job orders) :
    orders.countP (Order.starts job) ≤ 1 ∧ orders.countP (Order.completes job) ≤ 1 := by
  cases inTurn with
  | none => exact ⟨Nat.zero_le _, Nat.zero_le _⟩
  | asked =>
    constructor <;> simp [List.countP_replicate, Order.starts, Order.completes]
  | ended =>
    constructor <;> simp [List.countP_replicate, Order.starts, Order.completes]

theorem TransferOrders.setup {orders : List Order} (inTurn : TransferOrders plan orders) :
    ∃ uri, orders.filter Order.isSetup <+: plan.transferSetup uri := by
  obtain ⟨uri, times, front⟩ := inTurn
  refine ⟨uri, ?_⟩
  have kept := front.filter Order.isSetup
  rw [List.filter_append] at kept
  have questions : (List.replicate times Order.queryMigrate).filter Order.isSetup = [] :=
    List.filter_eq_nil_iff.mpr fun o there => by
      simp [List.eq_of_mem_replicate there, Order.isSetup]
  rw [questions, List.append_nil] at kept
  exact kept

/-- The phases of a migration have worked in order. -/
structure InOrder (plan : MigrationPlan) (past : History) : Prop where
  setup : ∃ uri, (orders past).filter Order.isSetup <+: plan.transferSetup uri
  ready : Throughout (fun earlier m => ∀ part o, .order part o ∈ m.effects → o.isSetup = true →
    AllReady plan earlier) past
  transferred : Throughout (fun earlier m => ∀ part job,
    .order part (.blockJobComplete job) ∈ m.effects → Once TellsCompleted earlier) past
  once : ∀ d ∈ plan.options.disks, (orders past).countP (Order.starts d.mirrorJob) ≤ 1 ∧
    (orders past).countP (Order.completes d.mirrorJob) ≤ 1
  own : ∀ o ∈ orders past, ∀ job, o.starts job = true ∨ o.completes job = true →
    ∃ d ∈ plan.options.disks, job = d.mirrorJob
  distinct : (plan.options.disks.map (·.mirrorJob)).Nodup
  none : plan.options.disks = [] → ∀ e ∈ wire past, e.isForMirrors = false

theorem mem_orders {o : Order} : o ∈ orders past ↔ ∃ part, .order part o ∈ wire past := by
  rw [orders, List.mem_filterMap]
  constructor
  · rintro ⟨e, sent, given⟩
    cases e with
    | order part o => cases given; exact ⟨part, sent⟩
    | _ => cases given
  · rintro ⟨part, sent⟩
    exact ⟨_, sent, rfl⟩

/-- An orderly history of a migration of disks with jobs of their own is in order. -/
theorem Orderly.inOrder (orderly : Orderly plan past)
    (distinct : (plan.options.disks.map (·.mirrorJob)).Nodup) : InOrder plan past where
  setup := by
    have own (other : Part) (o : Order) (sent : .order other o ∈ wire past)
        (kind : o.isSetup = true) : other = .transfer := by
      obtain ⟨_, _, _, _, permitted⟩ := orderly.permitted_of_mem sent
      exact (permitted.of_setup kind).1
    rw [orders, filter_orders own]
    exact orderly.transfer.setup
  ready := by
    refine orderly.permitted.mono fun earlier m permitted part o given kind => ?_
    exact ((permitted _ given).of_setup kind).2
  transferred := by
    refine orderly.permitted.mono fun earlier m permitted part job given => ?_
    have kind : (Order.blockJobComplete job).completes job = true := decide_eq_true rfl
    exact ((permitted _ given).of_completes kind).2
  once d listed := by
    obtain ⟨n, there⟩ := List.mem_iff_getElem?.mp listed
    have inTurn := (orderly.mirrors n d there).once
    have starts (other : Part) (o : Order) (sent : .order other o ∈ wire past)
        (kind : o.starts d.mirrorJob = true) : other = .leg n := by
      obtain ⟨_, _, _, _, permitted⟩ := orderly.permitted_of_mem sent
      obtain ⟨k, e, also, rfl, same⟩ := permitted.of_starts kind
      rw [index_of_job distinct there also same]
    have completes (other : Part) (o : Order) (sent : .order other o ∈ wire past)
        (kind : o.completes d.mirrorJob = true) : other = .leg n := by
      obtain ⟨_, _, _, _, permitted⟩ := orderly.permitted_of_mem sent
      obtain ⟨⟨k, e, also, rfl, same⟩, -⟩ := permitted.of_completes kind
      rw [index_of_job distinct there also same]
    rw [orders, countP_orders starts, countP_orders completes]
    exact inTurn
  own o given job kind := by
    obtain ⟨part, sent⟩ := mem_orders.mp given
    obtain ⟨_, _, _, _, permitted⟩ := orderly.permitted_of_mem sent
    rcases kind with starts | completes
    · obtain ⟨n, d, listed, -, same⟩ := permitted.of_starts starts
      exact ⟨d, List.mem_of_getElem? listed, same⟩
    · obtain ⟨⟨n, d, listed, -, same⟩, -⟩ := permitted.of_completes completes
      exact ⟨d, List.mem_of_getElem? listed, same⟩
  distinct := distinct
  none none e sent := by
    obtain ⟨_, _, _, _, permitted⟩ := orderly.permitted_of_mem sent
    exact permitted.of_none none

/-- A transfer that has not begun begins at once where there are no disks. -/
theorem MigrationRun.Ordered.unhindered {r : MigrationRun} {p : Phases} {cancelled : Bool}
    (ordered : r.Ordered plan past) (none : plan.options.disks = [])
    (stage : r.stage = .transferring p) (blocked : p.transfer = .blocked) (s : Surroundings) :
    ∃ next, r.step? s cancelled (.act .transfer .enter) =
      some (next, [.order .transfer .setCapabilities]) := by
  have borne := ordered.borne
  rw [stage] at borne
  have passes := Gate.look_of_isOpen (borne.unhindered none) (p.isStopped cancelled)
  have goesOn : (p.afterTransfer (.ok .settingCapabilities)).outcome? = Option.none := by
    rw [Phases.outcome?]
    split
    · next finished => cases finished
    · rfl
  have turn : p.react? r.plan s cancelled .transfer .enter = some
      ⟨p.afterTransfer (.ok .settingCapabilities), some (.transfer, .setCapabilities), []⟩ := by
    simp [Phases.react?, blocked, Transfer.react?, passes, Reaction.ask, Turn.mapOrder, Turn.map]
  refine ⟨((r.report []).goTo (.transferring (p.afterTransfer (.ok .settingCapabilities)))), ?_⟩
  simp [step?, act?, stage, turn, onPhases, goesOn]

/-- Whatever the monitor and the receiving host do and whenever the operator cancels, the phases of
a migration with accepted options work in order. Without disks the transfer need not wait. -/
theorem Course.phases_in_order {cancelled : Bool} {r : MigrationRun}
    (valid : plan.options.validate = .ok ()) (course : Course plan past cancelled r) :
    InOrder plan past ∧ (plan.options.disks = [] → ∀ p, r.stage = .transferring p →
      p.transfer = .blocked → ∀ s, ∃ next, r.step? s cancelled (.act .transfer .enter) =
        some (next, [.order .transfer .setCapabilities])) := by
  have ordered := course.ordered
  refine ⟨ordered.orderly.inOrder (MigrationOptions.jobIds_nodup valid "migr"), ?_⟩
  intro none p stage blocked s
  exact ordered.unhindered none stage blocked s

namespace Sample

/-- The migration of the same machine without its disk. -/
def bare : MigrationPlan := { Sample.plan with options := { Sample.plan.options with disks := [] } }

theorem bare_replayable :
    ((MigrationRun.new bare ⟨100, 0⟩).replay? false (moments.take 2)).isSome :=
  rfl

/-- That migration when the machine on the other host has been started. -/
def bareRun : History × MigrationRun := Option.get _ bare_replayable

theorem bare_course : Course bare bareRun.1 false bareRun.2 := .of_replay? bare_replayable

/-- The disk is mirrored in order, and without it the transfer begins at once. -/
theorem in_order : InOrder Sample.plan played.1 ∧
    (orders played.1).countP (Order.starts disk.mirrorJob) = 1 ∧
    ∃ next, bareRun.2.step? (surroundings 0) false (.act .transfer .enter) =
      some (next, [.order .transfer .setCapabilities]) := by
  refine ⟨(Course.phases_in_order rfl Sample.course).1, rfl, ?_⟩
  exact (Course.phases_in_order rfl bare_course).2 rfl _ rfl rfl _

end Sample

end VmControl
