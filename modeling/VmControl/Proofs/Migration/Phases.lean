import VmControl.Proofs.Migration.Mirrors

/-!
# What a history bears out of the phases

How far the transfer has come is borne out by the orders it has given and by the answers that ended
it (`Transfer.BorneOut`). With the mirrors it makes up the phases of a migration, which the two
gates tie together (`Phases.BorneOut`): the gate of the transfer is open only when every mirror was
listed as ready, and the gate of the mirrors only when the transfer was told to be over. A turn of
either phase keeps this (`Phases.BorneOut.step`), whichever acts next.
-/

namespace VmControl

open History

/-! ## The transfer -/

namespace Transfer

/-- The transfer was begun and has asked for its progress a number of times. -/
def Begun (plan : MigrationPlan) (past : History) (times : Nat) : Prop :=
  ∃ uri, ordersOf .transfer past = plan.transferSetup uri ++ List.replicate times .queryMigrate

/-- The history bears out how far the transfer has come. -/
def BorneOut (plan : MigrationPlan) (past : History) : Transfer → Prop
  | .blocked => ordersOf .transfer past = []
  | .settingCapabilities =>
    AllReady plan past ∧ ordersOf .transfer past = (plan.transferSetup "").take 1
  | .settingParameters =>
    AllReady plan past ∧ ordersOf .transfer past = (plan.transferSetup "").take 2
  | .starting => AllReady plan past ∧ Begun plan past 0
  | .resting .. => AllReady plan past ∧ ∃ times, Begun plan past times
  | .asking _ => AllReady plan past ∧ ∃ times, Begun plan past (times + 1)
  | .ended (.ok ()) => TransferOrders plan (ordersOf .transfer past) ∧ Once TellsCompleted past
  | .ended (.error _) => TransferOrders plan (ordersOf .transfer past)

variable {plan : MigrationPlan} {target : Endpoint} {past : History} {m : Moment}
  {t next : Transfer} {ready : Gate} {h : Happening} {order : Option Order}
  {reports : List StatUpdate}

theorem Begun.orders {times : Nat} (begun : Begun plan past times) :
    TransferOrders plan (ordersOf .transfer past) := by
  obtain ⟨uri, orders⟩ := begun
  rw [orders]
  exact ⟨uri, times, List.prefix_rfl⟩

/-- The question for the progress was the last order. -/
theorem Begun.last {times : Nat} (begun : Begun plan past (times + 1)) :
    (ordersOf .transfer past).getLast? = some .queryMigrate := by
  obtain ⟨uri, orders⟩ := begun
  rw [orders, List.replicate_succ', ← List.append_assoc, List.getLast?_concat]

/-- One more question for the progress. -/
theorem Begun.again {times : Nat} (begun : Begun plan past times)
    (orders : ordersOf .transfer (past ++ [m]) = ordersOf .transfer past ++ [.queryMigrate]) :
    Begun plan (past ++ [m]) (times + 1) := by
  obtain ⟨uri, before⟩ := begun
  refine ⟨uri, ?_⟩
  rw [orders, before, List.append_assoc, List.replicate_succ']

theorem Begun.frame {times : Nat} (begun : Begun plan past times)
    (silent : ordersOf .transfer (past ++ [m]) = ordersOf .transfer past) :
    Begun plan (past ++ [m]) times := by
  obtain ⟨uri, orders⟩ := begun
  exact ⟨uri, silent.trans orders⟩

theorem BorneOut.orders (borne : t.BorneOut plan past) :
    TransferOrders plan (ordersOf .transfer past) := by
  have setup {n : Nat} (orders : ordersOf .transfer past = (plan.transferSetup "").take n) :
      TransferOrders plan (ordersOf .transfer past) := by
    rw [orders]
    exact ⟨"", 0, (List.take_prefix _ _).trans (List.prefix_append _ _)⟩
  rcases t with _ | _ | _ | _ | _ | _ | ⟨e | _⟩
  · exact setup (n := 0) borne
  · exact setup borne.2
  · exact setup borne.2
  · exact borne.2.orders
  · exact borne.2.choose_spec.orders
  · exact borne.2.choose_spec.orders
  · exact borne
  · exact borne.1

/-- What other parts do does not touch the transfer. -/
theorem BorneOut.frame (borne : t.BorneOut plan past)
    (silent : ordersOf .transfer (past ++ [m]) = ordersOf .transfer past) :
    t.BorneOut plan (past ++ [m]) := by
  have orders (before : TransferOrders plan (ordersOf .transfer past)) :
      TransferOrders plan (ordersOf .transfer (past ++ [m])) := by rwa [silent]
  rcases t with _ | _ | _ | _ | _ | _ | ⟨e | _⟩
  · exact silent.trans borne
  · exact ⟨borne.1.append [m], silent.trans borne.2⟩
  · exact ⟨borne.1.append [m], silent.trans borne.2⟩
  · exact ⟨borne.1.append [m], borne.2.frame silent⟩
  · obtain ⟨allReady, times, begun⟩ := borne
    exact ⟨allReady.append [m], times, begun.frame silent⟩
  · obtain ⟨allReady, times, begun⟩ := borne
    exact ⟨allReady.append [m], times, begun.frame silent⟩
  · exact orders borne
  · exact ⟨orders borne.1, borne.2.append [m]⟩

/-- A turn of the transfer keeps what the history bears out of it. -/
theorem BorneOut.step (borne : t.BorneOut plan past)
    (turn : Step plan target m.surroundings ready t h ⟨.ok next, order, reports⟩)
    (happens : m.stimulus = .act .transfer h)
    (orders : ordersOf .transfer (past ++ [m]) = ordersOf .transfer past ++ order.toList)
    (opened : ready.isOpen = true → AllReady plan past) : next.BorneOut plan (past ++ [m]) := by
  cases turn with
  | setCapabilities passed =>
    have silent : ordersOf .transfer past = [] := borne
    rw [silent] at orders
    exact ⟨(opened passed).append [m], orders⟩
  | setParameters =>
    obtain ⟨allReady, before⟩ := borne
    rw [before] at orders
    exact ⟨allReady.append [m], orders⟩
  | migrate =>
    obtain ⟨allReady, before⟩ := borne
    rw [before] at orders
    exact ⟨allReady.append [m], _, orders⟩
  | started => exact ⟨borne.1.append [m], 0, borne.2.frame (orders.trans (List.append_nil _))⟩
  | query =>
    obtain ⟨allReady, times, begun⟩ := borne
    exact ⟨allReady.append [m], times, begun.again orders⟩
  | completed told status =>
    obtain ⟨allReady, times, begun⟩ := borne
    refine ⟨(begun.frame (orders.trans (List.append_nil _))).orders, Once.last ?_⟩
    exact ⟨_, _, ⟨begun.last, happens⟩, told, status⟩
  | goesOn =>
    obtain ⟨allReady, times, begun⟩ := borne
    exact ⟨allReady.append [m], times + 1, begun.frame (orders.trans (List.append_nil _))⟩

/-- What the transfer orders is permitted at that moment. -/
theorem BorneOut.permitted {outcome : Except ControlError Transfer} {o : Order}
    (borne : t.BorneOut plan past)
    (turn : Step plan target m.surroundings ready t h ⟨outcome, order, reports⟩)
    (opened : ready.isOpen = true → AllReady plan past) (given : order = some o) :
    Permitted plan past m (.order .transfer o) := by
  cases turn with
  | setCapabilities passed => cases given; exact .transfer rfl (opened passed)
  | setParameters | migrate | query => cases given; exact .transfer rfl borne.1
  | started | completed | goesOn | fail => cases given

/-- The transfer comes to no other outcome than success but by a failure. -/
theorem Step.outcome {s : Surroundings}
    (turn : Step plan target s ready t h ⟨.ok next, order, reports⟩)
    (finished : next.outcome?.isSome = true) : next = .ended (.ok ()) := by
  cases turn with
  | completed => rfl
  | setCapabilities | setParameters | migrate | query | started | goesOn => cases finished

theorem eq_ended {outcome : Except ControlError Unit} (finished : t.outcome? = some outcome) :
    t = .ended outcome := by
  cases t <;> cases finished
  rfl

theorem BorneOut.completed (borne : t.BorneOut plan past) (finished : t = .ended (.ok ())) :
    Once TellsCompleted past := by
  subst finished
  exact borne.2

/-- The turn that ends the transfer orders nothing. -/
theorem Step.silent_of_over {s : Surroundings} {outcome : Except ControlError Transfer}
    (turn : Step plan target s ready t h ⟨outcome, order, reports⟩)
    (ends : ∀ t, outcome = .ok t → t.outcome?.isSome = true) : order = none := by
  cases turn with
  | setCapabilities | setParameters | migrate | query => exact nomatch ends _ rfl
  | started | completed | goesOn | fail => rfl

end Transfer

/-! ## Both phases -/

namespace Phases

variable {plan : MigrationPlan} {past : History} {m : Moment} {p : Phases}

/-- The history bears out how far the phases have come. -/
structure BorneOut (plan : MigrationPlan) (past : History) (p : Phases) : Prop where
  disks : p.offered ≠ none → plan.options.disks ≠ []
  unhindered : plan.options.disks = [] → p.disksReady.isOpen = true
  disksReady : p.disksReady.isOpen = true → AllReady plan past
  migrated : p.migrated.isOpen = true → Once TellsCompleted past
  mirroring : p.mirroring.BorneOut plan past
  transfer : p.transfer.BorneOut plan past

theorem BorneOut.inTurn (borne : p.BorneOut plan past) :
    MirrorsInTurn plan past ∧ TransferOrders plan (ordersOf .transfer past) :=
  ⟨borne.mirroring.inTurn, borne.transfer.orders⟩

theorem BorneOut.withDisks {stamp : Timestamp} {incoming offered : Endpoint}
    (silent : ∀ part, part ≠ .course → ordersOf part past = [])
    (disks : plan.options.disks ≠ []) :
    (withDisks stamp incoming offered plan.options.disks).BorneOut plan past where
  disks _ := disks
  unhindered none := absurd none disks
  disksReady := nofun
  migrated := nofun
  mirroring := Legs.new stamp fun n => silent (.leg n) nofun
  transfer := silent .transfer nofun

theorem BorneOut.withoutDisks {incoming : Endpoint}
    (silent : ∀ part, part ≠ .course → ordersOf part past = [])
    (none : plan.options.disks = []) : (withoutDisks incoming).BorneOut plan past where
  disks offered := absurd rfl offered
  unhindered _ := rfl
  disksReady _ d listed := by simp [none] at listed
  migrated := nofun
  mirroring := by
    refine ⟨fun n d listed => ?_, fun d listed => ?_, fun d listed => ?_⟩ <;> simp [none] at listed
  transfer := silent .transfer nofun

/-- A turn of the transfer keeps what the history bears out of both phases. -/
theorem BorneOut.transferTurn {h : Happening} {next : Except ControlError Transfer}
    {order : Option Order} {reports : List StatUpdate} (borne : p.BorneOut plan past)
    (turn : Transfer.Step plan p.incoming m.surroundings p.disksReady p.transfer h
      ⟨next, order, reports⟩)
    (happens : m.stimulus = .act .transfer h) (gives : m.Gives (order.map (.transfer, ·))) :
    (p.afterTransfer next).BorneOut plan (past ++ [m]) := by
  have orders : ordersOf .transfer (past ++ [m]) = ordersOf .transfer past ++ order.toList :=
    gives.own nofun
  have disksReady (passed : p.disksReady.isOpen = true) : AllReady plan (past ++ [m]) :=
    (borne.disksReady passed).append [m]
  have migrated (passed : p.migrated.isOpen = true) : Once TellsCompleted (past ++ [m]) :=
    (borne.migrated passed).append [m]
  have mirroring : p.mirroring.BorneOut plan (past ++ [m]) := by
    refine borne.mirroring.frame fun n => gives.other nofun ?_
    rintro other o given rfl
    obtain ⟨_, _, same⟩ := Option.map_eq_some_iff.mp given
    cases same
  cases next with
  | error e =>
    obtain rfl := turn.silent_of_over nofun
    have kept : ordersOf .transfer (past ++ [m]) = ordersOf .transfer past :=
      orders.trans (List.append_nil _)
    refine ⟨borne.disks, borne.unhindered, disksReady, migrated, mirroring, ?_⟩
    show TransferOrders plan (ordersOf .transfer (past ++ [m]))
    rw [kept]
    exact borne.transfer.orders
  | ok next =>
    have transfer := borne.transfer.step turn happens orders borne.disksReady
    refine ⟨borne.disks, borne.unhindered, disksReady, ?_, mirroring, transfer⟩
    intro passed
    simp only [afterTransfer] at passed
    split at passed
    · next finished => exact transfer.completed (turn.outcome finished)
    · exact migrated passed

/-- A turn of the mirrors keeps what the history bears out of both phases. -/
theorem BorneOut.mirrorTurn {target : Endpoint} {part : Part} {h : Happening}
    {next : Except ControlError Mirroring} {order : Option (Part × Order)}
    {reports : List StatUpdate} (borne : p.BorneOut plan past)
    (turn : p.mirroring.Step plan target m.surroundings p.migrated part h ⟨next, order, reports⟩)
    (happens : m.stimulus = .act part h) (gives : m.Gives order) :
    (p.afterMirror next).BorneOut plan (past ++ [m]) := by
  have disksReady (passed : p.disksReady.isOpen = true) : AllReady plan (past ++ [m]) :=
    (borne.disksReady passed).append [m]
  have migrated (passed : p.migrated.isOpen = true) : Once TellsCompleted (past ++ [m]) :=
    (borne.migrated passed).append [m]
  have unhindered (none : plan.options.disks = []) :
      (p.afterMirror next).disksReady.isOpen = true :=
    disksReady_kept next (borne.unhindered none)
  have transfer : p.transfer.BorneOut plan (past ++ [m]) := by
    refine borne.transfer.frame (gives.other nofun ?_)
    rintro other o given rfl
    exact turn.order_part given rfl
  cases next with
  | error e =>
    obtain rfl := turn.silent_of_over nofun
    refine ⟨borne.disks, unhindered, disksReady, migrated, ?_, transfer⟩
    exact borne.mirroring.inTurn.frame fun n => gives.other nofun nofun
  | ok next =>
    have mirroring := borne.mirroring.step turn happens gives borne.migrated
    refine ⟨borne.disks, unhindered, ?_, migrated, mirroring, transfer⟩
    intro passed
    simp only [afterMirror] at passed
    split at passed
    · next synced => exact mirroring.allReady synced
    · exact disksReady passed

/-- A turn of a phase keeps what the history bears out of both. -/
theorem BorneOut.step {part : Part} {h : Happening} {t : PhaseTurn} (borne : p.BorneOut plan past)
    (turn : p.Step plan m.surroundings part h t) (happens : m.stimulus = .act part h)
    (gives : m.Gives t.order) : t.next.BorneOut plan (past ++ [m]) := by
  cases turn with
  | transfer turn => exact borne.transferTurn turn happens gives
  | mirrors offered turn => exact borne.mirrorTurn turn happens gives

/-- What a phase orders is permitted at that moment. -/
theorem BorneOut.permitted {part : Part} {h : Happening} {t : PhaseTurn}
    (borne : p.BorneOut plan past) (turn : p.Step plan m.surroundings part h t) :
    ∀ e ∈ turnEffects t.order, Permitted plan past m e := by
  cases turn with
  | @transfer _ _ order _ turn =>
    intro e given
    cases order with
    | none => cases given
    | some o =>
      obtain rfl := List.mem_singleton.mp given
      exact borne.transfer.permitted turn borne.disksReady rfl
  | mirrors offered turn =>
    refine borne.mirroring.permitted (borne.disks ?_) turn
    rw [offered]
    exact nofun

/-- The turn after which both phases are over orders nothing. -/
theorem Step.silent_of_over {s : Surroundings} {part : Part} {h : Happening} {t : PhaseTurn}
    (turn : p.Step plan s part h t) (finished : t.next.outcome? ≠ none) : t.order = none := by
  have mirrored : t.next.mirroring.outcome?.isSome = true := by
    cases mirrors : t.next.mirroring.outcome? with
    | none => simp [outcome?, mirrors] at finished
    | some outcome => rfl
  have transferred : t.next.transfer.outcome?.isSome = true := by
    cases transfer : t.next.transfer.outcome? with
    | none => simp [outcome?, transfer] at finished
    | some outcome => rfl
  cases turn with
  | transfer turn =>
    rw [turn.silent_of_over]
    · rfl
    · rintro t rfl
      exact transferred
  | mirrors offered turn =>
    rw [turn.silent_of_over]
    rintro g rfl
    exact mirrored

theorem firstFailure_ok {a b : Except ControlError Unit} (sound : firstFailure a b = .ok ()) :
    a = .ok () ∧ b = .ok () := by
  rcases a with e | _ <;> rcases b with f | _
  · cases sound
  · cases sound
  · cases sound
  · exact ⟨rfl, rfl⟩

/-- When both phases are over with success, everything is on the other side. -/
theorem BorneOut.handover (borne : p.BorneOut plan past) (finished : p.outcome? = some (.ok ())) :
    Handover plan past := by
  rw [outcome?] at finished
  split at finished
  · next mirrors transfer =>
    obtain ⟨rfl, rfl⟩ := firstFailure_ok (Option.some.inj finished)
    have mirroring := borne.mirroring
    rw [Mirroring.eq_ended mirrors] at mirroring
    obtain ⟨_, ready, concluded⟩ := mirroring
    exact ⟨borne.transfer.completed (Transfer.eq_ended transfer), ready, concluded⟩
  · cases finished

end Phases

end VmControl
