import VmControl.Proofs.Migration.Laws

/-!
# What a history bears out of the mirrors

How far a mirror has come is borne out by the history (`Leg.BorneOut`): which orders it has given,
what was answered, and which events were seen. A turn keeps this (`Leg.BorneOut.step`), and what
other parts do does not touch it (`Leg.BorneOut.frame`). The same is then shown of the mirrors
together (`Mirroring.BorneOut`): they go on to a common listing only when each was listed as ready,
and are over only when each is known to be over.
-/

namespace VmControl

open History

namespace Leg

/-- The mirror of a disk was started at a time of day and has asked for the listing a number of
times. -/
structure Asked (past : History) (n : Nat) (d : Disk) (since : Timestamp) (times : Nat) : Prop where
  orders : ∃ target, ordersOf (.leg n) past =
    .driveMirror d.mirrorJob d.device target :: List.replicate times .queryBlockJobs
  started : Once (StartsMirror (.leg n) d.mirrorJob since) past

/-- The mirror of a disk was started at a time of day, has asked for the listing, and its completion
was ordered. -/
structure Ordered (past : History) (n : Nat) (d : Disk) (since : Timestamp) : Prop where
  orders : ∃ target times, ordersOf (.leg n) past =
    .driveMirror d.mirrorJob d.device target ::
      (List.replicate times .queryBlockJobs ++ [.blockJobComplete d.mirrorJob])
  started : Once (StartsMirror (.leg n) d.mirrorJob since) past

/-- The history bears out how far the mirror at a position has come. -/
def BorneOut (plan : MigrationPlan) (past : History) (n : Nat) (l : Leg) : Prop :=
  match l.stage with
  | .toStart => ordersOf (.leg n) past = []
  | .starting | .awaitingStart _ => Asked past n l.disk l.startedAt 0
  | .pausing _ => ∃ times, Asked past n l.disk l.startedAt times
  | .listing => ∃ times, Asked past n l.disk l.startedAt (times + 1)
  | .ready =>
    (∃ times, Asked past n l.disk l.startedAt times) ∧ Once (ListsReady l.disk.mirrorJob) past
  | .toComplete => (∃ times, Asked past n l.disk l.startedAt times) ∧ Once TellsCompleted past
  | .completing since =>
    Ordered past n l.disk l.startedAt ∧ Once (OrdersEnd (.leg n) l.disk.mirrorJob since) past
  | .awaitingEnd a => Ordered past n l.disk l.startedAt ∧
      ∃ since, a.waiter.wanted = .ofJob Event.blockJobCompleted l.disk.mirrorJob since ∧
        Once (TakesEnd plan.options.vmName (.leg n) l.disk.mirrorJob a.connection since) past
  | .concluded =>
    Ordered past n l.disk l.startedAt ∧ Concluded plan.options.vmName l.disk.mirrorJob past

variable {plan : MigrationPlan} {target : Endpoint} {past : History} {m : Moment} {n : Nat}
  {l k : Leg} {d : Disk} {since : Timestamp}

theorem Asked.frame {times : Nat} (asked : Asked past n d since times)
    (silent : ordersOf (.leg n) (past ++ [m]) = ordersOf (.leg n) past) :
    Asked (past ++ [m]) n d since times where
  orders := by rw [silent]; exact asked.orders
  started := asked.started.append [m]

theorem Ordered.frame (ordered : Ordered past n d since)
    (silent : ordersOf (.leg n) (past ++ [m]) = ordersOf (.leg n) past) :
    Ordered (past ++ [m]) n d since where
  orders := by rw [silent]; exact ordered.orders
  started := ordered.started.append [m]

/-- One more question for the listing. -/
theorem Asked.again {times : Nat} (asked : Asked past n d since times)
    (orders : ordersOf (.leg n) (past ++ [m]) = ordersOf (.leg n) past ++ [.queryBlockJobs]) :
    Asked (past ++ [m]) n d since (times + 1) where
  orders := by
    obtain ⟨target, before⟩ := asked.orders
    refine ⟨target, ?_⟩
    rw [orders, before, List.replicate_succ', List.cons_append]
  started := asked.started.append [m]

/-- The question for the listing was the last order. -/
theorem Asked.last {times : Nat} (asked : Asked past n d since (times + 1)) :
    (ordersOf (.leg n) past).getLast? = some .queryBlockJobs := by
  obtain ⟨target, orders⟩ := asked.orders
  rw [orders, List.replicate_succ', ← List.cons_append, List.getLast?_concat]

/-- The completion was the last order. -/
theorem Ordered.last (ordered : Ordered past n d since) :
    (ordersOf (.leg n) past).getLast? = some (.blockJobComplete d.mirrorJob) := by
  obtain ⟨target, times, orders⟩ := ordered.orders
  rw [orders, ← List.cons_append, List.getLast?_concat]

/-- What other parts do does not touch a mirror. -/
theorem BorneOut.frame (borne : l.BorneOut plan past n)
    (silent : ordersOf (.leg n) (past ++ [m]) = ordersOf (.leg n) past) :
    l.BorneOut plan (past ++ [m]) n := by
  unfold BorneOut at borne ⊢
  cases stage : l.stage with
  | toStart =>
    rw [stage] at borne
    exact silent.trans borne
  | starting | awaitingStart =>
    rw [stage] at borne
    exact borne.frame silent
  | pausing | listing =>
    rw [stage] at borne
    obtain ⟨times, asked⟩ := borne
    exact ⟨times, asked.frame silent⟩
  | ready | toComplete =>
    rw [stage] at borne
    obtain ⟨⟨times, asked⟩, once⟩ := borne
    exact ⟨⟨times, asked.frame silent⟩, once.append [m]⟩
  | completing =>
    rw [stage] at borne
    exact ⟨borne.1.frame silent, borne.2.append [m]⟩
  | awaitingEnd =>
    rw [stage] at borne
    obtain ⟨ordered, since, wanted, taken⟩ := borne
    exact ⟨ordered.frame silent, since, wanted, taken.append [m]⟩
  | concluded =>
    rw [stage] at borne
    exact ⟨borne.1.frame silent, borne.2.append [m]⟩

/-- A turn of a mirror keeps what the history bears out of it. -/
theorem BorneOut.step {h : Happening} {order : Option Order} {reports : List StatUpdate}
    (borne : l.BorneOut plan past n)
    (turn : l.Step plan target m.surroundings h ⟨.ok k, order, reports⟩)
    (happens : m.stimulus = .act (.leg n) h)
    (orders : ordersOf (.leg n) (past ++ [m]) = ordersOf (.leg n) past ++ order.toList)
    (given : ∀ o ∈ order, .order (.leg n) o ∈ m.effects) :
    k.BorneOut plan (past ++ [m]) n := by
  unfold BorneOut at borne
  cases turn with
  | start stage =>
    rw [stage] at borne
    have silent : ordersOf (.leg n) past = [] := borne
    rw [silent] at orders
    exact ⟨⟨_, orders⟩, Once.last ⟨⟨_, _, given _ rfl⟩, rfl⟩⟩
  | awaitStart stage =>
    have asked : Asked past n l.disk l.startedAt 0 := by
      rcases stage with stage | ⟨b, stage⟩ <;> rw [stage] at borne <;> exact borne
    exact asked.frame (orders.trans (List.append_nil _))
  | running stage =>
    have asked : Asked past n l.disk l.startedAt 0 := by
      rcases stage with stage | ⟨b, stage⟩ <;> rw [stage] at borne <;> exact borne
    exact ⟨0, asked.again orders⟩
  | rested stage =>
    rw [stage] at borne
    obtain ⟨times, asked⟩ := borne
    exact ⟨times, asked.again orders⟩
  | @listed reply jobs entry stage listing found =>
    rw [stage] at borne
    obtain ⟨times, asked⟩ := borne
    have kept : Asked (past ++ [m]) n l.disk l.startedAt (times + 1) :=
      asked.frame (orders.trans (List.append_nil _))
    cases ready : entry.ready with
    | true =>
      have seen : ListsReady l.job past m :=
        ⟨.leg n, reply, jobs, entry, ⟨asked.last, happens⟩, listing, found, ready⟩
      exact ⟨⟨times + 1, kept⟩, Once.last seen⟩
    | false => exact ⟨times + 1, kept⟩
  | complete stage =>
    rw [stage] at borne
    obtain ⟨⟨times, asked⟩, transferred⟩ := borne
    obtain ⟨target, before⟩ := asked.orders
    refine ⟨⟨⟨target, times, ?_⟩, asked.started.append [m]⟩,
      Once.last ⟨given _ rfl, rfl, transferred⟩⟩
    rw [orders, before, List.cons_append]
    rfl
  | @taken v since a stage watched wanted =>
    rw [stage] at borne
    obtain ⟨ordered, requested⟩ := borne
    exact ⟨ordered.frame (orders.trans (List.append_nil _)), since, wanted,
      Once.last ⟨⟨v, ordered.last, happens⟩, watched, requested⟩⟩
  | awaitEnd stage same wanted =>
    rw [stage] at borne
    obtain ⟨ordered, since, before, taken⟩ := borne
    refine ⟨ordered.frame (orders.trans (List.append_nil _)), since, wanted.trans before, ?_⟩
    rw [same]
    exact taken.append [m]
  | @endedAtOnce v since connection e stage watched logged wanted clean =>
    rw [stage] at borne
    obtain ⟨ordered, requested⟩ := borne
    have taken : TakesEnd plan.options.vmName (.leg n) l.job connection since past m :=
      ⟨⟨v, ordered.last, happens⟩, watched, requested⟩
    exact ⟨ordered.frame (orders.trans (List.append_nil _)), .leg n,
      Or.inl (Once.last ⟨connection, since, e, logged, wanted, clean, Once.last taken⟩)⟩
  | @ended _ a e stage logged wanted clean =>
    rw [stage] at borne
    obtain ⟨ordered, since, before, taken⟩ := borne
    rw [before] at wanted
    exact ⟨ordered.frame (orders.trans (List.append_nil _)), .leg n,
      Or.inl (Once.last ⟨a.connection, since, e, logged, wanted, clean, taken.append [m]⟩)⟩
  | @gone since failure connection stage unknown watched sound clean =>
    rw [stage] at borne
    obtain ⟨ordered, requested⟩ := borne
    refine ⟨ordered.frame (orders.trans (List.append_nil _)), .leg n, Or.inr (Once.last
      ⟨failure, connection, l.startedAt, since, ⟨ordered.last, happens⟩, unknown, watched, ?_,
        ordered.started, requested⟩)⟩
    intro e logged
    refine ⟨Bool.eq_false_iff.mpr fun held => ?_, fun held => clean e ?_⟩
    · exact List.not_mem_nil (sound ▸ (EventLog.mem_find_iff _ _ e).mpr ⟨logged, held⟩)
    · exact (EventLog.mem_find_iff _ _ e).mpr ⟨logged, held⟩

/-- The orders that a history bears out are those of a mirror, in turn. -/
theorem BorneOut.inTurn (borne : l.BorneOut plan past n) :
    MirrorOrders l.disk.mirrorJob (ordersOf (.leg n) past) := by
  have asked {times : Nat} (asked : Asked past n l.disk l.startedAt times) :
      MirrorOrders l.disk.mirrorJob (ordersOf (.leg n) past) := by
    obtain ⟨target, orders⟩ := asked.orders
    rw [orders]
    exact .asked _ _ _
  have ordered (ordered : Ordered past n l.disk l.startedAt) :
      MirrorOrders l.disk.mirrorJob (ordersOf (.leg n) past) := by
    obtain ⟨target, times, orders⟩ := ordered.orders
    rw [orders]
    exact .ended _ _ _
  unfold BorneOut at borne
  cases stage : l.stage with
  | toStart =>
    rw [stage] at borne
    have silent : ordersOf (.leg n) past = [] := borne
    rw [silent]
    exact .none
  | starting | awaitingStart => rw [stage] at borne; exact asked borne
  | pausing | listing => rw [stage] at borne; exact asked borne.choose_spec
  | ready | toComplete => rw [stage] at borne; exact asked borne.1.choose_spec
  | completing | awaitingEnd | concluded => rw [stage] at borne; exact ordered borne.1

/-- What a mirror orders is permitted at that moment. -/
theorem BorneOut.permitted {h : Happening} {next : Except ControlError Leg} {order : Option Order}
    {reports : List StatUpdate} {o : Order} (borne : l.BorneOut plan past n)
    (listed : plan.options.disks[n]? = some l.disk)
    (turn : l.Step plan target m.surroundings h ⟨next, order, reports⟩) (given : order = some o) :
    Permitted plan past m (.order (.leg n) o) := by
  cases turn with
  | start => cases given; exact .startMirror _ listed
  | running | rested => cases given; exact .listJobs listed
  | complete stage =>
    cases given
    unfold BorneOut at borne
    rw [stage] at borne
    exact .endMirror listed borne.2
  | awaitStart | listed | taken | awaitEnd | endedAtOnce | ended | gone | fail => cases given

theorem Step.disk {s : Surroundings} {h : Happening} {order : Option Order}
    {reports : List StatUpdate} (turn : l.Step plan target s h ⟨.ok k, order, reports⟩) :
    k.disk = l.disk := by
  cases turn <;> rfl

/-- A mirror that becomes ready orders nothing. -/
theorem Step.silent_of_isReady {s : Surroundings} {h : Happening} {order : Option Order}
    {reports : List StatUpdate} (turn : l.Step plan target s h ⟨.ok k, order, reports⟩)
    (ready : k.isReady = true) : order = none := by
  cases turn with
  | start | running | rested | complete => cases ready
  | awaitStart | listed | taken | awaitEnd | endedAtOnce | ended | gone => rfl

/-- A mirror that is over has ordered nothing in that turn. -/
theorem Step.silent_of_isConcluded {s : Surroundings} {h : Happening} {order : Option Order}
    {reports : List StatUpdate} (turn : l.Step plan target s h ⟨.ok k, order, reports⟩)
    (finished : k.isConcluded = true) : order = none := by
  cases turn with
  | start | running | rested | complete => cases finished
  | awaitStart | listed | taken | awaitEnd | endedAtOnce | ended | gone => rfl

theorem BorneOut.of_isReady (borne : l.BorneOut plan past n) (ready : l.isReady = true) :
    (∃ times, Asked past n l.disk l.startedAt times) ∧
      Once (ListsReady l.disk.mirrorJob) past := by
  rw [isReady] at ready
  split at ready
  · next stage =>
    unfold BorneOut at borne
    rwa [stage] at borne
  · cases ready

theorem BorneOut.of_isConcluded (borne : l.BorneOut plan past n) (finished : l.isConcluded = true) :
    Concluded plan.options.vmName l.disk.mirrorJob past := by
  rw [isConcluded] at finished
  split at finished
  · next stage =>
    unfold BorneOut at borne
    rw [stage] at borne
    exact borne.2
  · cases finished

end Leg

/-! ## The mirrors together -/

/-- The mirrors are those of the disks, and the history bears each of them out. -/
structure Legs (plan : MigrationPlan) (past : History) (legs : List Leg) : Prop where
  disks : legs.map (·.disk) = plan.options.disks
  each : ∀ (n : Nat) (l : Leg), legs[n]? = some l → l.BorneOut plan past n

namespace Legs

variable {plan : MigrationPlan} {target : Endpoint} {past : History} {m : Moment} {n : Nat}
  {legs : List Leg} {l k : Leg} {d : Disk}

theorem listed (all : Legs plan past legs) (found : legs[n]? = some l) :
    plan.options.disks[n]? = some l.disk := by
  rw [← all.disks, List.getElem?_map, found]
  rfl

theorem found (all : Legs plan past legs) (listed : plan.options.disks[n]? = some d) :
    ∃ l, legs[n]? = some l ∧ l.disk = d := by
  rw [← all.disks, List.getElem?_map] at listed
  exact Option.map_eq_some_iff.mp listed

theorem inTurn (all : Legs plan past legs) : MirrorsInTurn plan past := by
  intro n d listed
  obtain ⟨l, found, rfl⟩ := all.found listed
  exact (all.each n l found).inTurn

/-- Mirrors that have not been started. -/
theorem new (stamp : Timestamp) (silent : ∀ n, ordersOf (.leg n) past = []) :
    Legs plan past (plan.options.disks.map (Leg.new stamp)) where
  disks := by
    rw [List.map_map]
    exact List.map_id _
  each n l found := by
    rw [List.getElem?_map] at found
    obtain ⟨d, _, rfl⟩ := Option.map_eq_some_iff.mp found
    exact silent n

theorem frame (all : Legs plan past legs)
    (silent : ∀ n, ordersOf (.leg n) (past ++ [m]) = ordersOf (.leg n) past) :
    Legs plan (past ++ [m]) legs where
  disks := all.disks
  each n l found := (all.each n l found).frame (silent n)

/-- A turn of one mirror. -/
theorem step {h : Happening} {order : Option Order} {reports : List StatUpdate}
    (all : Legs plan past legs) (found : legs[n]? = some l)
    (turn : l.Step plan target m.surroundings h ⟨.ok k, order, reports⟩)
    (happens : m.stimulus = .act (.leg n) h)
    (own : ordersOf (.leg n) (past ++ [m]) = ordersOf (.leg n) past ++ order.toList)
    (given : ∀ o ∈ order, .order (.leg n) o ∈ m.effects)
    (others : ∀ i, i ≠ n → ordersOf (.leg i) (past ++ [m]) = ordersOf (.leg i) past) :
    Legs plan (past ++ [m]) (legs.set n k) where
  disks := by
    rw [List.map_set, turn.disk, ← all.disks]
    refine List.ext_getElem? fun i => ?_
    rw [List.getElem?_set]
    split
    · next same =>
      subst same
      rw [List.getElem?_map, found, List.length_map]
      simp [(List.getElem?_eq_some_iff.mp found).1]
    · rfl
  each i j there := by
    rw [List.getElem?_set] at there
    split at there
    · next same =>
      subst same
      split at there <;> cases there
      exact (all.each n l found).step turn happens own given
    · next apart => exact (all.each i j there).frame (others i fun same => apart same.symm)

/-- A turn of one mirror that gives the order of the moment. -/
theorem turn {h : Happening} {order : Option Order} {reports : List StatUpdate}
    (all : Legs plan past legs) (found : legs[n]? = some l)
    (turn : l.Step plan target m.surroundings h ⟨.ok k, order, reports⟩)
    (happens : m.stimulus = .act (.leg n) h) (gives : m.Gives (order.map (.leg n, ·))) :
    Legs plan (past ++ [m]) (legs.set n k) := by
  refine all.step found turn happens (gives.own nofun) ?_ ?_
  · rintro o rfl
    exact gives.given _ (List.mem_singleton_self _)
  · intro i apart
    refine gives.other nofun ?_
    rintro other o ordered rfl
    obtain ⟨_, _, same⟩ := Option.map_eq_some_iff.mp ordered
    cases same
    exact apart rfl

theorem allReady (all : Legs plan past legs) (ready : ∀ l ∈ legs, l.isReady = true) :
    AllReady plan past := by
  intro d listed
  obtain ⟨n, there⟩ := List.mem_iff_getElem?.mp listed
  obtain ⟨l, found, rfl⟩ := all.found there
  exact ((all.each n l found).of_isReady (ready l (List.mem_of_getElem? found))).2

theorem allConcluded (all : Legs plan past legs) (finished : ∀ l ∈ legs, l.isConcluded = true) :
    ∀ d ∈ plan.options.disks, Concluded plan.options.vmName d.mirrorJob past := by
  intro d listed
  obtain ⟨n, there⟩ := List.mem_iff_getElem?.mp listed
  obtain ⟨l, found, rfl⟩ := all.found there
  exact (all.each n l found).of_isConcluded (finished l (List.mem_of_getElem? found))

/-- Measuring ready mirrors leaves them as they are. -/
theorem measured {s : Surroundings} {jobs : List BlockJob} {measured : List Leg}
    {reports : List StatUpdate} (all : Legs plan past legs) (ready : ∀ l ∈ legs, l.isReady = true)
    (measures : Mirroring.measureAll plan s jobs legs = (.ok measured, reports)) :
    Legs plan past measured ∧ ∀ l ∈ measured, l.isReady = true := by
  obtain ⟨same, each⟩ := Mirroring.measureAll_ok measures
  refine ⟨⟨?_, ?_⟩, ?_⟩
  · rw [← all.disks]
    refine List.ext_getElem? fun n => ?_
    rw [List.getElem?_map, List.getElem?_map]
    cases there : measured[n]? with
    | none =>
      have beyond : legs[n]? = none := by
        rw [List.getElem?_eq_none_iff, ← same]
        exact List.getElem?_eq_none_iff.mp there
      rw [beyond]
    | some k =>
      obtain ⟨l, meter, found, rfl⟩ := each n k there
      rw [found]
      rfl
  · intro n k there
    obtain ⟨l, meter, found, rfl⟩ := each n k there
    exact all.each n l found
  · intro k listed
    obtain ⟨n, there⟩ := List.mem_iff_getElem?.mp listed
    obtain ⟨l, meter, found, rfl⟩ := each n k there
    exact ready l (List.mem_of_getElem? found)

/-- Ready mirrors may be completed when the machine state is on the other side. -/
theorem toComplete (all : Legs plan past legs) (ready : ∀ l ∈ legs, l.isReady = true)
    (transferred : Once TellsCompleted past) :
    Legs plan past (legs.map fun leg => { leg with stage := .toComplete }) where
  disks := by
    rw [← all.disks, List.map_map]
    rfl
  each n k there := by
    rw [List.getElem?_map] at there
    obtain ⟨l, found, rfl⟩ := Option.map_eq_some_iff.mp there
    obtain ⟨asked, _⟩ := (all.each n l found).of_isReady (ready l (List.mem_of_getElem? found))
    exact ⟨asked, transferred⟩

end Legs

namespace Mirroring

/-- The history bears out how far the mirrors have come. -/
def BorneOut (plan : MigrationPlan) (past : History) : Mirroring → Prop
  | .syncing legs => Legs plan past legs
  | .listing legs | .resting legs _ => Legs plan past legs ∧ ∀ l ∈ legs, l.isReady = true
  | .completing legs => Legs plan past legs ∧ AllReady plan past
  | .ended (.ok ()) => MirrorsInTurn plan past ∧ AllReady plan past ∧
      ∀ d ∈ plan.options.disks, Concluded plan.options.vmName d.mirrorJob past
  | .ended (.error _) => MirrorsInTurn plan past

variable {plan : MigrationPlan} {target : Endpoint} {past : History} {m : Moment}
  {g next : Mirroring} {migrated : Gate} {part : Part} {h : Happening}
  {order : Option (Part × Order)} {reports : List StatUpdate}

theorem BorneOut.inTurn (borne : g.BorneOut plan past) : MirrorsInTurn plan past := by
  rcases g with legs | legs | legs | legs | ⟨e | _⟩
  · exact Legs.inTurn borne
  · exact borne.1.inTurn
  · exact borne.1.inTurn
  · exact borne.1.inTurn
  · exact borne
  · exact borne.1

/-- Mirrors that have all been ready were listed so. -/
theorem BorneOut.allReady (borne : g.BorneOut plan past) (synced : g.isSynced = true) :
    AllReady plan past := by
  rcases g with legs | legs | legs | legs | ⟨e | _⟩
  · cases synced
  · exact borne.1.allReady borne.2
  · exact borne.1.allReady borne.2
  · exact borne.2
  · cases synced
  · exact borne.2.1

/-- What other parts do does not touch the mirrors. -/
theorem BorneOut.frame (borne : g.BorneOut plan past)
    (silent : ∀ n, ordersOf (.leg n) (past ++ [m]) = ordersOf (.leg n) past) :
    g.BorneOut plan (past ++ [m]) := by
  rcases g with legs | legs | legs | legs | ⟨e | _⟩
  · exact Legs.frame borne silent
  · exact ⟨borne.1.frame silent, borne.2⟩
  · exact ⟨borne.1.frame silent, borne.2⟩
  · exact ⟨borne.1.frame silent, borne.2.append [m]⟩
  · exact MirrorsInTurn.frame borne silent
  · obtain ⟨inTurn, ready, finished⟩ := borne
    exact ⟨inTurn.frame silent, ready.append [m], fun d listed => (finished d listed).append [m]⟩

/-- A turn of the mirrors keeps what the history bears out of them. -/
theorem BorneOut.step (borne : g.BorneOut plan past)
    (turn : g.Step plan target m.surroundings migrated part h ⟨.ok next, order, reports⟩)
    (happens : m.stimulus = .act part h) (gives : m.Gives order)
    (transferred : migrated.isOpen = true → Once TellsCompleted past) :
    next.BorneOut plan (past ++ [m]) := by
  cases turn with
  | syncing found turn => exact Legs.turn borne found turn happens gives
  | synced found turn ready =>
    have here := List.mem_set (List.getElem?_eq_some_iff.mp found).1
    -- The order of this turn is that of the watch: the mirror itself has none left.
    obtain rfl := turn.silent_of_isReady (ready _ (here _))
    have kept (i : Nat) : ordersOf (.leg i) (past ++ [m]) = ordersOf (.leg i) past := by
      refine gives.other nofun ?_
      rintro other o ⟨⟩
      exact nofun
    refine ⟨Legs.step borne found turn happens ?_ nofun fun i _ => kept i, ready⟩
    exact (kept _).trans (List.append_nil _).symm
  | measured listing all =>
    obtain ⟨legs, ready⟩ := borne
    exact (legs.frame fun n => gives.other nofun nofun).measured ready all
  | migrated passed =>
    obtain ⟨legs, ready⟩ := borne
    have kept := legs.frame fun n => gives.other nofun nofun
    exact ⟨kept.toComplete ready ((transferred passed).append [m]), kept.allReady ready⟩
  | poll =>
    obtain ⟨legs, ready⟩ := borne
    refine ⟨legs.frame fun n => gives.other nofun ?_, ready⟩
    rintro other o ⟨⟩
    exact nofun
  | completing found turn =>
    obtain ⟨legs, ready⟩ := borne
    exact ⟨legs.turn found turn happens gives, ready.append [m]⟩
  | ended found turn finished =>
    obtain ⟨legs, ready⟩ := borne
    have after := legs.turn found turn happens gives
    exact ⟨after.inTurn, ready.append [m], after.allConcluded finished⟩

/-- What a mirror orders in a turn of the mirrors is permitted at that moment. -/
theorem BorneOut.permitted {outcome : Except ControlError Mirroring} (borne : g.BorneOut plan past)
    (disks : plan.options.disks ≠ [])
    (turn : g.Step plan target m.surroundings migrated part h ⟨outcome, order, reports⟩) :
    ∀ e ∈ turnEffects order, Permitted plan past m e := by
  have single {legs : List Leg} {n : Nat} {l : Leg} {next : Except ControlError Leg}
      {order : Option Order} {reports : List StatUpdate} (all : Legs plan past legs)
      (found : legs[n]? = some l)
      (turn : l.Step plan target m.surroundings h ⟨next, order, reports⟩) :
      ∀ e ∈ turnEffects (order.map (.leg n, ·)), Permitted plan past m e := by
    intro e given
    cases order with
    | none => cases given
    | some o =>
      obtain rfl := List.mem_singleton.mp given
      exact (all.each n l found).permitted (all.listed found) turn rfl
  cases turn with
  | syncing found turn => exact single borne found turn
  | completing found turn | ended found turn => exact single borne.1 found turn
  | synced | poll =>
    intro e given
    obtain rfl := List.mem_singleton.mp given
    exact .watch disks
  | measured | migrated | fail =>
    intro e given
    cases given

/-- The turn that ends the mirrors orders nothing. -/
theorem Step.silent_of_over {s : Surroundings} {outcome : Except ControlError Mirroring}
    (turn : g.Step plan target s migrated part h ⟨outcome, order, reports⟩)
    (ends : ∀ g, outcome = .ok g → g.outcome?.isSome = true) : order = none := by
  cases turn with
  | ended found turn finished =>
    have here := List.mem_set (List.getElem?_eq_some_iff.mp found).1
    rw [turn.silent_of_isConcluded (finished _ (here _))]
    rfl
  | syncing | synced | poll | completing => exact nomatch ends _ rfl
  | measured | migrated | fail => rfl

/-- The mirrors give no order on behalf of anyone else. -/
theorem Step.order_part {s : Surroundings} {outcome : Except ControlError Mirroring} {other : Part}
    {o : Order} (turn : g.Step plan target s migrated part h ⟨outcome, order, reports⟩)
    (given : order = some (other, o)) : other ≠ .transfer := by
  cases turn with
  | syncing | completing | ended =>
    obtain ⟨_, _, same⟩ := Option.map_eq_some_iff.mp given
    cases same
    exact nofun
  | synced | poll => cases given; exact nofun
  | measured | migrated | fail => cases given

theorem eq_ended {outcome : Except ControlError Unit} (finished : g.outcome? = some outcome) :
    g = .ended outcome := by
  cases g <;> cases finished
  rfl

end Mirroring

end VmControl
