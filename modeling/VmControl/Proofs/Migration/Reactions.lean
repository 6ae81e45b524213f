import VmControl.Migration.Phases
import VmControl.Proofs.Waits

/-!
# What the parts of a migration can do

Every turn of a mirror, of the transfer and of the mirrors together, with the condition under which
it is taken and all that it brings about. Later proofs go through these cases (`Leg.react?_cases`,
`Transfer.react?_cases`, `Mirroring.react?_cases`, `Phases.react?_cases`) and never look into the
reactions themselves.
-/

namespace VmControl

/-- Only an open gate lets a waiter pass. -/
theorem Gate.isOpen_of_look {g : Gate} {cancelled : Bool} (h : g.look cancelled = some (.ok ())) :
    g.isOpen = true := by
  rw [look] at h
  split at h
  · next passed => exact passed
  · split at h <;> cases h

/-- Whether an update only tells how far a task has come. -/
def StatUpdate.isProgress : StatUpdate → Bool
  | .state _ | .disk .. => true
  | .status _ | .error _ => false

/-! ## One mirror -/

namespace Leg

/-- The mirror at another stage. -/
def goTo (l : Leg) (stage : LegStage) : Leg := { l with stage := stage }

/-- The turns of a mirror. -/
inductive Step (plan : MigrationPlan) (target : Endpoint) (s : Surroundings) (l : Leg) :
    Happening → Reaction Leg → Prop
  | start (stage : l.stage = .toStart) : Step plan target s l .enter (l.start plan target s)
  | awaitStart {h : Happening} {a : Await}
      (stage : l.stage = .starting ∨ ∃ b, l.stage = .awaitingStart b) :
      Step plan target s l h (.stay (l.goTo (.awaitingStart a)))
  | running {h : Happening} (stage : l.stage = .starting ∨ ∃ b, l.stage = .awaitingStart b) :
      Step plan target s l h l.list
  | rested {h : Happening} {p : Pause} (stage : l.stage = .pausing p) :
      Step plan target s l h l.list
  | listed {reply : Json} {jobs : List BlockJob} {entry : BlockJob} (stage : l.stage = .listing)
      (listing :
        Reply.interpret Order.queryBlockJobs.command.name BlockJob.listing reply = .ok jobs)
      (found : BlockJob.find? jobs l.job = some entry) :
      Step plan target s l (.reply (.ok reply))
        ⟨.ok ((l.measure s entry).1.goTo
          (if entry.ready then .ready else .pausing (.begin s plan.config.pollInterval))),
          none, [(l.measure s entry).2]⟩
  | complete (stage : l.stage = .toComplete) : Step plan target s l .enter (l.complete s)
  | taken {v : Json} {since : Timestamp} {a : Await} (stage : l.stage = .completing since)
      (watched : s.registry.find plan.options.vmName = .ok a.connection)
      (wanted : a.waiter.wanted = l.wants Event.blockJobCompleted since) :
      Step plan target s l (.reply (.ok v)) (.stay (l.goTo (.awaitingEnd a)))
  | awaitEnd {h : Happening} {a b : Await} (stage : l.stage = .awaitingEnd a)
      (same : b.connection = a.connection) (wanted : b.waiter.wanted = a.waiter.wanted) :
      Step plan target s l h (.stay (l.goTo (.awaitingEnd b)))
  | endedAtOnce {v : Json} {since : Timestamp} {connection : Nat} {e : Event}
      (stage : l.stage = .completing since)
      (watched : s.registry.find plan.options.vmName = .ok connection)
      (logged : e ∈ (s.log connection).events)
      (wanted : (l.wants Event.blockJobCompleted since).holds e = true)
      (clean : e.text? "error" = none) : Step plan target s l (.reply (.ok v)) l.conclude
  | ended {h : Happening} {a : Await} {e : Event} (stage : l.stage = .awaitingEnd a)
      (logged : e ∈ (s.log a.connection).events) (wanted : a.waiter.wanted.holds e = true)
      (clean : e.text? "error" = none) : Step plan target s l h l.conclude
  | gone {since : Timestamp} {failure : ControlError} {connection : Nat}
      (stage : l.stage = .completing since) (unknown : failure.isJobNotFound = true)
      (watched : s.registry.find plan.options.vmName = .ok connection)
      (sound : (s.log connection).find (l.wants Event.blockJobError l.startedAt) = [])
      (clean : ∀ e ∈ (s.log connection).find (l.wants Event.blockJobCompleted l.startedAt),
        e.text? "error" = none) :
      Step plan target s l (.reply (.error failure)) l.conclude
  | fail {h : Happening} (e : ControlError) : Step plan target s l h (.fail e)

variable {plan : MigrationPlan} {target : Endpoint} {s : Surroundings} {l : Leg}

theorem Step.of_started {answer : Except ControlError Json} (stage : l.stage = .starting) :
    Step plan target s l (.reply answer) (l.onStarted plan s answer) := by
  cases answer with
  | error e => exact .fail _
  | ok v =>
    simp only [onStarted]
    split
    · exact .awaitStart (Or.inl stage)
    · next outcome _ =>
      cases outcome with
      | ok e => exact .running (Or.inl stage)
      | error e => exact .fail e

theorem Step.of_listing {answer : Except ControlError Json} (stage : l.stage = .listing) :
    Step plan target s l (.reply answer) (l.onListing plan s answer) := by
  cases answer with
  | error e => exact .fail e
  | ok reply =>
    simp only [onListing, Except.bind]
    split
    · exact .fail _
    · next jobs listing =>
      split
      · exact .fail _
      · next entry found => exact .listed stage listing found

theorem Step.of_ended {h : Happening} {outcome : Except ControlError Event}
    (finished : ∀ e, outcome = .ok e → e.text? "error" = none → Step plan target s l h l.conclude) :
    Step plan target s l h (l.onEnded outcome) := by
  cases outcome with
  | error e => exact .fail e
  | ok e =>
    simp only [onEnded]
    split
    · exact .fail _
    · next clean => exact finished e rfl clean

theorem Step.of_gone {since : Timestamp} {failure : ControlError}
    (stage : l.stage = .completing since) (unknown : failure.isJobNotFound = true) :
    Step plan target s l (.reply (.error failure)) (l.onGone plan s) := by
  cases watched : s.registry.find plan.options.vmName with
  | error e =>
    simp only [onGone, Surroundings.find, watched, Except.map]
    exact .fail e
  | ok connection =>
    simp only [onGone, Surroundings.find, watched, Except.map]
    split
    · next impossible => cases impossible
    · exact .fail _
    · next sound =>
      split
      · exact .fail _
      · next clean =>
        refine .gone stage unknown watched (Except.ok.inj sound) ?_
        intro e found
        exact List.findSome?_eq_none_iff.mp clean e found

theorem Step.of_completed {since : Timestamp} {answer : Except ControlError Json}
    (stage : l.stage = .completing since) :
    Step plan target s l (.reply answer) (l.onCompleted plan s since answer) := by
  cases answer with
  | error e =>
    simp only [onCompleted]
    split
    · next unknown => exact .of_gone stage unknown
    · exact .fail _
  | ok v =>
    simp only [onCompleted]
    split
    · next a waits =>
      obtain ⟨watched, wanted⟩ := Await.begin_waits waits
      exact .taken stage watched wanted
    · next outcome finished =>
      refine .of_ended ?_
      rintro e rfl clean
      obtain ⟨connection, watched, logged, wanted⟩ := Await.begin_over_ok finished
      exact .endedAtOnce stage watched logged wanted clean

/-- Every turn of a mirror is one of those listed. -/
theorem react?_cases {cancelled : Bool} {h : Happening} {t : Reaction Leg}
    (react : l.react? plan target s cancelled h = some t) : Step plan target s l h t := by
  unfold react? at react
  split at react
  · next stage => cases react; exact .start stage
  · next stage => cases react; exact .of_started stage
  · next a w stage =>
    obtain ⟨result, _, rfl⟩ := Option.map_eq_some_iff.mp react
    rcases result with b | ⟨e | v⟩
    · exact .awaitStart (Or.inr ⟨a, stage⟩)
    · exact .fail e
    · exact .running (Or.inr ⟨a, stage⟩)
  · next stage => cases react; exact .of_listing stage
  · next p w stage =>
    obtain ⟨result, _, rfl⟩ := Option.map_eq_some_iff.mp react
    rcases result with e | v
    · exact .fail e
    · exact .rested stage
  · next stage => cases react; exact .complete stage
  · next since stage => cases react; exact .of_completed stage
  · next a w stage =>
    obtain ⟨result, wakes, rfl⟩ := Option.map_eq_some_iff.mp react
    rcases result with b | outcome
    · obtain ⟨same, wanted⟩ := Await.wake_waits wakes
      exact .awaitEnd stage same wanted
    · refine .of_ended ?_
      rintro e rfl clean
      obtain ⟨logged, wanted⟩ := Await.wake_over_ok wakes
      exact .ended stage logged wanted clean
  · cases react

/-- A mirror reports nothing but progress. -/
theorem Step.progress {h : Happening} {t : Reaction Leg} (step : Step plan target s l h t) :
    ∀ u ∈ t.reports, u.isProgress = true := by
  intro u sent
  cases step with
  | start | awaitStart | running | rested | complete | taken | awaitEnd | fail => cases sent
  | listed | endedAtOnce | ended | gone =>
    obtain rfl := List.mem_singleton.mp sent
    rfl

/-- A mirror that fails wants nothing done and has nothing to report. -/
theorem Step.eq_fail {h : Happening} {e : ControlError} {order : Option Order}
    {reports : List StatUpdate} (step : Step plan target s l h ⟨.error e, order, reports⟩) :
    order = none ∧ reports = [] := by
  cases step with
  | fail => exact ⟨rfl, rfl⟩

end Leg

/-! ## The transfer -/

namespace Transfer

/-- The turns of the transfer. -/
inductive Step (plan : MigrationPlan) (target : Endpoint) (s : Surroundings) (ready : Gate) :
    Transfer → Happening → Reaction Transfer → Prop
  | setCapabilities (passed : ready.isOpen = true) :
      Step plan target s ready .blocked .enter (.ask .settingCapabilities .setCapabilities)
  | setParameters {v : Json} :
      Step plan target s ready .settingCapabilities (.reply (.ok v))
        (.ask .settingParameters (.setParameters plan.config.maxBandwidth plan.config.cacheSize))
  | migrate {v : Json} :
      Step plan target s ready .settingParameters (.reply (.ok v))
        (.ask .starting (.migrate ("tcp:" ++ target.text)))
  | started {v : Json} :
      Step plan target s ready .starting (.reply (.ok v)) (.stay (rest plan s .new))
  | query {meter : Meter} {p : Pause} {h : Happening} :
      Step plan target s ready (.resting meter p) h (.ask (.asking meter) .queryMigrate)
  | completed {meter : Meter} {reply : Json} {info : MigrationInfo}
      (told :
        Reply.interpret Order.queryMigrate.command.name MigrationInfo.ofDraft reply = .ok info)
      (status : info.status = some "completed") :
      Step plan target s ready (.asking meter) (.reply (.ok reply))
        ⟨.ok (.ended (.ok ())), none,
          [.state (.done (max (info.ram.getD .zero).total (info.ram.getD .zero).transferred))]⟩
  | goesOn {meter next : Meter} {reply : Json} {info : MigrationInfo} {speed : UInt64}
      (told :
        Reply.interpret Order.queryMigrate.command.name MigrationInfo.ofDraft reply = .ok info)
      (sampled : meter.sample (info.ram.getD .zero).transferred s.now = (speed, next)) :
      Step plan target s ready (.asking meter) (.reply (.ok reply))
        ⟨.ok (rest plan s next), none,
          [.state ((Progress.ofCounters (info.ram.getD .zero).total
            (info.ram.getD .zero).transferred).withSpeed speed)]⟩
  | fail {t : Transfer} {h : Happening} (e : ControlError) : Step plan target s ready t h (.fail e)

variable {plan : MigrationPlan} {target : Endpoint} {s : Surroundings} {ready : Gate}

theorem Step.of_progress {meter : Meter} {reply : Json} {info : MigrationInfo}
    (told :
      Reply.interpret Order.queryMigrate.command.name MigrationInfo.ofDraft reply = .ok info) :
    Step plan target s ready (.asking meter) (.reply (.ok reply))
      (onProgress plan s meter info) := by
  simp only [onProgress]
  split
  · next status => exact .completed told status
  · exact .fail _
  · exact .fail _
  · exact .goesOn told rfl

theorem Step.of_answer {meter : Meter} {answer : Except ControlError Json} :
    Step plan target s ready (.asking meter) (.reply answer) (onAnswer plan s meter answer) := by
  cases answer with
  | error e => exact .fail e
  | ok reply =>
    simp only [onAnswer, Except.bind]
    split
    · exact .fail _
    · next info told => exact .of_progress told

/-- Every turn of the transfer is one of those listed. -/
theorem react?_cases {cancelled : Bool} {t : Transfer} {h : Happening} {r : Reaction Transfer}
    (react : t.react? plan target s cancelled ready h = some r) :
    Step plan target s ready t h r := by
  unfold react? at react
  split at react
  · obtain ⟨look, looks, rfl⟩ := Option.map_eq_some_iff.mp react
    rcases look with e | _
    · exact .fail e
    · exact .setCapabilities (Gate.isOpen_of_look looks)
  · next answer =>
    cases react
    cases answer with
    | error e => exact .fail e
    | ok v => exact .setParameters
  · next answer =>
    cases react
    cases answer with
    | error e => exact .fail e
    | ok v => exact .migrate
  · cases react; exact .started
  · next e => cases react; exact .fail e
  · obtain ⟨result, _, rfl⟩ := Option.map_eq_some_iff.mp react
    rcases result with e | _
    · exact .fail e
    · exact .query
  · cases react; exact .of_answer
  · cases react

/-- The transfer reports nothing but progress. -/
theorem Step.progress {t : Transfer} {h : Happening} {r : Reaction Transfer}
    (step : Step plan target s ready t h r) : ∀ u ∈ r.reports, u.isProgress = true := by
  intro u sent
  cases step with
  | setCapabilities | setParameters | migrate | started | query | fail => cases sent
  | completed | goesOn =>
    obtain rfl := List.mem_singleton.mp sent
    rfl

end Transfer

/-! ## The mirrors together -/

namespace Mirroring

/-- Measuring mirrors changes nothing but what is known of their speed. -/
theorem measureAll_ok {plan : MigrationPlan} {s : Surroundings} {jobs : List BlockJob} :
    ∀ {legs measured : List Leg} {reports : List StatUpdate},
      measureAll plan s jobs legs = (.ok measured, reports) →
      measured.length = legs.length ∧ ∀ (n : Nat) (k : Leg), measured[n]? = some k →
        ∃ l meter, legs[n]? = some l ∧ k = { l with meter := meter } := by
  intro legs
  induction legs with
  | nil =>
    intro measured reports h
    cases h
    exact ⟨rfl, fun n k listed => by simp at listed⟩
  | cons leg rest ih =>
    intro measured reports h
    simp only [measureAll] at h
    split at h
    · cases h
    · next entry found =>
      rcases others : measureAll plan s jobs rest with ⟨_ | tail, later⟩
      · rw [others] at h
        cases h
      · rw [others] at h
        cases h
        obtain ⟨same, each⟩ := ih others
        refine ⟨by rw [List.length_cons, List.length_cons, same], ?_⟩
        intro n k listed
        cases n with
        | zero =>
          cases listed
          exact ⟨leg, _, rfl, rfl⟩
        | succ n => exact each n k listed

/-- Measuring mirrors reports nothing but progress. -/
theorem measureAll_reports {plan : MigrationPlan} {s : Surroundings} {jobs : List BlockJob}
    {legs : List Leg} {u : StatUpdate} (sent : u ∈ (measureAll plan s jobs legs).2) :
    u.isProgress = true := by
  induction legs with
  | nil => cases sent
  | cons leg rest ih =>
    simp only [measureAll] at sent
    split at sent
    · cases sent
    · rcases List.mem_cons.mp sent with rfl | later
      · rfl
      · exact ih later

/-- The turns of the mirrors. -/
inductive Step (plan : MigrationPlan) (target : Endpoint) (s : Surroundings) (migrated : Gate) :
    Mirroring → Part → Happening → MirrorTurn → Prop
  | syncing {legs : List Leg} {n : Nat} {l k : Leg} {h : Happening} {order : Option Order}
      {reports : List StatUpdate} (found : legs[n]? = some l)
      (turn : l.Step plan target s h ⟨.ok k, order, reports⟩) :
      Step plan target s migrated (.syncing legs) (.leg n) h
        ⟨.ok (.syncing (legs.set n k)), order.map (.leg n, ·), reports⟩
  | synced {legs : List Leg} {n : Nat} {l k : Leg} {h : Happening} {order : Option Order}
      {reports : List StatUpdate} (found : legs[n]? = some l)
      (turn : l.Step plan target s h ⟨.ok k, order, reports⟩)
      (ready : ∀ l ∈ legs.set n k, l.isReady = true) :
      Step plan target s migrated (.syncing legs) (.leg n) h
        ⟨.ok (.listing (legs.set n k)), some (.watch, .queryBlockJobs), reports⟩
  | measured {legs measured : List Leg} {reply : Json} {jobs : List BlockJob}
      {reports : List StatUpdate}
      (listing :
        Reply.interpret Order.queryBlockJobs.command.name BlockJob.listing reply = .ok jobs)
      (all : measureAll plan s jobs legs = (.ok measured, reports)) :
      Step plan target s migrated (.listing legs) .watch (.reply (.ok reply))
        ⟨.ok (.resting measured (.begin s plan.config.pollInterval)), none, reports⟩
  | migrated {legs : List Leg} {p : Pause} (passed : migrated.isOpen = true) :
      Step plan target s migrated (.resting legs p) .watch .enter
        ⟨.ok (.completing (legs.map fun leg => { leg with stage := .toComplete })), none, []⟩
  | poll {legs : List Leg} {p : Pause} {h : Happening} :
      Step plan target s migrated (.resting legs p) .watch h
        ⟨.ok (.listing legs), some (.watch, .queryBlockJobs), []⟩
  | completing {legs : List Leg} {n : Nat} {l k : Leg} {h : Happening} {order : Option Order}
      {reports : List StatUpdate} (found : legs[n]? = some l)
      (turn : l.Step plan target s h ⟨.ok k, order, reports⟩) :
      Step plan target s migrated (.completing legs) (.leg n) h
        ⟨.ok (.completing (legs.set n k)), order.map (.leg n, ·), reports⟩
  | ended {legs : List Leg} {n : Nat} {l k : Leg} {h : Happening} {order : Option Order}
      {reports : List StatUpdate} (found : legs[n]? = some l)
      (turn : l.Step plan target s h ⟨.ok k, order, reports⟩)
      (finished : ∀ l ∈ legs.set n k, l.isConcluded = true) :
      Step plan target s migrated (.completing legs) (.leg n) h
        ⟨.ok (.ended (.ok ())), order.map (.leg n, ·), reports⟩
  | fail {m : Mirroring} {part : Part} {h : Happening} (e : ControlError)
      {reports : List StatUpdate}
      (progress : ∀ u ∈ reports, u.isProgress = true) :
      Step plan target s migrated m part h ⟨.error e, none, reports⟩

variable {plan : MigrationPlan} {target : Endpoint} {s : Surroundings} {migrated : Gate}

theorem Step.of_advance {legs : List Leg} {n : Nat} {l : Leg} {h : Happening} {r : Reaction Leg}
    (found : legs[n]? = some l) (turn : l.Step plan target s h r) :
    Step plan target s migrated (.syncing legs) (.leg n) h (advance legs n r) := by
  obtain ⟨e | k, order, reports⟩ := r
  · obtain ⟨rfl, rfl⟩ := turn.eq_fail
    exact .fail e fun u sent => by cases sent
  · simp only [advance]
    split
    · next ready => exact .synced found turn (List.all_eq_true.mp ready)
    · exact .syncing found turn

theorem Step.of_settle {legs : List Leg} {n : Nat} {l : Leg} {h : Happening} {r : Reaction Leg}
    (found : legs[n]? = some l) (turn : l.Step plan target s h r) :
    Step plan target s migrated (.completing legs) (.leg n) h (settle legs n r) := by
  obtain ⟨e | k, order, reports⟩ := r
  · obtain ⟨rfl, rfl⟩ := turn.eq_fail
    exact .fail e fun u sent => by cases sent
  · simp only [settle, Turn.map, Turn.mapOrder, Except.map]
    split
    · next finished => exact .ended found turn (List.all_eq_true.mp finished)
    · exact .completing found turn

theorem Step.of_listing {legs : List Leg} {answer : Except ControlError Json} :
    Step plan target s migrated (.listing legs) .watch (.reply answer)
      (onListing plan s legs answer) := by
  cases answer with
  | error e => exact .fail e fun u sent => by cases sent
  | ok reply =>
    simp only [onListing, Except.bind]
    split
    · exact .fail _ fun u sent => by cases sent
    · next jobs listing =>
      rcases all : measureAll plan s jobs legs with ⟨e | measured, reports⟩
      · refine .fail e fun u sent => ?_
        have reported : u ∈ (measureAll plan s jobs legs).2 := by rw [all]; exact sent
        exact measureAll_reports reported
      · exact .measured listing all

/-- Every turn of the mirrors is one of those listed. -/
theorem react?_cases {cancelled : Bool} {m : Mirroring} {part : Part} {h : Happening}
    {t : MirrorTurn} (react : m.react? plan target s cancelled migrated part h = some t) :
    Step plan target s migrated m part h t := by
  unfold react? at react
  split at react
  · split at react
    · next leg found =>
      obtain ⟨r, turn, rfl⟩ := Option.map_eq_some_iff.mp react
      exact .of_advance found (Leg.react?_cases turn)
    · cases react
  · split at react
    · cases react; exact .of_listing
    · cases react
  · split at react
    · obtain ⟨look, looks, rfl⟩ := Option.map_eq_some_iff.mp react
      rcases look with e | _
      · exact .fail e fun u sent => by cases sent
      · exact .migrated (Gate.isOpen_of_look looks)
    · split at react <;> cases react
      exact .poll
    · cases react
  · split at react
    · next leg found =>
      obtain ⟨r, turn, rfl⟩ := Option.map_eq_some_iff.mp react
      exact .of_settle found (Leg.react?_cases turn)
    · cases react
  · cases react

/-- The mirrors report nothing but progress. -/
theorem Step.progress {m : Mirroring} {part : Part} {h : Happening} {t : MirrorTurn}
    (step : Step plan target s migrated m part h t) : ∀ u ∈ t.reports, u.isProgress = true := by
  cases step with
  | syncing _ turn | synced _ turn | completing _ turn | ended _ turn => exact turn.progress
  | @measured legs _ _ jobs _ _ all =>
    intro u sent
    have reported : u ∈ (measureAll plan s jobs legs).2 := by rw [all]; exact sent
    exact measureAll_reports reported
  | migrated | poll => exact nofun
  | fail _ progress => exact progress

end Mirroring

/-! ## Both phases -/

namespace Phases

/-- The turns of the phases. -/
inductive Step (plan : MigrationPlan) (s : Surroundings) (p : Phases) :
    Part → Happening → PhaseTurn → Prop
  | transfer {h : Happening} {next : Except ControlError Transfer} {order : Option Order}
      {reports : List StatUpdate}
      (turn : Transfer.Step plan p.incoming s p.disksReady p.transfer h ⟨next, order, reports⟩) :
      Step plan s p .transfer h ⟨p.afterTransfer next, order.map (.transfer, ·), reports⟩
  | mirrors {target : Endpoint} {part : Part} {h : Happening} {next : Except ControlError Mirroring}
      {order : Option (Part × Order)} {reports : List StatUpdate}
      (offered : p.offered = some target)
      (turn : p.mirroring.Step plan target s p.migrated part h ⟨next, order, reports⟩) :
      Step plan s p part h ⟨p.afterMirror next, order, reports⟩

variable {plan : MigrationPlan} {s : Surroundings} {p : Phases} {part : Part} {h : Happening}
  {t : PhaseTurn}

/-- Every turn of the phases is one of those listed. -/
theorem react?_cases {cancelled : Bool} (react : p.react? plan s cancelled part h = some t) :
    p.Step plan s part h t := by
  unfold react? at react
  split at react
  · obtain ⟨r, turn, rfl⟩ := Option.map_eq_some_iff.mp react
    exact .transfer (Transfer.react?_cases turn)
  · split at react
    · next target offered =>
      obtain ⟨r, turn, rfl⟩ := Option.map_eq_some_iff.mp react
      exact .mirrors offered (Mirroring.react?_cases turn)
    · cases react

/-- The phases report nothing but progress. -/
theorem Step.progress (turn : p.Step plan s part h t) : ∀ u ∈ t.reports, u.isProgress = true := by
  cases turn with
  | transfer turn => exact turn.progress
  | mirrors offered turn => exact turn.progress

end Phases

end VmControl
