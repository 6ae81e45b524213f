import VmControl.Proofs.Progress
import VmControl.Proofs.Task.Life

/-!
# What a task reports

The parts of a task only send updates. Every progress that is sent adds up (`StatUpdate.Fair`),
whatever counters the monitor has told. Of the status a task tells twice: that it is at work, with
the first update of all, and how it has ended, with the last one (`Chapter`, `Chapter.Tells`).

* `MigrationRun.act?_sends`, `CopyRun.act?_sends`: what an act sends.
* `Work.Evolves`: what a step does to the statistics and to the updates that are left
  (`Work.Step.evolves`).
-/

namespace VmControl

namespace StatUpdate

/-- A progress that is sent adds up. -/
def Fair : StatUpdate → Prop
  | .state p | .disk _ p => p.Fair
  | .status _ | .error _ => True

/-- The status that an update tells. -/
def status? : StatUpdate → Option TaskStatus
  | .status told => some told
  | _ => none

theorem status?_of_isProgress {u : StatUpdate} (progress : u.isProgress = true) :
    u.status? = none := by
  cases u with
  | state | disk | error => rfl
  | status => cases progress

end StatUpdate

/-! ## The chapters of a task -/

/-- How much a task has told of its status. -/
inductive Chapter where
  /-- Nothing yet. -/
  | opening
  /-- That it is at work. -/
  | working
  /-- How it has ended. -/
  | told

namespace Chapter

/-- What a step tells of the status. -/
inductive Tells (working : TaskStatus) : Chapter → List TaskStatus → Chapter → Prop
  | nothing (c : Chapter) : Tells working c [] c
  | begins : Tells working .opening [working] .working
  | ends {final : TaskStatus} (terminal : final.isTerminal = true) :
      Tells working .working [final] .told

/-- All that a task has told of its status when it has come to a chapter. -/
inductive Script (working : TaskStatus) : Chapter → List TaskStatus → Prop
  | opening : Script working .opening [.starting]
  | working : Script working .working [.starting, working]
  | told {final : TaskStatus} (terminal : final.isTerminal = true) :
      Script working .told [.starting, working, final]

variable {working : TaskStatus} {c d : Chapter} {told news : List TaskStatus}

theorem Script.tell (script : Script working c told) (tells : Tells working c news d) :
    Script working d (told ++ news) := by
  cases tells with
  | nothing =>
    rw [List.append_nil]
    exact script
  | begins =>
    cases script
    exact .working
  | ends terminal =>
    cases script
    exact .told terminal

theorem Script.isPrefix (script : Script working c told) :
    ∃ final : TaskStatus, final.isTerminal = true ∧ told <+: [.starting, working, final] := by
  cases script with
  | opening => exact ⟨.completed, rfl, [working, .completed], rfl⟩
  | working => exact ⟨.completed, rfl, [.completed], rfl⟩
  | @told final terminal => exact ⟨final, terminal, [], rfl⟩

/-- Only the last word is of an end, and no word is said twice in a row. -/
theorem Script.next {said rest : List TaskStatus} {status next : TaskStatus}
    (script : Script working c (said ++ status :: next :: rest))
    (going : working.isTerminal = false) (begun : working ≠ .starting) :
    status.isTerminal = false ∧ status ≠ next := by
  generalize all : said ++ status :: next :: rest = told at script
  cases script with
  | opening =>
    rcases said with _ | ⟨first, _ | ⟨second, said⟩⟩ <;> simp at all
  | working =>
    rcases said with _ | ⟨first, _ | ⟨second, said⟩⟩ <;> simp at all
    obtain ⟨rfl, rfl, -⟩ := all
    exact ⟨rfl, begun.symm⟩
  | @told final terminal =>
    rcases said with _ | ⟨first, _ | ⟨second, _ | ⟨third, said⟩⟩⟩ <;> simp at all
    · obtain ⟨rfl, rfl, -⟩ := all
      exact ⟨rfl, begun.symm⟩
    · obtain ⟨-, rfl, rfl, -⟩ := all
      refine ⟨going, fun same => ?_⟩
      rw [← same, going] at terminal
      cases terminal

end Chapter

def RunStage.chapter : RunStage → Chapter
  | .fresh => .opening
  | .quitting | .closing _ => .told
  | _ => .working

def CopyStage.chapter : CopyStage → Chapter
  | .fresh => .opening
  | .closing _ => .told
  | _ => .working

/-- What a step sends when it leads from an account to another one. -/
structure Account.Sends {α : Type} (working : TaskStatus) (c d : Chapter) (a b : Account α)
    (updates : List StatUpdate) : Prop where
  account : b = a.report updates
  fair : ∀ u ∈ updates, u.Fair
  tells : c.Tells working (updates.filterMap StatUpdate.status?) d

namespace Account.Sends

variable {α : Type} {working : TaskStatus} {c : Chapter} {a b : Account α}
  {updates : List StatUpdate}

theorem silent (same : b = a) : Sends working c c a b [] where
  account := by rw [same, report, List.append_nil]
  fair := List.forall_mem_nil _
  tells := .nothing c

theorem progress (account : b = a.report updates) (fair : ∀ u ∈ updates, u.Fair)
    (progress : ∀ u ∈ updates, u.isProgress = true) : Sends working c c a b updates where
  account := account
  fair := fair
  tells := by
    have none : updates.filterMap StatUpdate.status? = [] :=
      List.filterMap_eq_nil_iff.mpr fun u sent => StatUpdate.status?_of_isProgress (progress u sent)
    rw [none]
    exact .nothing c

theorem begins (account : b = a.report [.status working]) :
    Sends working .opening .working a b [.status working] where
  account := account
  fair u sent := by
    obtain rfl := List.mem_singleton.mp sent
    trivial
  tells := .begins

theorem fails {final : TaskStatus} {message : String} (terminal : final.isTerminal = true)
    (account : b = a.report [.error message, .status final]) :
    Sends working .working .told a b [.error message, .status final] where
  account := account
  fair u sent := by
    rcases List.mem_pair.mp sent with rfl | rfl <;> trivial
  tells := .ends terminal

end Account.Sends

/-! ## Migrations -/

/-- The progress of a mirror, with counters that add up. -/
def StatUpdate.OfMirror (u : StatUpdate) : Prop := ∃ path p, u = .disk path p ∧ p.AddsUp

/-- The progress of the machine state, with counters that add up. -/
def StatUpdate.OfTransfer (u : StatUpdate) : Prop := ∃ p, u = .state p ∧ p.AddsUp

theorem Leg.measure_ofMirror (s : Surroundings) (l : Leg) (entry : BlockJob) :
    (l.measure s entry).2.OfMirror :=
  ⟨_, _, rfl, (Progress.addsUp_ofCounters entry.len entry.offset).withSpeed _⟩

/-- A mirror reports nothing but the progress of its disk. -/
theorem Leg.Step.ofMirror {plan : MigrationPlan} {target : Endpoint} {s : Surroundings} {l : Leg}
    {h : Happening} {t : Reaction Leg} (step : l.Step plan target s h t) :
    ∀ u ∈ t.reports, u.OfMirror := by
  intro u sent
  cases step with
  | start | awaitStart | running | rested | complete | taken | awaitEnd | fail => cases sent
  | listed =>
    obtain rfl := List.mem_singleton.mp sent
    exact Leg.measure_ofMirror _ _ _
  | endedAtOnce | ended | gone =>
    obtain rfl := List.mem_singleton.mp sent
    exact ⟨_, _, rfl, Progress.addsUp_done _⟩

/-- The transfer reports nothing but the progress of the machine state. -/
theorem Transfer.Step.ofTransfer {plan : MigrationPlan} {target : Endpoint} {s : Surroundings}
    {ready : Gate} {t : Transfer} {h : Happening} {r : Reaction Transfer}
    (step : Transfer.Step plan target s ready t h r) : ∀ u ∈ r.reports, u.OfTransfer := by
  intro u sent
  cases step with
  | setCapabilities | setParameters | migrate | started | query | fail => cases sent
  | completed =>
    obtain rfl := List.mem_singleton.mp sent
    exact ⟨_, rfl, Progress.addsUp_done _⟩
  | goesOn =>
    obtain rfl := List.mem_singleton.mp sent
    exact ⟨_, rfl, (Progress.addsUp_ofCounters _ _).withSpeed _⟩

namespace Mirroring

variable {plan : MigrationPlan} {target : Endpoint} {s : Surroundings} {cancelled : Bool}

theorem measureAll_ofMirror {jobs : List BlockJob} {legs : List Leg} :
    ∀ u ∈ (measureAll plan s jobs legs).2, u.OfMirror := by
  induction legs with
  | nil => exact List.forall_mem_nil _
  | cons leg rest ih =>
    intro u sent
    simp only [measureAll] at sent
    split at sent
    · cases sent
    · rcases List.mem_cons.mp sent with rfl | later
      · exact Leg.measure_ofMirror _ _ _
      · exact ih u later

theorem advance_reports (legs : List Leg) (n : Nat) (r : Reaction Leg) :
    (advance legs n r).reports = r.reports := by
  unfold advance
  split
  · rfl
  · dsimp only
    split <;> rfl

theorem onListing_ofMirror {legs : List Leg} {reply : Except ControlError Json} :
    ∀ u ∈ (onListing plan s legs reply).reports, u.OfMirror := by
  intro u sent
  unfold onListing at sent
  split at sent
  · cases sent
  · exact measureAll_ofMirror u sent

/-- The mirrors report nothing but the progress of disks, even in a turn in which they fail. -/
theorem react?_ofMirror {migrated : Gate} {m : Mirroring} {part : Part} {h : Happening}
    {t : MirrorTurn} (react : m.react? plan target s cancelled migrated part h = some t) :
    ∀ u ∈ t.reports, u.OfMirror := by
  unfold react? at react
  split at react
  · split at react
    · obtain ⟨r, turn, rfl⟩ := Option.map_eq_some_iff.mp react
      rw [advance_reports]
      exact (Leg.react?_cases turn).ofMirror
    · cases react
  · split at react <;> cases react
    exact onListing_ofMirror
  · split at react
    · obtain ⟨look, -, rfl⟩ := Option.map_eq_some_iff.mp react
      cases look <;> exact List.forall_mem_nil _
    · split at react <;> cases react
      exact List.forall_mem_nil _
    · cases react
  · split at react
    · obtain ⟨r, turn, rfl⟩ := Option.map_eq_some_iff.mp react
      exact (Leg.react?_cases turn).ofMirror
    · cases react
  · cases react

end Mirroring

namespace Phases

variable {plan : MigrationPlan} {s : Surroundings} {cancelled : Bool} {p : Phases} {part : Part}
  {h : Happening} {t : PhaseTurn}

/-- A turn of the phases is one of the transfer, if that is who acts, and otherwise one of the
mirrors. -/
theorem react?_parts (react : p.react? plan s cancelled part h = some t) :
    (part = .transfer ∧ ∃ r,
      p.transfer.react? plan p.incoming s (p.isStopped cancelled) p.disksReady h = some r ∧
      t = (r.mapOrder (Part.transfer, ·)).map p.afterTransfer) ∨
    (part ≠ .transfer ∧ ∃ target r, p.offered = some target ∧
      p.mirroring.react? plan target s (p.isStopped cancelled) p.migrated part h = some r ∧
      t = r.map p.afterMirror) := by
  unfold react? at react
  split at react
  · obtain ⟨r, turn, rfl⟩ := Option.map_eq_some_iff.mp react
    exact Or.inl ⟨rfl, r, turn, rfl⟩
  · next other =>
    split at react
    · next target offered =>
      obtain ⟨r, turn, rfl⟩ := Option.map_eq_some_iff.mp react
      exact Or.inr ⟨other, target, r, offered, turn, rfl⟩
    · cases react

theorem react?_fair (react : p.react? plan s cancelled part h = some t) :
    ∀ u ∈ t.reports, u.Fair := by
  intro u sent
  rcases react?_parts react with ⟨-, r, turn, rfl⟩ | ⟨-, target, r, -, turn, rfl⟩
  · obtain ⟨p, rfl, adds⟩ := (Transfer.react?_cases turn).ofTransfer u sent
    exact Or.inr adds
  · obtain ⟨path, p, rfl, adds⟩ := Mirroring.react?_ofMirror turn u sent
    exact Or.inr adds

end Phases

namespace MigrationRun

/-- What a step of a migration sends. -/
def Sends (r : MigrationRun) (st : RunStep) : Prop :=
  ∃ updates, Account.Sends .inMigrate r.stage.chapter st.1.stage.chapter r.account
    st.1.account updates

variable {r : MigrationRun} {s : Surroundings} {cancelled : Bool} {part : Part} {h : Happening}
  {st : RunStep}

theorem cancelNext_account (r : MigrationRun) (cause : RollbackCause) (jobs : List String) :
    (r.cancelNext cause jobs).1.account = r.account ∧
      (r.cancelNext cause jobs).1.stage.chapter = .working := by
  cases jobs <;> exact ⟨rfl, rfl⟩

/-- The work goes on or is rolled back, which is told only afterwards. -/
theorem Sends.quiet (before : r.stage.chapter = .working) (after : st.1.stage.chapter = .working)
    (account : st.1.account = r.account) : r.Sends st := by
  refine ⟨[], ?_⟩
  rw [before, after]
  exact .silent account

theorem Sends.rollBack (before : r.stage.chapter = .working) (e : ControlError) :
    r.Sends (r.rollBack cancelled e) := by
  rcases cancelNext_account r ⟨e, e.isInterrupted && cancelled⟩ r.jobs with ⟨account, chapter⟩
  exact .quiet before chapter account

theorem Sends.begin (stage : r.stage = .fresh) : r.Sends (r.begin s cancelled) := by
  have sends {st : RunStep} (chapter : st.1.stage.chapter = .working)
      (account : st.1.account = r.account.report [.status .inMigrate]) : r.Sends st := by
    refine ⟨[.status .inMigrate], ?_⟩
    rw [stage, chapter]
    exact .begins account
  have undone (e : ControlError) :
      r.Sends ((r.report [.status .inMigrate]).rollBack cancelled e) := by
    rcases cancelNext_account (r.report [.status .inMigrate]) ⟨e, e.isInterrupted && cancelled⟩
      (r.report [.status .inMigrate]).jobs with ⟨account, chapter⟩
    exact sends chapter account
  simp only [MigrationRun.begin]
  split
  · exact undone _
  · split
    · exact undone _
    · exact sends rfl rfl

theorem Sends.phases {p : Phases} {t : PhaseTurn} (stage : r.stage = .transferring p)
    (fair : ∀ u ∈ t.reports, u.Fair) (progress : ∀ u ∈ t.reports, u.isProgress = true) :
    r.Sends (r.onPhases s cancelled t) := by
  have sends {st : RunStep} (chapter : st.1.stage.chapter = .working)
      (account : st.1.account = r.account.report t.reports) : r.Sends st := by
    refine ⟨t.reports, ?_⟩
    rw [stage, chapter]
    exact .progress account fair progress
  simp only [onPhases]
  split
  · exact sends rfl rfl
  · unfold finishPhases
    split <;> exact sends rfl rfl
  · next e _ =>
    rcases cancelNext_account (r.report t.reports) ⟨e, e.isInterrupted && cancelled⟩
      (r.report t.reports).jobs with ⟨account, chapter⟩
    exact sends chapter account

theorem Sends.complete {b : Bound} (stage : r.stage = .resuming b) :
    r.Sends (r.complete cancelled) := by
  refine ⟨[.status .completed], ?_⟩
  have tells : Chapter.Tells .inMigrate .working [.completed] .told := .ends rfl
  rw [stage]
  unfold MigrationRun.complete
  dsimp only
  split
  all_goals
    refine ⟨rfl, fun u sent => ?_, tells⟩
    obtain rfl := List.mem_singleton.mp sent
    trivial

theorem Sends.rolledBack {b : Bound} {cause : RollbackCause} (stage : r.stage = .removing b cause) :
    r.Sends (r.rolledBack cause) := by
  refine ⟨cause.reports, ?_⟩
  rw [stage]
  refine .fails ?_ rfl
  cases cause.interrupted <;> rfl

/-- Whatever an act of a migration sends is fair, and of the status it tells what is due. -/
theorem act?_sends (act : r.act? s cancelled part h = some st) : r.Sends st := by
  unfold act? at act
  split at act
  · next p _ stage =>
    obtain ⟨t, turn, rfl⟩ := Option.map_eq_some_iff.mp act
    exact .phases stage (Phases.react?_fair turn) (Phases.react?_cases turn).progress
  · next stage =>
    split at act <;> cases act
    exact .begin stage
  · next stage =>
    obtain ⟨answer, -, rfl⟩ := Option.map_eq_some_iff.mp act
    have before : r.stage.chapter = .working := by rw [stage]; rfl
    cases answer with
    | error e => exact .rollBack before e
    | ok answer =>
      unfold onProvisioned
      dsimp only
      split <;> exact .quiet before rfl rfl
  · next stage =>
    obtain ⟨answer, -, rfl⟩ := Option.map_eq_some_iff.mp act
    have before : r.stage.chapter = .working := by rw [stage]; rfl
    cases answer with
    | error e => exact .rollBack before e
    | ok answer => exact .quiet before rfl rfl
  · next stage =>
    obtain ⟨answer, -, rfl⟩ := Option.map_eq_some_iff.mp act
    exact .quiet (by rw [stage]; rfl) rfl rfl
  · next stage =>
    obtain ⟨answer, -, rfl⟩ := Option.map_eq_some_iff.mp act
    exact .complete stage
  · next stage =>
    split at act <;> cases act
    refine ⟨[], ?_⟩
    rw [stage]
    exact .silent rfl
  · next left cause stage =>
    split at act <;> cases act
    rcases cancelNext_account r cause left with ⟨account, chapter⟩
    exact .quiet (by rw [stage]; rfl) chapter account
  · next stage =>
    split at act <;> cases act
    exact .quiet (by rw [stage]; rfl) rfl rfl
  · next stage =>
    obtain ⟨answer, -, rfl⟩ := Option.map_eq_some_iff.mp act
    exact .rolledBack stage
  · cases act

end MigrationRun

/-! ## Copies -/

namespace CopyRun

/-- What a step of a copy sends. -/
def Sends (r : CopyRun) (st : CopyStep) : Prop :=
  ∃ updates, Account.Sends .inProgress r.stage.chapter st.1.stage.chapter r.account st.1.account
    updates

variable {r : CopyRun} {s : Surroundings} {cancelled : Bool} {h : Happening} {st : CopyStep}
  {j : CopyJob}

theorem Sends.quiet (before : r.stage.chapter = .working) (after : st.1.stage.chapter = .working)
    (account : st.1.account = r.account) : r.Sends st := by
  refine ⟨[], ?_⟩
  rw [before, after]
  exact .silent account

theorem Sends.fail (before : r.stage.chapter = .working) (e : ControlError) :
    r.Sends (r.fail cancelled e) := by
  refine ⟨failureReports cancelled e, ?_⟩
  rw [before]
  refine .fails ?_ rfl
  cases e.isInterrupted && cancelled <;> rfl

theorem Sends.discarding (sends : r.Sends st) : r.Sends (discarding j st) := sends

theorem Sends.succeed (before : r.stage.chapter = .working) : r.Sends r.succeed := by
  refine ⟨[.disk r.disk.path (.done r.disk.virtualSize), .status .completed], ?_⟩
  rw [before]
  refine ⟨rfl, fun u sent => ?_, .ends rfl⟩
  rcases List.mem_pair.mp sent with rfl | rfl
  · exact Or.inr (Progress.addsUp_done _)
  · trivial

theorem Sends.running (before : r.stage.chapter = .working) (outcome : Except ControlError Event) :
    r.Sends (r.onRunning j outcome) := by
  cases outcome <;> exact .quiet before rfl rfl

theorem Sends.listing (before : r.stage.chapter = .working) (reply : Except ControlError Json) :
    r.Sends (r.onListing s j reply) := by
  unfold onListing
  split
  · exact .quiet before rfl rfl
  · split
    · split
      · exact .discarding (.succeed before)
      · exact .quiet before rfl rfl
    · next entry _ =>
      refine ⟨[.disk r.disk.path ((Progress.ofCounters entry.len entry.offset).withSpeed
        (j.meter.sample entry.offset s.now).1)], ?_⟩
      rw [before]
      refine .progress rfl (fun u sent => ?_) fun u sent => ?_
      · obtain rfl := List.mem_singleton.mp sent
        exact Or.inr ((Progress.addsUp_ofCounters _ _).withSpeed _)
      · obtain rfl := List.mem_singleton.mp sent
        rfl

/-- Whatever an act of a copy sends is fair, and of the status it tells what is due. -/
theorem act?_sends (act : r.act? s cancelled h = some st) : r.Sends st := by
  unfold act? at act
  split at act
  · next stage =>
    cases act
    refine ⟨[.status .inProgress], ?_⟩
    rw [stage]
    exact .begins rfl
  · next answer stage =>
    cases act
    have before : r.stage.chapter = .working := by rw [stage]; rfl
    cases answer with
    | error e => exact .fail before e
    | ok target => exact .quiet before rfl rfl
  · next j answer stage =>
    cases act
    have before : r.stage.chapter = .working := by rw [stage]; rfl
    cases answer with
    | error e => exact .discarding (.fail before _)
    | ok v =>
      simp only [onStarted]
      split
      · exact .quiet before rfl rfl
      · exact .running before _
  · next stage =>
    obtain ⟨result, -, rfl⟩ := Option.map_eq_some_iff.mp act
    have before : r.stage.chapter = .working := by rw [stage]; rfl
    rcases result with a | outcome
    · exact .quiet before rfl rfl
    · exact .running before outcome
  · next stage =>
    cases act
    exact .listing (by rw [stage]; rfl) _
  · next stage =>
    obtain ⟨outcome, -, rfl⟩ := Option.map_eq_some_iff.mp act
    have before : r.stage.chapter = .working := by rw [stage]; rfl
    cases outcome <;> exact .quiet before rfl rfl
  · next stage =>
    cases act
    exact .discarding (.fail (by rw [stage]; rfl) _)
  · cases act

end CopyRun

end VmControl
