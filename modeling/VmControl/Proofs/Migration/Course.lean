import VmControl.Proofs.Migration.History
import VmControl.Proofs.Migration.Reactions

/-!
# Courses of a migration

`Course plan past cancelled r` says that a run of `plan` has come to `r`, with the history `past`.
The monitor, the receiving host, the clocks and the operator are free: at every moment any
surroundings may be found, anything may happen that the run can react to, and the operator may
cancel.

* `MigrationRun.Act` lists the acts, stage by stage, with all that they bring about
  (`MigrationRun.act?_cases`).
* A step is an act of a part of the run, or it only concerns statistics and the end of the task
  (`MigrationRun.step?_cases`). What holds of every course is shown along these cases.
-/

namespace VmControl

open History

/-- Whether the work is still to be done, so that it can fail. -/
def RunStage.isUnderway : RunStage → Bool
  | .fresh | .provisioning .. | .offering .. | .transferring _ => true
  | _ => false

namespace StatUpdate

/-- Whether an update tells of work and not of its end. -/
def isWork : StatUpdate → Bool
  | .status stage => !stage.isTerminal
  | .state _ | .disk .. => true
  | .error _ => false

theorem isWork_of_isProgress {u : StatUpdate} (progress : u.isProgress = true) :
    u.isWork = true := by
  cases u with
  | state | disk => rfl
  | status | error => cases progress

end StatUpdate

namespace MigrationRun

/-- The acts of a run: what a stage makes of what happens. -/
inductive Act (r : MigrationRun) (s : Surroundings) (cancelled : Bool) :
    Part → Happening → RunStep → Prop
  | provision {address : IpAddress} {b : Bound} (stage : r.stage = .fresh) :
      Act r s cancelled .course .enter
        ((r.report [.status .inMigrate]).goTo (.provisioning address b),
          [.request (.startIncoming r.manifest)])
  | offer {address : IpAddress} {incoming : Endpoint} {b b' : Bound} {h : Happening}
      (stage : r.stage = .provisioning address b) (disks : r.plan.options.disks ≠ []) :
      Act r s cancelled .course h
        (r.goTo (.offering incoming b'),
          [.request (.startExport r.dstVm address r.plan.options.dstDiskPaths)])
  | withoutDisks {address : IpAddress} {incoming : Endpoint} {b : Bound} {h : Happening}
      (stage : r.stage = .provisioning address b) (none : r.plan.options.disks = []) :
      Act r s cancelled .course h (r.goTo (.transferring (.withoutDisks incoming)), [])
  | withDisks {incoming offered : Endpoint} {b : Bound} {h : Happening}
      (stage : r.stage = .offering incoming b) :
      Act r s cancelled .course h
        (r.goTo (.transferring (.withDisks s.stamp incoming offered r.plan.options.disks)), [])
  | turn {p : Phases} {part : Part} {h : Happening} {t : PhaseTurn}
      (stage : r.stage = .transferring p) (turn : p.Step r.plan s part h t)
      (goesOn : t.next.outcome? = none) :
      Act r s cancelled part h
        ((r.report t.reports).goTo (.transferring t.next), turnEffects t.order)
  | withdraw {p : Phases} {part : Part} {h : Happening} {t : PhaseTurn} {b : Bound}
      (stage : r.stage = .transferring p) (turn : p.Step r.plan s part h t)
      (finished : t.next.outcome? = some (.ok ())) (offered : t.next.offered ≠ none) :
      Act r s cancelled part h
        ((r.report t.reports).goTo (.withdrawing b), [.request (.stopExport r.dstVm)])
  | resume {p : Phases} {part : Part} {h : Happening} {t : PhaseTurn}
      (stage : r.stage = .transferring p) (turn : p.Step r.plan s part h t)
      (finished : t.next.outcome? = some (.ok ())) :
      Act r s cancelled part h ((r.report t.reports).resume s)
  | withdrawn {b : Bound} {h : Happening} (stage : r.stage = .withdrawing b) :
      Act r s cancelled .course h (r.resume s)
  | spare {b : Bound} {h : Happening} (stage : r.stage = .resuming b) (stop : cancelled = true) :
      Act r s cancelled .course h ((r.report [.status .completed]).close (.ok ()))
  | stop {b : Bound} {h : Happening} (stage : r.stage = .resuming b) (wanted : cancelled = false) :
      Act r s cancelled .course h
        ((r.report [.status .completed]).goTo .quitting, [.order .course .quit])
  | quit {answer : Except ControlError Json} (stage : r.stage = .quitting) :
      Act r s cancelled .course (.reply answer) (r.close (.ok ()))
  | fail {part : Part} {h : Happening} {updates : List StatUpdate} (e : ControlError)
      (underway : r.stage.isUnderway = true) (work : ∀ u ∈ updates, u.isWork = true) :
      Act r s cancelled part h ((r.report updates).rollBack cancelled e)
  | jobCancelled {left : List String} {cause : RollbackCause} {answer : Except ControlError Json}
      (stage : r.stage = .cancellingJobs left cause) :
      Act r s cancelled .course (.reply answer) (r.cancelNext cause left)
  | transferCancelled {cause : RollbackCause} {answer : Except ControlError Json}
      (stage : r.stage = .cancellingTransfer cause) :
      Act r s cancelled .course (.reply answer) (r.remove s cause)
  | removed {b : Bound} {cause : RollbackCause} {h : Happening}
      {answer : Except ControlError PeerReply} (stage : r.stage = .removing b cause)
      (resolved : b.resolve? s false h = some answer) :
      Act r s cancelled .course h (r.rolledBack cause)

variable {r r' : MigrationRun} {s : Surroundings} {cancelled : Bool}

/-- A run never changes what is to be done. -/
theorem Act.plan {part : Part} {h : Happening} {st : RunStep} (act : r.Act s cancelled part h st) :
    st.1.plan = r.plan := by
  have cancelNext (r : MigrationRun) (cause : RollbackCause) (jobs : List String) :
      (r.cancelNext cause jobs).1.plan = r.plan := by cases jobs <;> rfl
  cases act with
  | fail | jobCancelled => exact cancelNext _ _ _
  | _ => rfl

theorem report_nil (r : MigrationRun) : r.report [] = r := by
  simp [report, Account.report]

/-- A failure in a turn without a report. -/
theorem Act.of_failure {part : Part} {h : Happening} (e : ControlError)
    (underway : r.stage.isUnderway = true) : Act r s cancelled part h (r.rollBack cancelled e) := by
  have silent : (r.report []).rollBack cancelled e = r.rollBack cancelled e := by rw [report_nil]
  rw [← silent]
  exact .fail e underway nofun

theorem Act.of_begin (stage : r.stage = .fresh) :
    Act r s cancelled .course .enter (r.begin s cancelled) := by
  have underway : r.stage.isUnderway = true := by rw [stage]; rfl
  have work (u : StatUpdate) (sent : u ∈ [StatUpdate.status .inMigrate]) : u.isWork = true := by
    obtain rfl := List.mem_singleton.mp sent
    rfl
  simp only [begin]
  split
  · exact .fail _ underway work
  · split
    · exact .fail _ underway work
    · exact .provision stage

theorem Act.of_provisioned {address : IpAddress} {b : Bound} {h : Happening}
    {answer : Except ControlError PeerReply} (stage : r.stage = .provisioning address b) :
    Act r s cancelled .course h (r.onProvisioned s cancelled address answer) := by
  cases answer with
  | error e => exact .of_failure e (by rw [stage]; rfl)
  | ok answer =>
    simp only [onProvisioned]
    split
    · next none => exact .withoutDisks stage (List.isEmpty_iff.mp none)
    · next some => exact .offer stage fun none => some (List.isEmpty_iff.mpr none)

theorem Act.of_phases {p : Phases} {part : Part} {h : Happening} {t : PhaseTurn}
    (stage : r.stage = .transferring p) (turn : p.Step r.plan s part h t) :
    Act r s cancelled part h (r.onPhases s cancelled t) := by
  simp only [onPhases]
  split
  · next goesOn => exact .turn stage turn goesOn
  · next finished =>
    simp only [finishPhases]
    split
    · next offered =>
      refine .withdraw stage turn finished fun none => ?_
      rw [none] at offered
      cases offered
    · exact .resume stage turn finished
  · refine .fail _ (by rw [stage]; rfl) fun u sent => ?_
    exact StatUpdate.isWork_of_isProgress (turn.progress u sent)

/-- Every act of a run is one of those listed. -/
theorem act?_cases {part : Part} {h : Happening} {st : RunStep}
    (act : r.act? s cancelled part h = some st) : r.Act s cancelled part h st := by
  unfold act? at act
  split at act
  · next p _ stage =>
    obtain ⟨t, turn, rfl⟩ := Option.map_eq_some_iff.mp act
    exact .of_phases stage (Phases.react?_cases turn)
  · next stage =>
    split at act <;> cases act
    exact .of_begin stage
  · next stage =>
    obtain ⟨answer, _, rfl⟩ := Option.map_eq_some_iff.mp act
    exact .of_provisioned stage
  · next stage =>
    obtain ⟨answer, _, rfl⟩ := Option.map_eq_some_iff.mp act
    cases answer with
    | error e => exact .of_failure e (by rw [stage]; rfl)
    | ok answer => exact .withDisks stage
  · next stage =>
    obtain ⟨answer, _, rfl⟩ := Option.map_eq_some_iff.mp act
    exact .withdrawn stage
  · next stage =>
    obtain ⟨answer, _, rfl⟩ := Option.map_eq_some_iff.mp act
    cases cancelled with
    | true => exact .spare stage rfl
    | false => exact .stop stage rfl
  · next stage =>
    split at act <;> cases act
    exact .quit stage
  · next stage =>
    split at act <;> cases act
    exact .jobCancelled stage
  · next stage =>
    split at act <;> cases act
    exact .transferCancelled stage
  · next stage =>
    obtain ⟨answer, resolved, rfl⟩ := Option.map_eq_some_iff.mp act
    exact .removed stage resolved
  · cases act

end MigrationRun

/-- The outcome of a task that comes to its end, known before the end is reached. -/
def Ending.verdict : Ending → Except ControlError Unit
  | .draining outcome | .keeping outcome | .ended outcome => outcome

/-- The outcome of a run, as soon as it has one. -/
def MigrationRun.verdict? (r : MigrationRun) : Option (Except ControlError Unit) :=
  match r.stage with
  | .closing e => some e.verdict
  | _ => none

theorem Ending.verdict_of_step? {α : Type} {account : Account α} {keep : Effect} {e e' : Ending}
    {x : Stimulus} {effects : List Effect} (kept : keep.isWire = false)
    (h : e.step? account keep x = some (e', effects)) :
    e'.verdict = e.verdict ∧ effects.filter Effect.isWire = [] := by
  unfold step? at h
  split at h
  · split at h <;> cases h
    exact ⟨rfl, by rw [List.filter_cons_of_neg (by simp [kept]), List.filter_nil]⟩
  · cases h
    exact ⟨rfl, rfl⟩
  · cases h

/-- A step of a run is an act of one of its parts, takes in an update of the statistics, or brings a
run with an outcome nearer to its end. -/
theorem MigrationRun.step?_cases {r r' : MigrationRun} {s : Surroundings} {cancelled : Bool}
    {x : Stimulus} {effects : List Effect} (h : r.step? s cancelled x = some (r', effects)) :
    (∃ part happening, x = .act part happening ∧ r.Act s cancelled part happening (r', effects)) ∨
    (∃ account, x = .fold ∧ r.account.fold? s.stamp = some account ∧
      r' = { r with account := account } ∧ effects = []) ∨
    (∃ e e', r.stage = .closing e ∧ e'.verdict = e.verdict ∧ r' = r.goTo (.closing e') ∧
      effects.filter Effect.isWire = [] ∧ (x = .persist ∨ x = .kept)) := by
  cases x with
  | act part happening => exact Or.inl ⟨part, happening, rfl, act?_cases h⟩
  | fold =>
    obtain ⟨account, folded, same⟩ := Option.map_eq_some_iff.mp h
    cases same
    exact Or.inr (Or.inl ⟨account, rfl, folded, rfl, rfl⟩)
  | persist | kept =>
    simp only [step?] at h
    split at h
    · next e stage =>
      obtain ⟨⟨e', more⟩, stepped, same⟩ := Option.map_eq_some_iff.mp h
      cases same
      obtain ⟨verdict, silent⟩ := Ending.verdict_of_step? rfl stepped
      exact Or.inr (Or.inr ⟨e, e', stage, verdict, rfl, silent, by simp⟩)
    · cases h

/-- A run of `plan` that has come to a state, with its history and whether the operator has
cancelled. -/
inductive Course (plan : MigrationPlan) : History → Bool → MigrationRun → Prop
  | new (stamp : Timestamp) : Course plan [] false (.new plan stamp)
  | cancel {past : History} {cancelled : Bool} {r : MigrationRun} :
      Course plan past cancelled r → Course plan past true r
  | step {past : History} {cancelled : Bool} {r r' : MigrationRun} {s : Surroundings} {x : Stimulus}
      {effects : List Effect} : Course plan past cancelled r →
      r.step? s cancelled x = some (r', effects) →
      Course plan (past ++ [⟨s, cancelled, x, effects⟩]) cancelled r'

end VmControl
