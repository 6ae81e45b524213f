import VmControl.Proofs.Migration.Phases
import VmControl.Proofs.Migration.Signals

/-!
# The root cause of a failed migration

A phase that fails interrupts the other one, and the two failures are folded only when both phases
are over. A phase fails with the signal of cancellation only if it was interrupted, so by the
operator or because the other one had failed before (`Phases.Acts`). The fold prefers what is no
signal (`Phases.failedWith_of_outcome`). So the signal is the outcome only if the operator gave it
(`Phases.Candid`).

`MigrationRun.cause?` is why a run is rolled back or has failed, and `MigrationRun.act?_cause` says
where that comes from: it is kept, or it is one of the failures of the work (`MigrationRun.Fails`).
-/

namespace VmControl

/-! ## Both phases -/

inductive Phase where
  | mirrors
  | state
deriving DecidableEq

namespace Phases

/-- How a phase has ended, if it is over. -/
def over? (p : Phases) : Phase → Option (Except ControlError Unit)
  | .mirrors => p.mirroring.outcome?
  | .state => p.transfer.outcome?

/-- A phase is over with a failure. -/
def FailedWith (p : Phases) (e : ControlError) : Prop := ∃ phase, p.over? phase = some (.error e)

/-- From one moment to the next a phase comes to its end with a failure. -/
def Fails (p q : Phases) (e : ControlError) : Prop :=
  ∃ phase, p.over? phase = none ∧ q.over? phase = some (.error e)

variable {plan : MigrationPlan} {s : Surroundings} {cancelled : Bool} {p q : Phases} {part : Part}
  {h : Happening} {t : PhaseTurn}

theorem Fails.failedWith {e : ControlError} (fails : p.Fails q e) : q.FailedWith e := by
  obtain ⟨phase, -, ends⟩ := fails
  exact ⟨phase, ends⟩

/-- What one phase makes of both: it was not over, the other one stays as it is, and if it fails it
breaks off both. The signal of cancellation is its failure only if it was interrupted. -/
structure Acts (p q : Phases) (stopped : Prop) (phase : Phase) : Prop where
  going : p.over? phase = none
  other : ∀ other, other ≠ phase → q.over? other = p.over? other
  breaks : q.broken = true ↔ p.broken = true ∨ ∃ e, q.over? phase = some (.error e)
  warned : q.over? phase = some (.error .interrupted) → stopped

theorem Acts.of_transfer {next : Except ControlError Transfer} {stopped : Prop}
    (going : p.transfer.outcome? = none)
    (sound : ∀ g, next = .ok g → ∀ e, g.outcome? ≠ some (.error e))
    (warned : next = .error .interrupted → stopped) :
    p.Acts (p.afterTransfer next) stopped .state where
  going := going
  other other apart := by
    cases other with
    | mirrors => cases next <;> rfl
    | state => exact absurd rfl apart
  breaks := by
    cases next with
    | ok g => exact (or_iff_left fun ⟨e, failed⟩ => sound g rfl e failed).symm
    | error e => exact iff_of_true rfl (Or.inr ⟨e, rfl⟩)
  warned failed := by
    cases next with
    | ok g => exact absurd failed (sound g rfl _)
    | error e =>
      cases failed
      exact warned rfl

theorem Acts.of_mirrors {next : Except ControlError Mirroring} {stopped : Prop}
    (going : p.mirroring.outcome? = none)
    (sound : ∀ g, next = .ok g → ∀ e, g.outcome? ≠ some (.error e))
    (warned : next = .error .interrupted → stopped) :
    p.Acts (p.afterMirror next) stopped .mirrors where
  going := going
  other other apart := by
    cases other with
    | mirrors => exact absurd rfl apart
    | state => cases next <;> rfl
  breaks := by
    cases next with
    | ok g => exact (or_iff_left fun ⟨e, failed⟩ => sound g rfl e failed).symm
    | error e => exact iff_of_true rfl (Or.inr ⟨e, rfl⟩)
  warned failed := by
    cases next with
    | ok g => exact absurd failed (sound g rfl _)
    | error e =>
      cases failed
      exact warned rfl

/-- In every turn one of the phases acts. -/
theorem react?_acts (react : p.react? plan s cancelled part h = some t) :
    ∃ phase, p.Acts t.next (h.Genuine → p.isStopped cancelled = true) phase := by
  unfold react? at react
  split at react
  · obtain ⟨⟨next, order, reports⟩, turn, rfl⟩ := Option.map_eq_some_iff.mp react
    refine ⟨.state, .of_transfer ?_ ?_ fun failed genuine =>
      Transfer.cancelled_of_react? genuine turn failed⟩
    · cases finished : p.transfer.outcome? with
      | none => rfl
      | some outcome =>
        rw [Transfer.eq_ended finished] at turn
        cases h <;> cases turn
    · intro g same e failed
      subst same
      have ended := (Transfer.react?_cases turn).outcome (by rw [failed]; rfl)
      rw [ended] at failed
      cases failed
  · split at react
    · next target offered =>
      obtain ⟨⟨next, order, reports⟩, turn, rfl⟩ := Option.map_eq_some_iff.mp react
      refine ⟨.mirrors, .of_mirrors ?_ ?_ fun failed genuine =>
        Mirroring.cancelled_of_react? genuine turn failed⟩
      · cases finished : p.mirroring.outcome? with
        | none => rfl
        | some outcome =>
          rw [Mirroring.eq_ended finished] at turn
          cases turn
      · intro g same
        subst same
        exact (Mirroring.react?_cases turn).unfailed
    · cases react

variable {stopped : Prop} {phase : Phase}

/-- A failure after a turn was there before, or the turn ends with it. -/
theorem Acts.failedWith_iff (acts : p.Acts q stopped phase) (e : ControlError) :
    q.FailedWith e ↔ p.FailedWith e ∨ p.Fails q e := by
  constructor
  · intro failure
    obtain ⟨other, failed⟩ := failure
    by_cases same : other = phase
    · subst same
      exact Or.inr ⟨other, acts.going, failed⟩
    · exact Or.inl ⟨other, (acts.other other same).symm.trans failed⟩
  · intro failure
    rcases failure with ⟨other, failed⟩ | fails
    · have apart : other ≠ phase := by
        intro same
        subst same
        exact nomatch acts.going.symm.trans failed
      exact ⟨other, (acts.other other apart).trans failed⟩
    · exact fails.failedWith

/-- A phase that is broken off has failed, and if only with the signal of cancellation, that came
from the operator. -/
structure Candid (cancelled : Bool) (p : Phases) : Prop where
  broken : p.broken = true → ∃ e, p.FailedWith e
  signal : p.FailedWith .interrupted → cancelled = true ∨ ∃ e, e ≠ .interrupted ∧ p.FailedWith e

theorem Candid.withDisks (stamp : Timestamp) (incoming offered : Endpoint) (disks : List Disk) :
    (withDisks stamp incoming offered disks).Candid cancelled := by
  refine ⟨nofun, ?_⟩
  intro failure
  obtain ⟨phase, failed⟩ := failure
  cases phase <;> cases failed

theorem Candid.withoutDisks (incoming : Endpoint) : (withoutDisks incoming).Candid cancelled := by
  refine ⟨nofun, ?_⟩
  intro failure
  obtain ⟨phase, failed⟩ := failure
  cases phase <;> cases failed

/-- Whoever interrupts a phase is the operator or a phase that has failed, so the first signal that
did not come from the operator came after a failure of another kind. -/
theorem Candid.act (candid : p.Candid cancelled)
    (acts : p.Acts q (p.isStopped cancelled = true) phase) : q.Candid cancelled := by
  have kept {e : ControlError} (failed : p.FailedWith e) : q.FailedWith e :=
    (acts.failedWith_iff e).mpr (Or.inl failed)
  have before (failed : p.FailedWith .interrupted) :
      cancelled = true ∨ ∃ e, e ≠ .interrupted ∧ q.FailedWith e := by
    refine (candid.signal failed).imp_right ?_
    intro failure
    obtain ⟨e, genuine, other⟩ := failure
    exact ⟨e, genuine, kept other⟩
  refine ⟨fun broken => ?_, fun failed => ?_⟩
  · rcases acts.breaks.mp broken with earlier | ⟨e, now⟩
    · obtain ⟨e, failed⟩ := candid.broken earlier
      exact ⟨e, kept failed⟩
    · exact ⟨e, phase, now⟩
  · obtain ⟨other, failed⟩ := failed
    by_cases same : other = phase
    · subst same
      have stop : cancelled = true ∨ p.broken = true := by
        have stopped := acts.warned failed
        rwa [isStopped, Bool.or_eq_true] at stopped
      refine stop.elim Or.inl fun broken => ?_
      obtain ⟨e, earlier⟩ := candid.broken broken
      by_cases signal : e = .interrupted
      · exact before (signal ▸ earlier)
      · exact Or.inr ⟨e, signal, kept earlier⟩
    · exact before ⟨other, (acts.other other same).symm.trans failed⟩

theorem Candid.mono {later : Bool} (candid : p.Candid cancelled)
    (still : cancelled = true → later = true) : p.Candid later :=
  ⟨candid.broken, fun failed => (candid.signal failed).imp_left still⟩

/-- Two failures come to one of them, and to the signal of cancellation only if both are that. -/
theorem firstFailure_error {a b : Except ControlError Unit} {f : ControlError}
    (folded : firstFailure a b = .error f) : (a = .error f ∨ b = .error f) ∧
      (f = .interrupted → ∀ e, a = .error e ∨ b = .error e → e = .interrupted) := by
  rcases a with x | _ <;> rcases b with y | _
  · by_cases signal : x = .interrupted
    · obtain rfl : y = f := by
        simpa [firstFailure, ControlError.isInterrupted, signal] using folded
      refine ⟨Or.inr rfl, ?_⟩
      intro same e failure
      rcases failure with ⟨⟨⟩⟩ | ⟨⟨⟩⟩
      · exact signal
      · exact same
    · obtain rfl : x = f := by
        simpa [firstFailure, ControlError.isInterrupted, signal] using folded
      exact ⟨Or.inl rfl, fun same => absurd same signal⟩
  · cases folded
    refine ⟨Or.inl rfl, ?_⟩
    intro same e failure
    rcases failure with ⟨⟨⟩⟩ | ⟨⟨⟩⟩
    exact same
  · cases folded
    refine ⟨Or.inr rfl, ?_⟩
    intro same e failure
    rcases failure with ⟨⟨⟩⟩ | ⟨⟨⟩⟩
    exact same
  · cases folded

theorem over?_of_outcome {outcome : Except ControlError Unit}
    (finished : p.outcome? = some outcome) :
    ∃ a b, p.over? .mirrors = some a ∧ p.over? .state = some b ∧ firstFailure a b = outcome := by
  unfold outcome? at finished
  split at finished
  · next a b mirrored transferred => exact ⟨a, b, mirrored, transferred, Option.some.inj finished⟩
  · cases finished

/-- Phases that are over have failed with their outcome, and with the signal of cancellation only if
neither has failed with anything else. -/
theorem failedWith_of_outcome {f : ControlError} (finished : p.outcome? = some (.error f)) :
    p.FailedWith f ∧ (f = .interrupted → ∀ e, p.FailedWith e → e = .interrupted) := by
  obtain ⟨a, b, mirrored, transferred, folded⟩ := over?_of_outcome finished
  obtain ⟨one, signal⟩ := firstFailure_error folded
  refine ⟨?_, fun same e ⟨phase, failed⟩ => signal same e ?_⟩
  · rcases one with rfl | rfl
    · exact ⟨.mirrors, mirrored⟩
    · exact ⟨.state, transferred⟩
  · cases phase with
    | mirrors => exact Or.inl (Option.some.inj (mirrored.symm.trans failed))
    | state => exact Or.inr (Option.some.inj (transferred.symm.trans failed))

theorem not_failedWith_of_outcome (finished : p.outcome? = some (.ok ())) (e : ControlError) :
    ¬ p.FailedWith e := by
  obtain ⟨a, b, mirrored, transferred, folded⟩ := over?_of_outcome finished
  obtain ⟨rfl, rfl⟩ := firstFailure_ok folded
  intro failure
  obtain ⟨phase, failed⟩ := failure
  cases phase with
  | mirrors => exact nomatch mirrored.symm.trans failed
  | state => exact nomatch transferred.symm.trans failed

end Phases

/-! ## The run -/

namespace MigrationRun

/-- Why a run is rolled back, or has failed. -/
def cause? (r : MigrationRun) : Option ControlError :=
  match r.stage with
  | .cancellingJobs _ cause | .cancellingTransfer cause | .removing _ cause => some cause.error
  | .closing ending =>
    match ending.verdict with
    | .error e => some e
    | .ok () => none
  | _ => none

/-- How the work of a run fails. -/
inductive Fails (r : MigrationRun) (s : Surroundings) (cancelled : Bool) :
    Part → Happening → ControlError → Prop
  | unaddressed {e : OptionError} (stage : r.stage = .fresh) :
      Fails r s cancelled .course .enter (.invalidOptions e)
  | stopped (stage : r.stage = .fresh) (stop : cancelled = true) :
      Fails r s cancelled .course .enter .interrupted
  | unanswered {b : Bound} {h : Happening} {e : ControlError}
      (stage : (∃ address, r.stage = .provisioning address b) ∨
        ∃ incoming, r.stage = .offering incoming b)
      (resolved : b.resolve? s cancelled h = some (.error e)) : Fails r s cancelled .course h e
  | phases {p : Phases} {part : Part} {h : Happening} {t : PhaseTurn} {e : ControlError}
      (stage : r.stage = .transferring p) (turn : p.react? r.plan s cancelled part h = some t)
      (finished : t.next.outcome? = some (.error e)) : Fails r s cancelled part h e

variable {r : MigrationRun} {s : Surroundings} {cancelled : Bool} {part : Part} {h : Happening}
  {st : RunStep} {e : ControlError}

theorem cause?_cancelNext (r : MigrationRun) (cause : RollbackCause) (jobs : List String) :
    (r.cancelNext cause jobs).1.cause? = some cause.error := by
  cases jobs <;> rfl

theorem cancelNext_stage (r : MigrationRun) (cause : RollbackCause) (jobs : List String)
    (p : Phases) :
    (r.cancelNext cause jobs).1.stage ≠ .transferring p := by
  cases jobs <;> exact nofun

/-- A run keeps its cause, or it gets one because its work fails. -/
theorem act?_cause (act : r.act? s cancelled part h = some st) (caused : st.1.cause? = some e) :
    r.cause? = some e ∨ r.Fails s cancelled part h e := by
  have rolls {r : MigrationRun} {f : ControlError}
      (caused : (r.rollBack cancelled f).1.cause? = some e) : f = e := by
    rw [rollBack, cause?_cancelNext] at caused
    exact Option.some.inj caused
  unfold act? at act
  split at act
  · next p part stage =>
    obtain ⟨t, turn, rfl⟩ := Option.map_eq_some_iff.mp act
    simp only [onPhases] at caused
    split at caused
    · cases caused
    · unfold finishPhases at caused
      split at caused <;> cases caused
    · next failure finished =>
      obtain rfl := rolls caused
      exact Or.inr (.phases stage turn finished)
  · next stage =>
    split at act <;> cases act
    simp only [begin] at caused
    split at caused
    · obtain rfl := rolls caused
      exact Or.inr (.unaddressed stage)
    · split at caused
      · next stop =>
        obtain rfl := rolls caused
        exact Or.inr (.stopped stage stop)
      · cases caused
  · next address b stage =>
    obtain ⟨answer, resolved, rfl⟩ := Option.map_eq_some_iff.mp act
    cases answer with
    | error f =>
      obtain rfl := rolls caused
      exact Or.inr (.unanswered (Or.inl ⟨address, stage⟩) resolved)
    | ok answer =>
      simp only [onProvisioned] at caused
      split at caused <;> cases caused
  · next incoming b stage =>
    obtain ⟨answer, resolved, rfl⟩ := Option.map_eq_some_iff.mp act
    cases answer with
    | error f =>
      obtain rfl := rolls caused
      exact Or.inr (.unanswered (Or.inr ⟨incoming, stage⟩) resolved)
    | ok answer => cases caused
  · obtain ⟨_, _, rfl⟩ := Option.map_eq_some_iff.mp act
    cases caused
  · obtain ⟨_, _, rfl⟩ := Option.map_eq_some_iff.mp act
    cases cancelled <;> cases caused
  · split at act <;> cases act
    cases caused
  · next left cause stage =>
    split at act <;> cases act
    rw [cause?_cancelNext] at caused
    exact Or.inl (by rw [cause?, stage]; exact caused)
  · next cause stage =>
    split at act <;> cases act
    exact Or.inl (by rw [cause?, stage]; exact caused)
  · next b cause stage =>
    obtain ⟨_, _, rfl⟩ := Option.map_eq_some_iff.mp act
    exact Or.inl (by rw [cause?, stage]; exact caused)
  · cases act

/-- A turn of the phases goes on, or is the end of both: with success, or with the cause of the
rollback. -/
theorem onPhases_cases (r : MigrationRun) (s : Surroundings) (cancelled : Bool) (t : PhaseTurn) :
    (t.next.outcome? = none ∧ (r.onPhases s cancelled t).1.stage = .transferring t.next) ∨
    (t.next.outcome? = some (.ok ()) ∧
      ∀ p, (r.onPhases s cancelled t).1.stage ≠ .transferring p) ∨
    ∃ f, t.next.outcome? = some (.error f) ∧ (r.onPhases s cancelled t).1.cause? = some f ∧
      ∀ p, (r.onPhases s cancelled t).1.stage ≠ .transferring p := by
  unfold onPhases
  dsimp only
  split
  · next goesOn => exact Or.inl ⟨goesOn, rfl⟩
  · next finished =>
    refine Or.inr (Or.inl ⟨finished, fun p => ?_⟩)
    unfold finishPhases
    split <;> exact nofun
  · next f finished =>
    refine Or.inr (Or.inr ⟨f, finished, ?_, fun p => ?_⟩)
    · rw [rollBack, cause?_cancelNext]
    · rw [rollBack]
      exact cancelNext_stage _ _ _ p

theorem cause?_of_isUnderway (underway : r.stage.isUnderway = true) : r.cause? = none := by
  unfold cause?
  split
  · next stage =>
    rw [stage] at underway
    cases underway
  · next stage =>
    rw [stage] at underway
    cases underway
  · next stage =>
    rw [stage] at underway
    cases underway
  · next stage =>
    rw [stage] at underway
    cases underway
  · rfl

theorem Act.not_failedWith (act : r.Act s cancelled part h st)
    (apart : ∀ p, r.stage ≠ .transferring p) (p : Phases) (begun : st.1.stage = .transferring p)
    (e : ControlError) : ¬ p.FailedWith e := by
  cases act with
  | withoutDisks | withDisks =>
    cases begun
    intro failure
    obtain ⟨phase, failed⟩ := failure
    cases phase <;> cases failed
  | turn stage | withdraw stage | resume stage => exact absurd stage (apart _)
  | fail | jobCancelled => exact absurd begun (cancelNext_stage _ _ _ p)
  | provision | offer | withdrawn | spare | stop | quit | transferCancelled | removed => cases begun

theorem Act.keeps_cause (act : r.Act s cancelled part h st)
    (apart : ∀ p, r.stage ≠ .transferring p) (e : ControlError) (caused : r.cause? = some e) :
    st.1.cause? = some e := by
  unfold cause? at caused
  cases act with
  | jobCancelled stage =>
    rw [stage] at caused
    exact (cause?_cancelNext _ _ _).trans caused
  | transferCancelled stage | removed stage =>
    rw [stage] at caused
    exact caused
  | turn stage | withdraw stage | resume stage => exact absurd stage (apart _)
  | fail _ underway =>
    rw [← cause?, cause?_of_isUnderway underway] at caused
    cases caused
  | provision stage | offer stage | withoutDisks stage | withDisks stage | withdrawn stage
  | spare stage | stop stage | quit stage =>
    rw [stage] at caused
    cases caused

/-- An act is a turn of the phases, or it leaves them out: then phases that begin have not failed,
and a cause is kept. -/
theorem act?_phases (act : r.act? s cancelled part h = some st) :
    (∃ p t, r.stage = .transferring p ∧ p.react? r.plan s cancelled part h = some t ∧
      st = r.onPhases s cancelled t) ∨
    (∀ p, r.stage ≠ .transferring p) ∧
      (∀ p, st.1.stage = .transferring p → ∀ e, ¬ p.FailedWith e) ∧
      ∀ e, r.cause? = some e → st.1.cause? = some e := by
  by_cases phased : ∃ p, r.stage = .transferring p
  · obtain ⟨p, stage⟩ := phased
    unfold act? at act
    rw [stage] at act
    obtain ⟨t, turn, rfl⟩ := Option.map_eq_some_iff.mp act
    exact Or.inl ⟨p, t, stage, turn, rfl⟩
  · have apart (p : Phases) : r.stage ≠ .transferring p := fun stage => phased ⟨p, stage⟩
    exact Or.inr ⟨apart, (act?_cases act).not_failedWith apart, (act?_cases act).keeps_cause apart⟩

/-- The work fails with the signal of cancellation only if the operator gave it. -/
theorem Fails.asked (fails : r.Fails s cancelled part h .interrupted) (genuine : h.Genuine)
    (candid : ∀ p, r.stage = .transferring p → p.Candid cancelled) : cancelled = true := by
  cases fails with
  | stopped _ stop => exact stop
  | unanswered _ resolved => exact Bound.cancelled_of_resolve? genuine resolved
  | @phases p _ _ t _ stage turn finished =>
    obtain ⟨phase, acts⟩ := Phases.react?_acts turn
    have warned : p.Acts t.next (p.isStopped cancelled = true) phase :=
      { acts with warned := fun failed => acts.warned failed genuine }
    obtain ⟨failed, only⟩ := Phases.failedWith_of_outcome finished
    rcases ((candid p stage).act warned).signal failed with stop | ⟨e, other, also⟩
    · exact stop
    · exact absurd (only rfl e also) other

end MigrationRun

end VmControl
