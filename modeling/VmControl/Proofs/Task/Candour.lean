import VmControl.Proofs.Migration.RootCause
import VmControl.Proofs.Task.Outcome

/-!
# Candid runs

A run is candid if a failure with the signal of cancellation is, or will be, told as an interruption
(`RunStage.Candid`, `CopyStage.Candid`). A run of either kind stays candid as long as what happens
to it is genuine (`Work.Step.candid`): where it fails with the signal, the operator had cancelled by
then.
-/

namespace VmControl

/-- At a stage of a migration a failure with the signal of cancellation is the operator's. -/
def RunStage.Candid (cancelled : Bool) (t : Summary) : RunStage → Prop
  | .transferring p => p.Candid cancelled
  | .cancellingJobs _ cause | .cancellingTransfer cause | .removing _ cause =>
    cause.error = .interrupted → cause.interrupted = true
  | .closing e => e.verdict = .error .interrupted → t.status = .interrupted
  | _ => True

/-- At a stage of a copy a failure with the signal of cancellation is the operator's. -/
def CopyStage.Candid (cancelled : Bool) (t : Summary) : CopyStage → Prop
  | .cancelling _ cause => cause = .interrupted → cancelled = true
  | .closing e => e.verdict = .error .interrupted → t.status = .interrupted
  | _ => True

/-! ## Migrations -/

namespace MigrationRun

variable {r : MigrationRun} {s : Surroundings} {cancelled : Bool} {part : Part} {h : Happening}
  {st : RunStep}

theorem candid_cancelNext {t : Summary} {cause : RollbackCause}
    (candid : cause.error = .interrupted → cause.interrupted = true) (jobs : List String) :
    (r.cancelNext cause jobs).1.stage.Candid cancelled t := by
  cases jobs <;> exact candid

/-- The turn of a phase keeps the phases candid, or is their end. -/
theorem candid_onPhases {p : Phases} {t : PhaseTurn} {u : Summary} (candid : p.Candid cancelled)
    (turn : p.react? r.plan s cancelled part h = some t) (genuine : h.Genuine) :
    (r.onPhases s cancelled t).1.stage.Candid cancelled u := by
  obtain ⟨phase, acts⟩ := Phases.react?_acts turn
  have next : t.next.Candid cancelled :=
    candid.act { acts with warned := fun failed => acts.warned failed genuine }
  unfold onPhases
  dsimp only
  split
  · exact next
  · unfold finishPhases
    split <;> trivial
  · next f finished =>
    refine candid_cancelNext (fun signal => ?_) _
    -- the signal is the outcome of both phases only if it came from the operator
    obtain rfl : f = .interrupted := signal
    rcases Phases.failedWith_of_outcome finished with ⟨failed, only⟩
    have stop : cancelled = true := by
      rcases next.signal failed with stop | ⟨e, other, also⟩
      · exact stop
      · exact absurd (only rfl e also) other
    rw [stop]
    rfl

theorem act?_candid (act : r.act? s cancelled part h = some st) (genuine : h.Genuine)
    (told : r.stage.Told cancelled r.account.forecast)
    (candid : r.stage.Candid cancelled r.account.forecast) :
    st.1.stage.Candid cancelled st.1.account.forecast := by
  rcases act?_phases act with ⟨p, t, stage, turn, rfl⟩ | ⟨apart, -⟩
  · rw [stage] at candid
    exact candid_onPhases candid turn genuine
  · cases act?_cases act with
    | @fail _ _ updates e underway =>
      refine candid_cancelNext (fun signal => ?_) _
      obtain rfl : e = .interrupted := signal
      have caused : ((r.report updates).rollBack cancelled .interrupted).1.cause? =
          some .interrupted := cause?_cancelNext _ _ _
      have stop : cancelled = true := by
        rcases act?_cause act caused with kept | fails
        · exact nomatch (cause?_of_isUnderway underway).symm.trans kept
        · exact fails.asked genuine fun p stage => absurd stage (apart p)
      rw [stop]
      rfl
    | jobCancelled stage =>
      rw [stage] at candid
      exact candid_cancelNext candid _
    | transferCancelled stage =>
      rw [stage] at candid
      exact candid
    | @removed b cause h answer stage =>
      rw [stage] at candid told
      intro signal
      have signal : cause.error = .interrupted := Except.error.inj signal
      have status : (r.account.report cause.reports).forecast.status =
          if cause.interrupted then .interrupted else .failed :=
        Account.status_failed told.1 cause.error
      rwa [candid signal, if_pos rfl] at status
    | withoutDisks => exact .withoutDisks _
    | withDisks => exact .withDisks _ _ _ _
    | turn stage => exact absurd stage (apart _)
    | spare | quit => exact nofun
    | provision | offer | withdraw | resume | withdrawn | stop => trivial

end MigrationRun

/-! ## Copies -/

namespace CopyRun

variable {r : CopyRun} {s : Surroundings} {cancelled : Bool} {h : Happening} {st : CopyStep}

theorem candid_fail {e : ControlError} (ahead : r.account.forecast.Open)
    (warned : e = .interrupted → cancelled = true) :
    (r.fail cancelled e).1.stage.Candid cancelled (r.fail cancelled e).1.account.forecast := by
  intro signal
  obtain rfl : e = .interrupted := Except.error.inj signal
  have status : (r.fail cancelled .interrupted).1.account.forecast.status =
      if cancelled then .interrupted else .failed := Account.status_failed ahead .interrupted
  rwa [if_pos (warned rfl)] at status

theorem Act.candid (act : r.Act s cancelled h st) (genuine : h.Genuine)
    (told : r.stage.Told cancelled r.account.forecast)
    (candid : r.stage.Candid cancelled r.account.forecast) :
    st.1.stage.Candid cancelled st.1.account.forecast := by
  cases act with
  | unprepared stage =>
    rw [stage] at told
    refine candid_fail told fun signal => absurd ?_ genuine
    rw [signal]
  | refused stage =>
    rw [stage] at told
    exact candid_fail told nofun
  | cancelled stage =>
    rw [stage] at told candid
    exact candid_fail told candid
  | abandon _ warned => exact warned genuine
  | succeed => exact nofun
  | begin | order | await | list | measured => trivial

end CopyRun

/-! ## Runs of either kind -/

namespace Work

variable {w w' : Work} {s : Surroundings} {cancelled : Bool} {x : Stimulus} {effects : List Effect}

/-- A failure with the signal of cancellation is the operator's. -/
def Candid (cancelled : Bool) : Work → Prop
  | .migration r => r.stage.Candid cancelled r.account.forecast
  | .copying r => r.stage.Candid cancelled r.account.forecast

theorem Candid.signal {e : Ending} (candid : w.Candid cancelled) (ending : w.ending? = some e)
    (signal : e.verdict = .error .interrupted) : w.forecast.status = .interrupted := by
  cases w with
  | migration r =>
    rw [Candid, RunStage.eq_closing ending] at candid
    exact candid signal
  | copying r =>
    rw [Candid, CopyStage.eq_closing ending] at candid
    exact candid signal

theorem Candid.close (e : Ending)
    (candid : e.verdict = .error .interrupted → w.forecast.status = .interrupted) :
    (w.close e).Candid cancelled := by
  cases w <;> exact candid

theorem Candid.mono {later : Bool} (candid : w.Candid cancelled)
    (still : cancelled = true → later = true) : w.Candid later := by
  cases w with
  | migration r =>
    unfold Candid at candid ⊢
    dsimp only at candid ⊢
    cases stage : r.stage with
    | transferring p =>
      rw [stage] at candid
      exact Phases.Candid.mono candid still
    | cancellingJobs | cancellingTransfer | removing | closing =>
      rw [stage] at candid
      exact candid
    | fresh | provisioning | offering | withdrawing | resuming | quitting => trivial
  | copying r =>
    unfold Candid at candid ⊢
    dsimp only at candid ⊢
    cases stage : r.stage with
    | cancelling =>
      rw [stage] at candid
      exact fun signal => still (candid signal)
    | closing =>
      rw [stage] at candid
      exact candid
    | fresh | preparing | starting | awaitingStart | listing | pausing => trivial

end Work

/-- Something happens to a run that does not bring the signal of cancellation from outside. -/
def Stimulus.Genuine : Stimulus → Prop
  | .act _ h => h.Genuine
  | .fold | .persist | .kept => True

theorem Work.Step.candid {w w' : Work} {s : Surroundings} {cancelled : Bool} {x : Stimulus}
    {effects : List Effect} (step : Work.Step s cancelled w x w' effects) (genuine : x.Genuine)
    (told : w.Told cancelled) (candid : w.Candid cancelled) : w'.Candid cancelled := by
  cases step with
  | migrate act => exact MigrationRun.act?_candid act genuine told candid
  | copy act => exact (CopyRun.act?_cases act).candid genuine told candid
  | fold folds =>
    cases folds with
    | migration folded =>
      rw [Candid, ← Account.forecast_fold folded] at candid
      exact candid
    | copying folded =>
      rw [Candid, ← Account.forecast_fold folded] at candid
      exact candid
  | persist ending => exact .close (.keeping _) fun signal => candid.signal ending signal
  | kept ending => exact .close (.ended _) fun signal => candid.signal ending signal

end VmControl
