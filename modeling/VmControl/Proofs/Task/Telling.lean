import VmControl.Proofs.Task.Life

/-!
# What a task tells

`RunStage.Told` and `CopyStage.Told` say what a task has told when it has come to a stage: the end
is open while the work is going on, and the forecast tells the outcome from the moment at which
there is one (`MigrationRun.Act.told`, `CopyRun.Act.told`).
-/

namespace VmControl

/-- A failure counts as interrupted only if it is the signal of cancellation and the operator asked
for it. -/
def RollbackCause.Fair (cancelled : Bool) (c : RollbackCause) : Prop :=
  c.interrupted = true → c.error = .interrupted ∧ cancelled = true

/-- What a migration at a stage has told. Its success is told before the machine here is ended, its
failure after the rollback. -/
def RunStage.Told (cancelled : Bool) (t : Summary) : RunStage → Prop
  | .quitting => t.Tells cancelled (.ok ())
  | .cancellingJobs _ cause | .cancellingTransfer cause | .removing _ cause =>
    t.Open ∧ cause.Fair cancelled
  | .closing e => t.Tells cancelled e.verdict
  | _ => t.Open

/-- What a copy at a stage has told. -/
def CopyStage.Told (cancelled : Bool) (t : Summary) : CopyStage → Prop
  | .closing e => t.Tells cancelled e.verdict
  | _ => t.Open

theorem Summary.Open.not_interrupted {t : Summary} (ahead : t.Open) : t.status ≠ .interrupted := by
  intro status
  have going := ahead.status
  rw [status] at going
  cases going

theorem Summary.Tells.of_interrupted {cancelled : Bool} {t : Summary}
    {outcome : Except ControlError Unit} (tells : t.Tells cancelled outcome)
    (status : t.status = .interrupted) : cancelled = true ∧ outcome = .error .interrupted := by
  cases tells with
  | completed other | failed other => exact nomatch status.symm.trans other
  | interrupted asked => exact ⟨asked, rfl⟩

theorem RunStage.Told.interrupted {cancelled : Bool} {t : Summary} {stage : RunStage}
    (told : stage.Told cancelled t) (status : t.status = .interrupted) :
    cancelled = true ∧ ∃ e, stage.ending? = some e ∧ e.verdict = .error .interrupted := by
  cases stage with
  | closing e =>
    rcases Summary.Tells.of_interrupted told status with ⟨asked, verdict⟩
    exact ⟨asked, e, rfl, verdict⟩
  | quitting => exact nomatch (Summary.Tells.of_interrupted told status).2
  | cancellingJobs | cancellingTransfer | removing => exact absurd status told.1.not_interrupted
  | fresh | provisioning | offering | transferring | withdrawing | resuming =>
    exact absurd status (Summary.Open.not_interrupted told)

theorem CopyStage.Told.interrupted {cancelled : Bool} {t : Summary} {stage : CopyStage}
    (told : stage.Told cancelled t) (status : t.status = .interrupted) :
    cancelled = true ∧ ∃ e, stage.ending? = some e ∧ e.verdict = .error .interrupted := by
  cases stage with
  | closing e =>
    rcases Summary.Tells.of_interrupted told status with ⟨asked, verdict⟩
    exact ⟨asked, e, rfl, verdict⟩
  | fresh | preparing | starting | awaitingStart | listing | pausing | cancelling =>
    exact absurd status (Summary.Open.not_interrupted told)

theorem RunStage.Told.mono {cancelled later : Bool} {t : Summary} {stage : RunStage}
    (told : stage.Told cancelled t) (still : cancelled = true → later = true) :
    stage.Told later t := by
  cases stage with
  | quitting | closing => exact Summary.Tells.mono told still
  | cancellingJobs | cancellingTransfer | removing =>
    exact ⟨told.1, fun interrupted => (told.2 interrupted).imp_right still⟩
  | fresh | provisioning | offering | transferring | withdrawing | resuming => exact told

theorem CopyStage.Told.mono {cancelled later : Bool} {t : Summary} {stage : CopyStage}
    (told : stage.Told cancelled t) (still : cancelled = true → later = true) :
    stage.Told later t := by
  cases stage with
  | closing => exact Summary.Tells.mono told still
  | fresh | preparing | starting | awaitingStart | listing | pausing | cancelling => exact told

theorem TaskStatus.isTerminal_iff {status : TaskStatus} :
    status.isTerminal = true ↔ status = .completed ∨ status = .interrupted ∨ status = .failed := by
  cases status <;> simp [isTerminal]

/-- What tells an outcome is terminal and has its failure. -/
theorem Summary.Tells.agrees {cancelled : Bool} {t : Summary} {outcome : Except ControlError Unit}
    (tells : t.Tells cancelled outcome) :
    t.status.isTerminal = true ∧ (t.status = .completed ↔ failure? outcome = none) ∧
      t.error = (failure? outcome).map ControlError.message := by
  cases tells with
  | completed status error => exact ⟨by rw [status]; rfl, iff_of_true status rfl, error⟩
  | failed status error | interrupted _ status error =>
    have unlike : t.status ≠ .completed := by
      rw [status]
      decide
    exact ⟨by rw [status]; rfl, iff_of_false unlike (Option.some_ne_none _), error⟩

/-! ## Migrations -/

namespace MigrationRun

variable {r : MigrationRun} {s : Surroundings} {cancelled : Bool} {part : Part} {h : Happening}
  {st : RunStep}

theorem told_cancelNext {cause : RollbackCause} (ahead : r.account.forecast.Open)
    (fair : cause.Fair cancelled) (jobs : List String) :
    (r.cancelNext cause jobs).1.stage.Told cancelled
    (r.cancelNext cause jobs).1.account.forecast := by
  cases jobs <;> exact ⟨ahead, fair⟩

theorem Act.told (act : r.Act s cancelled part h st)
    (told : r.stage.Told cancelled r.account.forecast) :
    st.1.stage.Told cancelled st.1.account.forecast := by
  cases act with
  | provision stage =>
    rw [stage] at told
    refine Account.open_report told fun u sent => ?_
    rw [List.mem_singleton.mp sent]
    rfl
  | offer stage | withoutDisks stage | withDisks stage | withdrawn stage =>
    rw [stage] at told
    exact told
  | turn stage turn | withdraw stage turn | resume stage turn =>
    rw [stage] at told
    have work (u : StatUpdate) (sent : u ∈ _) : u.isWork = true :=
      StatUpdate.isWork_of_isProgress (turn.progress u sent)
    exact Account.open_report told work
  | spare stage | stop stage =>
    rw [stage] at told
    have tells : (r.account.report [.status .completed]).forecast.Tells cancelled (.ok ()) :=
      Account.tells_completed told
    exact tells
  | quit stage =>
    rw [stage] at told
    exact told
  | @fail _ _ updates e underway work =>
    have ahead : r.account.forecast.Open := by
      cases stage : r.stage <;> rw [stage] at told underway <;> first | exact told | cases underway
    have fair : RollbackCause.Fair cancelled ⟨e, e.isInterrupted && cancelled⟩ := by
      intro interrupted
      have both : e.isInterrupted = true ∧ cancelled = true := (Bool.and_eq_true _ _).mp interrupted
      exact ⟨by simpa [ControlError.isInterrupted] using both.1, both.2⟩
    exact told_cancelNext (Account.open_report ahead work) fair _
  | jobCancelled stage =>
    rw [stage] at told
    exact told_cancelNext told.1 told.2 _
  | transferCancelled stage =>
    rw [stage] at told
    exact told
  | @removed b cause h answer stage =>
    rw [stage] at told
    rcases told with ⟨ahead, fair⟩
    have tells : (r.account.report cause.reports).forecast.Tells cancelled (.error cause.error) :=
      Account.tells_failed ahead cause.error fair
    exact tells

theorem Act.stat (act : r.Act s cancelled part h st) : st.1.account.stat = r.account.stat := by
  have cancelNext (r : MigrationRun) (cause : RollbackCause) (jobs : List String) :
      (r.cancelNext cause jobs).1.account.stat = r.account.stat := by
    cases jobs <;> rfl
  cases act with
  | fail | jobCancelled => exact cancelNext _ _ _
  | _ => rfl

theorem Act.isKeep_eq_false (act : r.Act s cancelled part h st) :
    ∀ e ∈ st.2, e.isKeep = false := by
  have cancelNext (r : MigrationRun) (cause : RollbackCause) (jobs : List String) :
      ∀ e ∈ (r.cancelNext cause jobs).2, e.isKeep = false := by
    intro e sent
    cases jobs <;> rw [List.mem_singleton.mp sent] <;> rfl
  intro e sent
  cases act with
  | turn =>
    obtain ⟨_, _, rfl⟩ := List.mem_map.mp sent
    rfl
  | fail | jobCancelled => exact cancelNext _ _ _ e sent
  | withoutDisks | withDisks | spare | quit | removed => cases sent
  | provision | offer | withdraw | resume | withdrawn | stop | transferCancelled =>
    rw [List.mem_singleton.mp sent]
    rfl

/-- Nothing acts in a migration that has an outcome. -/
theorem Act.going (act : r.Act s cancelled part h st) : r.stage.ending? = none := by
  cases act with
  | fail _ underway =>
    cases stage : r.stage <;> rw [stage] at underway <;> first | rfl | cases underway
  | provision stage | offer stage | withoutDisks stage | withDisks stage | turn stage
  | withdraw stage | resume stage | withdrawn stage | spare stage | stop stage | quit stage
  | jobCancelled stage | transferCancelled stage | removed stage => rw [stage]; rfl

/-- An act leads to an outcome that is still to be taken in and kept. -/
theorem Act.drains (act : r.Act s cancelled part h st) {e : Ending}
    (ends : st.1.stage.ending? = some e) : ∃ outcome, e = .draining outcome := by
  have cancelNext (r : MigrationRun) (cause : RollbackCause) (jobs : List String) :
      (r.cancelNext cause jobs).1.stage.ending? = none := by
    cases jobs <;> rfl
  cases act with
  | fail | jobCancelled => exact nomatch (cancelNext _ _ _).symm.trans ends
  | spare | quit | removed => exact ⟨_, (Option.some.inj ends).symm⟩
  | provision | offer | withoutDisks | withDisks | turn | withdraw | resume | withdrawn | stop
  | transferCancelled => cases ends

end MigrationRun

/-! ## Copies -/

namespace CopyRun

variable {r : CopyRun} {s : Surroundings} {cancelled : Bool} {h : Happening} {st : CopyStep}
  {j : CopyJob}

theorem Told.follows (follows : r.Follows j h) (told : r.stage.Told cancelled r.account.forecast) :
    r.account.forecast.Open := by
  cases follows with
  | taken stage | awaiting stage | listing stage | pausing stage =>
    rw [stage] at told
    exact told

theorem told_fail (ahead : r.account.forecast.Open) (e : ControlError) :
    (r.fail cancelled e).1.account.forecast.Tells cancelled (.error e) := by
  refine Account.tells_failed ahead e fun interrupted => ?_
  have both : e.isInterrupted = true ∧ cancelled = true := (Bool.and_eq_true _ _).mp interrupted
  exact ⟨by simpa [ControlError.isInterrupted] using both.1, both.2⟩

theorem Act.told (act : r.Act s cancelled h st)
    (told : r.stage.Told cancelled r.account.forecast) :
    st.1.stage.Told cancelled st.1.account.forecast := by
  cases act with
  | begin stage =>
    rw [stage] at told
    refine Account.open_report told fun u sent => ?_
    rw [List.mem_singleton.mp sent]
    rfl
  | unprepared stage | refused stage | cancelled stage =>
    rw [stage] at told
    exact told_fail told _
  | order stage =>
    rw [stage] at told
    exact told
  | await follows | list follows | abandon follows =>
    have ahead : r.account.forecast.Open := Told.follows follows told
    exact ahead
  | measured follows =>
    refine Account.open_report (Told.follows follows told) fun u sent => ?_
    rw [List.mem_singleton.mp sent]
    rfl
  | succeed follows =>
    -- the last progress and the success are sent together
    have measured :
        (r.account.report [.disk r.disk.path (.done r.disk.virtualSize)]).forecast.Open := by
      refine Account.open_report (Told.follows follows told) fun u sent => ?_
      rw [List.mem_singleton.mp sent]
      rfl
    have tells : Summary.Tells cancelled _ (.ok ()) := Account.tells_completed measured
    rw [Account.report, Account.report, List.append_assoc] at tells
    exact tells

theorem Act.stat (act : r.Act s cancelled h st) : st.1.account.stat = r.account.stat := by
  cases act <;> rfl

theorem Act.isKeep_eq_false (act : r.Act s cancelled h st) : ∀ e ∈ st.2, e.isKeep = false := by
  intro e sent
  cases act with
  | unprepared | await | measured => cases sent
  | begin | order | refused | list | succeed | abandon | cancelled =>
    rw [List.mem_singleton.mp sent]
    rfl

theorem Act.going (act : r.Act s cancelled h st) : r.stage.ending? = none := by
  have following {j : CopyJob} (follows : r.Follows j h) : r.stage.ending? = none := by
    cases follows with
    | taken stage | awaiting stage | listing stage | pausing stage => rw [stage]; rfl
  cases act with
  | begin stage | unprepared stage | order stage | refused stage | cancelled stage =>
    rw [stage]; rfl
  | await follows | list follows | measured follows | succeed follows | abandon follows =>
    exact following follows

/-- An act leads to an outcome that is still to be taken in and kept. -/
theorem Act.drains (act : r.Act s cancelled h st) {e : Ending}
    (ends : st.1.stage.ending? = some e) : ∃ outcome, e = .draining outcome := by
  cases act with
  | unprepared | refused | succeed | cancelled => exact ⟨_, (Option.some.inj ends).symm⟩
  | begin | order | await | list | measured | abandon => cases ends

end CopyRun

end VmControl
