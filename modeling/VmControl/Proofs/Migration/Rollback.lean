import VmControl.Proofs.Migration.PhaseOrder
import VmControl.Proofs.Migration.SourceStop

/-!
# How a migration is rolled back

A run that ends with a failure has sent the whole rollback after the work, each step when the one
before was settled, and nothing else since. While the rollback goes on, whatever answers a step
brings the next one. The statistics tell of a failure only when all of it is settled, and a run that
has not failed has undone nothing (`Course.rolls_back`).
-/

namespace VmControl

open History

/-- What is left of the rollback, if it has begun and is not over. -/
def MigrationRun.rollbackLeft? (r : MigrationRun) : Option (List Effect) :=
  match r.stage with
  | .cancellingJobs left _ => some (r.plan.rollbackFrom left)
  | .cancellingTransfer _ => some [.request (.removeConfig r.dstVm)]
  | .removing .. => some []
  | _ => none

/-- Whether a status tells that a task has failed. -/
def TaskStatus.isFailure : TaskStatus → Bool
  | .failed | .interrupted => true
  | _ => false

namespace StatUpdate

/-- Whether an update tells that a task has failed. -/
def isFailure : StatUpdate → Bool
  | .status stage => stage.isFailure
  | _ => false

theorem isFailure_of_isWork {u : StatUpdate} (work : u.isWork = true) : u.isFailure = false := by
  cases u with
  | status stage => cases stage <;> first | rfl | cases work
  | state | disk => rfl
  | error => cases work

end StatUpdate

/-- An update gives statistics a status only if it is the status that the update tells. -/
theorem MigrationStat.status_apply (s : MigrationStat) (now : Timestamp) (u : StatUpdate) :
    (s.apply now u).status = s.status ∨ u = .status (s.apply now u).status := by
  rw [apply]
  split
  · exact Or.inl rfl
  · cases u with
    | status => exact Or.inr rfl
    | state | disk | error => exact Or.inl rfl

/-- Neither what everyone sees nor what is still to be taken in tells of a failure. -/
structure Account.Unfailed (a : Account MigrationStat) : Prop where
  seen : a.stat.status.isFailure = false
  left : ∀ u ∈ a.left, u.isFailure = false

namespace Account

variable {a b : Account MigrationStat}

theorem Unfailed.report {updates : List StatUpdate} (unfailed : a.Unfailed)
    (sound : ∀ u ∈ updates, u.isFailure = false) : (a.report updates).Unfailed where
  seen := unfailed.seen
  left u sent := (List.mem_append.mp sent).elim (unfailed.left u) (sound u)

theorem Unfailed.fold {now : Timestamp} (unfailed : a.Unfailed) (folded : a.fold? now = some b) :
    b.Unfailed := by
  obtain ⟨stat, left⟩ := a
  cases left with
  | nil => cases folded
  | cons u rest =>
    cases folded
    have first := unfailed.left u List.mem_cons_self
    refine ⟨?_, fun v sent => unfailed.left v (List.mem_cons_of_mem u sent)⟩
    rcases MigrationStat.status_apply stat now u with kept | told
    · exact (congrArg TaskStatus.isFailure kept).trans unfailed.seen
    · rw [told] at first
      exact first

end Account

namespace MigrationRun

variable {r : MigrationRun} {s : Surroundings} {cancelled : Bool}

/-- A run acts only while it has no outcome. -/
theorem Act.verdict {part : Part} {h : Happening} {st : RunStep}
    (act : r.Act s cancelled part h st) : r.verdict? = none := by
  rw [verdict?]
  cases act with
  | fail _ underway =>
    split
    · next stage => rw [stage] at underway; cases underway
    · rfl
  | provision stage | offer stage | withoutDisks stage | withDisks stage | turn stage
  | withdraw stage | resume stage | withdrawn stage | spare stage | stop stage | quit stage
  | jobCancelled stage | transferCancelled stage | removed stage => rw [stage]

/-- An act of a run reports a failure only when the run comes to its end with it. -/
theorem Act.unfailed {part : Part} {h : Happening} {st : RunStep}
    (act : r.Act s cancelled part h st) (unfailed : r.account.Unfailed) :
    st.1.account.Unfailed ∨ ∃ e, st.1.verdict? = some (.error e) := by
  have cancelNext (r : MigrationRun) (cause : RollbackCause) (jobs : List String)
      (unfailed : r.account.Unfailed) : (r.cancelNext cause jobs).1.account.Unfailed := by
    cases jobs <;> exact unfailed
  have completed : ∀ u ∈ [StatUpdate.status .completed], u.isFailure = false := by
    intro u sent
    obtain rfl := List.mem_singleton.mp sent
    rfl
  cases act with
  | provision =>
    refine Or.inl (unfailed.report fun u sent => ?_)
    obtain rfl := List.mem_singleton.mp sent
    rfl
  | turn _ turn | withdraw _ turn | resume _ turn =>
    refine Or.inl (unfailed.report fun u sent => ?_)
    exact StatUpdate.isFailure_of_isWork (StatUpdate.isWork_of_isProgress (turn.progress u sent))
  | spare | stop => exact Or.inl (unfailed.report completed)
  | fail _ _ work =>
    refine Or.inl (cancelNext _ _ _ (unfailed.report fun u sent => ?_))
    exact StatUpdate.isFailure_of_isWork (work u sent)
  | jobCancelled => exact Or.inl (cancelNext _ _ _ unfailed)
  | removed => exact Or.inr ⟨_, rfl⟩
  | offer | withoutDisks | withDisks | withdrawn | quit | transferCancelled => exact Or.inl unfailed

end MigrationRun

variable {plan : MigrationPlan} {past : History}

/-- The statistics tell of a failure only when the run has failed. -/
theorem Course.unfailed {cancelled : Bool} {r : MigrationRun}
    (course : Course plan past cancelled r) :
    r.account.Unfailed ∨ ∃ e, r.verdict? = some (.error e) := by
  induction course with
  | new stamp => exact Or.inl ⟨rfl, List.forall_mem_nil _⟩
  | cancel _ ih => exact ih
  | @step past cancelled r r' s x effects _ step ih =>
    rcases MigrationRun.step?_cases step with ⟨part, h, rfl, act⟩ | ⟨account, rfl, folded, rfl, -⟩ |
      ⟨e, e', stage, verdict, rfl, -, -⟩
    · refine ih.elim act.unfailed fun ⟨e, failed⟩ => ?_
      rw [act.verdict] at failed
      cases failed
    · exact ih.imp (·.fold folded) id
    · refine ih.imp id fun ⟨error, failed⟩ => ⟨error, ?_⟩
      rw [MigrationRun.verdict?, stage] at failed
      exact (congrArg some verdict).trans failed

/-- Whatever settles the last thing that was sent, an answer or the end of its time, the next step
of the rollback follows, and after the last one the run has failed. -/
def MigrationRun.GoesOn (r : MigrationRun) (cancelled : Bool) (past : History)
    (left : List Effect) :
    Prop :=
  ∀ s h e, (wire past).getLast? = some e → e.SettledBy h →
    (h = .wake .elapse → ∀ due ∈ r.dues, due ≤ s.now) →
    ∃ next, r.step? s cancelled (.act .course h) = some (next, left.take 1) ∧
      match left with
      | [] => ∃ e, next.verdict? = some (.error e)
      | _ :: rest => next.rollbackLeft? = some rest

/-- A rollback that has begun goes on. -/
theorem MigrationRun.goesOn {r : MigrationRun} {cancelled : Bool} {left : List Effect}
    (traced : r.stage.Traced r.plan past) (undoing : r.rollbackLeft? = some left) :
    RollingBack r.plan past left ∧ r.GoesOn cancelled past left := by
  have replied {o : Order} {e : Effect} {h : Happening}
      (latest : (wire past).getLast? = some (.order .course o))
      (last : (wire past).getLast? = some e) (settles : e.SettledBy h) :
      ∃ answer, h = .reply answer := by
    rw [latest] at last
    cases last
    cases h with
    | reply answer => exact ⟨answer, rfl⟩
    | _ => exact settles.elim
  rw [rollbackLeft?] at undoing
  split at undoing
  · next jobs cause stage =>
    cases undoing
    rw [stage] at traced
    have rolling : RollingBack r.plan past (r.plan.rollbackFrom jobs) := traced
    have more : r.plan.rollbackFrom jobs ≠ [] :=
      List.append_ne_nil_of_right_ne_nil _ (List.cons_ne_nil _ _)
    obtain ⟨o, latest⟩ := rolling.latest_order more
    refine ⟨rolling, fun s h e last settles _ => ⟨(r.cancelNext cause jobs).1, ?_⟩⟩
    obtain ⟨answer, rfl⟩ := replied latest last settles
    have stepped : r.step? s cancelled (.act .course (.reply answer)) =
        some (r.cancelNext cause jobs) := by simp [step?, act?, stage]
    rw [stepped]
    cases jobs <;> exact ⟨rfl, rfl⟩
  · next cause stage =>
    cases undoing
    rw [stage] at traced
    have rolling : RollingBack r.plan past [.request (.removeConfig r.dstVm)] := traced
    obtain ⟨o, latest⟩ := rolling.latest_order (List.cons_ne_nil _ _)
    refine ⟨rolling, fun s h e last settles _ => ⟨(r.remove s cause).1, ?_⟩⟩
    obtain ⟨answer, rfl⟩ := replied latest last settles
    exact ⟨by simp [step?, act?, stage, remove], rfl⟩
  · next b cause stage =>
    cases undoing
    rw [stage] at traced
    have rolling : RollingBack r.plan past [] := traced
    refine ⟨rolling, fun s h e last settles due => ⟨(r.rolledBack cause).1, ?_⟩⟩
    rw [rolling.latest_request] at last
    cases last
    cases h with
    | answer answer =>
      exact ⟨by simp [step?, act?, stage, Bound.resolve?, rolledBack, close], _, rfl⟩
    | wake w =>
      cases w with
      | elapse =>
        have late : b.isDue s = true := decide_eq_true (due rfl b.due (by simp [dues, stage]))
        exact ⟨by simp [step?, act?, stage, Bound.resolve?, late, rolledBack, close], _, rfl⟩
      | notice | interrupt => exact settles.elim
    | _ => exact settles.elim
  · cases undoing

theorem Effect.isUndo_of_isWork {e : Effect} (work : e.isWork = true) : e.isUndo = false := by
  rw [isWork, Bool.and_eq_true, Bool.not_eq_true', Bool.not_eq_true'] at work
  exact work.1

/-- A run that has not failed and is not rolling back has undone nothing. -/
theorem RunStage.Traced.undone {r : MigrationRun} (traced : r.stage.Traced plan past)
    (going : r.rollbackLeft? = none) (sound : ∀ e, r.verdict? ≠ some (.error e)) :
    ∀ e ∈ wire past, e.isUndo = false := by
  have working (working : Working past) : ∀ e ∈ wire past, e.isUndo = false :=
    fun e sent => Effect.isUndo_of_isWork (working e sent)
  have stopped (stopped : Stopped past) : ∀ e ∈ wire past, e.isUndo = false := by
    obtain ⟨work, all, working⟩ := stopped
    intro e sent
    rw [all] at sent
    rcases List.mem_append.mp sent with before | last
    · exact Effect.isUndo_of_isWork (working e before)
    · obtain rfl := List.mem_singleton.mp last
      rfl
  rw [MigrationRun.rollbackLeft?] at going
  rw [MigrationRun.verdict?] at sound
  cases stage : r.stage with
  | fresh | provisioning | offering | transferring | withdrawing | resuming =>
    rw [stage] at traced
    exact working traced
  | quitting =>
    rw [stage] at traced
    exact stopped traced
  | cancellingJobs | cancellingTransfer | removing => rw [stage] at going; cases going
  | closing ending =>
    rw [stage] at traced sound
    have sealed : Sealed plan past ending.verdict := traced
    cases verdict : ending.verdict with
    | ok =>
      rw [verdict] at sealed
      exact sealed.elim working stopped
    | error e =>
      dsimp only at sound
      exact absurd (congrArg some verdict) (sound e)

theorem RunStage.Traced.rolledBack {r : MigrationRun} {e : ControlError}
    (traced : r.stage.Traced plan past) (failed : r.verdict? = some (.error e)) :
    RolledBack plan past := by
  rw [MigrationRun.verdict?] at failed
  split at failed
  · next ending stage =>
    rw [stage] at traced
    have sealed : Sealed plan past ending.verdict := traced
    rw [Option.some.inj failed] at sealed
    exact sealed
  · cases failed

/-- Something is sent after something else. -/
def History.Follows (past : History) (first second : Effect) : Prop :=
  ∃ before after, wire past = before ++ second :: after ∧ first ∈ before

/-- A mirror that was started before a rollback is cancelled in it. -/
theorem RolledBack.follows {part : Part} {job device target : String}
    (rolled : RolledBack plan past) (orderly : Orderly plan past)
    (started : .order part (.driveMirror job device target) ∈ wire past) :
    past.Follows (.order part (.driveMirror job device target)) (MigrationPlan.cancels job) := by
  obtain ⟨_, _, _, _, permitted⟩ := orderly.permitted_of_mem started
  obtain ⟨n, d, listed, -, rfl⟩ := permitted.of_starts (decide_eq_true rfl : _ = true)
  obtain ⟨work, all, -, -⟩ := rolled
  have cancelled : MigrationPlan.cancels d.mirrorJob ∈ plan.rollback := by
    rw [MigrationPlan.rollback_eq]
    refine List.mem_append_left _ (List.mem_append_left _ ?_)
    exact List.mem_map.mpr ⟨d, List.mem_of_getElem? listed, rfl⟩
  obtain ⟨before, after, split⟩ := List.append_of_mem cancelled
  refine ⟨work ++ before, after, by rw [all, split, List.append_assoc], ?_⟩
  rw [all] at started
  rcases List.mem_append.mp started with there | step
  · exact List.mem_append_left _ there
  · cases MigrationPlan.isUndo_of_mem_rollback step

/-- A migration that fails is rolled back completely, and every mirror that it has started is
cancelled by force. While the rollback goes on each step that is settled brings the next one. No
statistics tell of a failure before all is settled, and a migration that does not fail undoes
nothing. -/
theorem Course.rolls_back {cancelled : Bool} {r : MigrationRun}
    (course : Course plan past cancelled r) :
    (∀ e, r.verdict? = some (.error e) → RolledBack plan past ∧
      ∀ part job device target, .order part (.driveMirror job device target) ∈ wire past →
        past.Follows (.order part (.driveMirror job device target)) (MigrationPlan.cancels job)) ∧
    (∀ job, (Order.blockJobCancel job).command =
      ⟨"block-job-cancel", some (.obj [("device", .str job), ("force", .bool true)])⟩) ∧
    (∀ left, r.rollbackLeft? = some left →
      RollingBack plan past left ∧ r.GoesOn cancelled past left) ∧
    (r.account.stat.status = .failed ∨ r.account.stat.status = .interrupted →
      RolledBack plan past) ∧
    (r.rollbackLeft? = none → (∀ e, r.verdict? ≠ some (.error e)) →
      ∀ e ∈ wire past, e.isUndo = false) := by
  obtain ⟨rfl, traced⟩ := course.traced
  refine ⟨fun e failed => ?_, fun _ => rfl, fun left undoing => MigrationRun.goesOn traced undoing,
    fun told => ?_, traced.undone⟩
  · have rolled := traced.rolledBack failed
    exact ⟨rolled, fun _ _ _ _ started => rolled.follows course.ordered.orderly started⟩
  · rcases course.unfailed with unfailed | ⟨e, failed⟩
    · have seen := unfailed.seen
      rcases told with status | status <;> rw [status] at seen <;> cases seen
    · exact traced.rolledBack failed

namespace Sample

/-- What happens in a migration whose mirror cannot be started, up to the end of the rollback. -/
def failingMoments : List (Surroundings × Stimulus) :=
  moments.take 4 ++
    [(surroundings 0, .act (.leg 0) (.reply (.error (.protocol "no space left")))),
      (surroundings 0, .act .transfer .enter),
      (surroundings 0, .act .course (.reply (.ok .null))),
      (surroundings 0, .act .course (.reply (.error (.protocol "no transfer")))),
      (surroundings 0, .act .course (.answer (.ok .done))),
      (surroundings 0, .fold), (surroundings 0, .fold), (surroundings 0, .fold)]

theorem failing_replayable : (start.replay? false failingMoments).isSome := rfl

/-- The history of that migration and how far it has come. -/
def failed : History × MigrationRun := Option.get _ failing_replayable

theorem failed_course : Course Sample.plan failed.1 false failed.2 :=
  .of_replay? failing_replayable

/-- The mirror whose start failed is cancelled, and the statistics tell of the failure after
that. -/
theorem failed_rolls_back : failed.2.account.stat.status = .failed ∧
    RolledBack Sample.plan failed.1 :=
  ⟨rfl, failed_course.rolls_back.2.2.2.1 (Or.inl rfl)⟩

end Sample

end VmControl
