import VmControl.Proofs.Migration.Ordering
import VmControl.Proofs.Migration.Replay
import VmControl.Proofs.Migration.Trace

/-!
# When the machine here is ended

A migration orders the end of the machine here only when everything is on the other side: the state
transfer was told to be over, every mirror was listed as ready, and every mirror is known to have
ended without an error after that. The operator has not cancelled by then. The order is the last
thing that goes out, and nothing was undone before (`Course.handover_of_quit`).
-/

namespace VmControl

open History

variable {plan : MigrationPlan} {past : History}

theorem MigrationPlan.isUndo_of_mem_rollback {e : Effect} (step : e ∈ plan.rollback) :
    e.isUndo = true := by
  rw [rollback_eq] at step
  rcases List.mem_append.mp step with order | request
  · rcases List.mem_append.mp order with cancel | transfer
    · obtain ⟨d, -, rfl⟩ := List.mem_map.mp cancel
      rfl
    · obtain rfl := List.mem_singleton.mp transfer
      rfl
  · obtain rfl := List.mem_singleton.mp request
    rfl

theorem Effect.isQuit_of_isUndo {e : Effect} (undo : e.isUndo = true) : e.isQuit = false := by
  unfold isUndo at undo
  split at undo
  · rfl
  · rfl
  · rfl
  · cases undo

theorem Effect.isQuit_of_isWork {e : Effect} (work : e.isWork = true) : e.isQuit = false := by
  rw [isWork, Bool.and_eq_true, Bool.not_eq_true', Bool.not_eq_true'] at work
  exact work.2

/-- In a rollback the machine here is not ended. -/
theorem RollingBack.no_quit {left : List Effect} (rolling : RollingBack plan past left) :
    ∀ e ∈ wire past, e.isQuit = false := by
  obtain ⟨work, steps, last, sent, all, parts, -⟩ := rolling
  intro e there
  rw [sent] at there
  rcases List.mem_append.mp there with before | undoing
  · exact Effect.isQuit_of_isWork (all e before)
  · have step : e ∈ plan.rollback := by
      rw [← parts, List.append_cons]
      exact List.mem_append_left _ undoing
    exact Effect.isQuit_of_isUndo (MigrationPlan.isUndo_of_mem_rollback step)

theorem RolledBack.no_quit (rolled : RolledBack plan past) : ∀ e ∈ wire past, e.isQuit = false := by
  obtain ⟨work, sent, all, -⟩ := rolled
  intro e there
  rw [sent] at there
  rcases List.mem_append.mp there with before | step
  · exact Effect.isQuit_of_isWork (all e before)
  · exact Effect.isQuit_of_isUndo (MigrationPlan.isUndo_of_mem_rollback step)

/-- A run that has ended the machine here has sent that last and undone nothing. -/
theorem RunStage.Traced.stopped {stage : RunStage} {e : Effect} (traced : stage.Traced plan past)
    (sent : e ∈ wire past) (quits : e.isQuit = true) : Stopped past := by
  have refuted (none : ∀ e ∈ wire past, e.isQuit = false) : Stopped past := by
    rw [none e sent] at quits
    cases quits
  have working (working : Working past) : Stopped past :=
    refuted fun e there => Effect.isQuit_of_isWork (working e there)
  cases stage with
  | fresh | provisioning | offering | transferring | withdrawing | resuming => exact working traced
  | quitting => exact traced
  | cancellingJobs | cancellingTransfer | removing => exact refuted (RollingBack.no_quit traced)
  | closing ending =>
    have sealed : Sealed plan past ending.verdict := traced
    cases verdict : ending.verdict with
    | ok =>
      rw [verdict] at sealed
      exact sealed.elim working id
    | error =>
      rw [verdict] at sealed
      exact refuted (RolledBack.no_quit sealed)

/-- The machine here is ordered to end only when everything is on the other side and the operator
has not cancelled. That is the last thing to go out, and nothing was undone. -/
theorem Course.handover_of_quit {earlier later : History} {m : Moment} {cancelled : Bool}
    {r : MigrationRun} {part : Part} (course : Course plan (earlier ++ m :: later) cancelled r)
    (quits : .order part .quit ∈ m.effects) :
    Handover plan earlier ∧ m.cancelled = false ∧ wire later = [] ∧
      ∃ work, wire (earlier ++ m :: later) = work ++ [.order .course .quit] ∧
        ∀ e ∈ work, e.isUndo = false ∧ e.isQuit = false := by
  obtain ⟨handover, wanted⟩ : Handover plan earlier ∧ m.cancelled = false := by
    have permitted := course.ordered.orderly.permitted earlier m later rfl _ quits
    cases permitted with
    | quit wanted handover => exact ⟨handover, wanted⟩
    | transfer kind => cases kind
    | undo kind => cases kind
    | keep inside => cases inside
  have sent : .order part .quit ∈ m.wire := List.mem_filter.mpr ⟨quits, rfl⟩
  have split : wire (earlier ++ m :: later) = wire earlier ++ (m.wire ++ wire later) := by
    rw [wire_append]
    rfl
  have there : .order part .quit ∈ wire (earlier ++ m :: later) := by
    rw [split]
    exact List.mem_append_right _ (List.mem_append_left _ sent)
  obtain ⟨work, all, working⟩ := course.traced.2.stopped there rfl
  refine ⟨handover, wanted, ?_, work, all, ?_⟩
  · -- The order is the last thing that went out, and none of the work is such an order.
    rcases List.eq_nil_or_concat (wire later) with none | ⟨front, last, rest⟩
    · exact none
    · rw [split, rest, List.concat_eq_append, ← List.append_assoc, ← List.append_assoc] at all
      have before : .order part .quit ∈ work := by
        rw [← (List.append_inj' all rfl).1]
        exact List.mem_append_left _ (List.mem_append_right _ sent)
      cases working _ before
  · intro e before
    have work := working e before
    rw [Effect.isWork, Bool.and_eq_true, Bool.not_eq_true', Bool.not_eq_true'] at work
    exact work

namespace Sample

/-- The last moment of the migration in which everything goes well. -/
def last : Moment := played.1.getLast nofun

/-- There the machine is ordered to end, and everything before it was as it should be. -/
theorem last_quits : Sample.plan.options.validate = .ok () ∧ .order .course .quit ∈ last.effects ∧
    Handover Sample.plan played.1.dropLast := by
  have split : played.1.dropLast ++ last :: [] = played.1 := List.dropLast_append_getLast _
  have course : Course Sample.plan (played.1.dropLast ++ last :: []) false played.2 := by
    rw [split]
    exact Sample.course
  have quits : .order .course .quit ∈ last.effects := List.mem_singleton_self _
  exact ⟨rfl, quits, (course.handover_of_quit quits).1⟩

end Sample

end VmControl
