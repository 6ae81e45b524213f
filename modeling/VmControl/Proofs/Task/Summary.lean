import VmControl.Proofs.Migration.Course

/-!
# What an account will say in the end

The statistics that everyone sees lag behind the updates that were sent, and the updates are taken
in at any time later. What a task has told is therefore read off the statistics *and* the updates
that are left: the forecast of an account is the summary of its statistics after everything that is
left.

* Taking in an update does not change the forecast (`Account.forecast_fold`), and sending updates
  applies them to it (`Account.forecast_report`).
* While a task is at work its forecast is open (`Summary.Open`). Then it tells one outcome
  (`Summary.Tells`), and since that makes it terminal, nothing that is sent later changes it.
-/

namespace VmControl

/-- What statistics of either kind say about the end of a task. -/
structure Summary where
  status : TaskStatus
  /-- The wording of the failure. -/
  error : Option String
  /-- Whether it is known when the task has ended. -/
  finished : Bool
deriving DecidableEq

namespace Summary

/-- The summary after an update, unless it is terminal. -/
def apply (t : Summary) (u : StatUpdate) : Summary :=
  if t.status.isTerminal then t
  else
    match u with
    | .status status => { t with status := status, finished := t.finished || status.isTerminal }
    | .error message => { t with error := some (t.error.getD message) }
    | .state _ | .disk .. => t

/-- Neither an end nor a failure was told. -/
structure Open (t : Summary) : Prop where
  status : t.status.isTerminal = false
  error : t.error = none

/-- The time of the end is known exactly when the status tells of an end. -/
def Sound (t : Summary) : Prop := t.finished = t.status.isTerminal

/-- The status and the failure agree with an outcome. Only the signal of cancellation counts as
interrupted, and only if the operator has asked for it. -/
inductive Tells (cancelled : Bool) (t : Summary) : Except ControlError Unit → Prop
  | completed (status : t.status = .completed) (error : t.error = none) : Tells cancelled t (.ok ())
  | failed {e : ControlError} (status : t.status = .failed) (error : t.error = some e.message) :
      Tells cancelled t (.error e)
  | interrupted (asked : cancelled = true) (status : t.status = .interrupted)
      (error : t.error = some ControlError.interrupted.message) :
      Tells cancelled t (.error .interrupted)

variable {t : Summary} {cancelled : Bool}

theorem Sound.apply (sound : t.Sound) (u : StatUpdate) : (t.apply u).Sound := by
  unfold Summary.apply
  split
  · exact sound
  · next going =>
    have unfinished : t.finished = false := sound.trans (Bool.eq_false_iff.mpr going)
    cases u with
    | status status => simp [Sound, unfinished]
    | error | state | disk => exact sound

theorem Open.apply {u : StatUpdate} (ahead : t.Open) (work : u.isWork = true) :
    (t.apply u).Open := by
  unfold Summary.apply
  rw [if_neg (Bool.eq_false_iff.mp ahead.status)]
  cases u with
  | status status =>
    rw [StatUpdate.isWork, Bool.not_eq_true'] at work
    exact ⟨work, ahead.error⟩
  | error => cases work
  | state | disk => exact ahead

theorem Open.applyAll {updates : List StatUpdate} (ahead : t.Open)
    (work : ∀ u ∈ updates, u.isWork = true) : (updates.foldl Summary.apply t).Open := by
  induction updates generalizing t with
  | nil => exact ahead
  | cons u rest ih =>
    have next : (t.apply u).Open := ahead.apply (work u List.mem_cons_self)
    exact ih next fun v sent => work v (List.mem_cons_of_mem u sent)

theorem Open.complete (ahead : t.Open) :
    (t.apply (.status .completed)).Tells cancelled (.ok ()) := by
  unfold Summary.apply
  rw [if_neg (Bool.eq_false_iff.mp ahead.status)]
  exact .completed rfl ahead.error

/-- A failure that is told while the end is open is all that is known of the end. -/
theorem Open.apply_failure (ahead : t.Open) (message : String) (status : TaskStatus) :
    (t.apply (.error message)).apply (.status status) =
      ⟨status, some message, t.finished || status.isTerminal⟩ := by
  have going : ¬ t.status.isTerminal = true := Bool.eq_false_iff.mp ahead.status
  have first : t.apply (.error message) = { t with error := some message } := by
    unfold Summary.apply
    rw [if_neg going, ahead.error]
    rfl
  rw [first]
  unfold Summary.apply
  rw [if_neg going]

theorem Open.fail (ahead : t.Open) (e : ControlError) {asked : Bool}
    (fair : asked = true → e = .interrupted ∧ cancelled = true) :
    ((t.apply (.error e.message)).apply (.status (if asked then .interrupted else .failed))).Tells
      cancelled (.error e) := by
  rw [ahead.apply_failure]
  cases asked with
  | false => exact .failed rfl rfl
  | true =>
    rcases fair rfl with ⟨rfl, stop⟩
    exact .interrupted stop rfl rfl

theorem applyAll_terminal (terminal : t.status.isTerminal = true) (updates : List StatUpdate) :
    updates.foldl Summary.apply t = t := by
  induction updates with
  | nil => rfl
  | cons u rest ih =>
    have same : t.apply u = t := if_pos terminal
    rw [List.foldl_cons, same, ih]

theorem Tells.mono {later : Bool} {outcome : Except ControlError Unit}
    (tells : t.Tells cancelled outcome) (still : cancelled = true → later = true) :
    t.Tells later outcome := by
  cases tells with
  | completed status error => exact .completed status error
  | failed status error => exact .failed status error
  | interrupted asked status error => exact .interrupted (still asked) status error

end Summary

/-! ## Accounts -/

/-- Statistics with a summary that follows every update. -/
class Summarized (α : Type) [Updatable α] where
  summary : α → Summary
  summary_apply : ∀ (stat : α) (now : Timestamp) (u : StatUpdate),
    summary (Updatable.apply stat now u) = (summary stat).apply u

instance : Summarized MigrationStat where
  summary stat := ⟨stat.status, stat.error, stat.finishedAt.isSome⟩
  summary_apply stat now u := by
    unfold Updatable.apply instUpdatableMigrationStat MigrationStat.apply Summary.apply
    dsimp only
    split
    · rfl
    · cases u with
      | status status => cases status <;> simp [MigrationStat.change, TaskStatus.isTerminal]
      | error | state | disk => rfl

instance : Summarized CopyStat where
  summary stat := ⟨stat.status, stat.error, stat.finishedAt.isSome⟩
  summary_apply stat now u := by
    unfold Updatable.apply instUpdatableCopyStat CopyStat.apply Summary.apply
    dsimp only
    split
    · rfl
    · cases u with
      | status status => cases status <;> simp [CopyStat.change, TaskStatus.isTerminal]
      | error | state | disk => rfl

namespace Account

variable {α : Type} [Updatable α] [Summarized α] {a b : Account α}

def summary (a : Account α) : Summary := Summarized.summary a.stat

/-- What everyone will see when nothing is left. -/
def forecast (a : Account α) : Summary := a.left.foldl Summary.apply a.summary

theorem forecast_report (updates : List StatUpdate) :
    (a.report updates).forecast = updates.foldl Summary.apply a.forecast :=
  List.foldl_append

/-- Taking in an update does not change what will be seen in the end. -/
theorem forecast_fold {now : Timestamp} (folded : a.fold? now = some b) :
    b.forecast = a.forecast := by
  obtain ⟨stat, left⟩ := a
  cases left with
  | nil => cases folded
  | cons u rest =>
    cases folded
    rw [forecast, summary, Summarized.summary_apply]
    rfl

theorem summary_fold {now : Timestamp} (folded : a.fold? now = some b) (sound : a.summary.Sound) :
    b.summary.Sound := by
  obtain ⟨stat, left⟩ := a
  cases left with
  | nil => cases folded
  | cons u rest =>
    cases folded
    rw [summary, Summarized.summary_apply]
    exact sound.apply u

theorem open_report {updates : List StatUpdate} (ahead : a.forecast.Open)
    (work : ∀ u ∈ updates, u.isWork = true) : (a.report updates).forecast.Open := by
  rw [forecast_report]
  exact ahead.applyAll work

theorem tells_completed {cancelled : Bool} (ahead : a.forecast.Open) :
    (a.report [.status .completed]).forecast.Tells cancelled (.ok ()) := by
  rw [forecast_report]
  exact ahead.complete

theorem tells_failed {cancelled asked : Bool} (ahead : a.forecast.Open) (e : ControlError)
    (fair : asked = true → e = .interrupted ∧ cancelled = true) :
    (a.report [.error e.message, .status (if asked then .interrupted else .failed)]).forecast.Tells
      cancelled (.error e) := by
  rw [forecast_report]
  exact ahead.fail e fair

theorem status_failed {asked : Bool} (ahead : a.forecast.Open) (e : ControlError) :
    (a.report [.error e.message,
      .status (if asked then .interrupted else .failed)]).forecast.status =
      if asked then .interrupted else .failed := by
  rw [forecast_report]
  exact congrArg Summary.status (ahead.apply_failure e.message _)

/-- An end that everyone sees is the one that was told. -/
theorem forecast_of_terminal (terminal : a.summary.status.isTerminal = true) :
    a.forecast = a.summary := Summary.applyAll_terminal terminal a.left

theorem forecast_of_left (none : a.left = []) : a.forecast = a.summary := by
  rw [forecast, none, List.foldl_nil]

end Account

end VmControl
