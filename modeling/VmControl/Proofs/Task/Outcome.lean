import VmControl.Proofs.Migration.Rollback
import VmControl.Proofs.Pool.Exclusion
import VmControl.Proofs.Task.Telling

/-!
# Outcomes of tasks

The outcome of a task travels by three routes: it becomes the failure that the task keeps, it is
told in the statistics that everyone sees, and the final statistics are handed over to be kept. They
agree at the end of every life (`Job.Life.outcome_agrees`).

* `Work.HandsOver`: the statistics are handed over once, and when nothing is left to be taken in, so
  they are final.
* `Job.Settling`: the invariant of a life. A task leaves off only after its statistics were kept.
-/

namespace VmControl

/-! ## Runs of either kind -/

namespace Work

variable {w w' : Work} {s : Surroundings} {cancelled : Bool} {x : Stimulus} {effects : List Effect}

def Told (cancelled : Bool) : Work → Prop
  | .migration r => r.stage.Told cancelled r.account.forecast
  | .copying r => r.stage.Told cancelled r.account.forecast

/-- What has been handed over to be kept when a run has come to an outcome. -/
def HandsOver (w : Work) (kept : List Effect) : Prop :=
  match w.ending? with
  | some (.keeping _) | some (.ended _) => w.left = [] ∧ kept = [w.record]
  | some (.draining _) | none => kept = []

theorem Told.tells {e : Ending} (told : w.Told cancelled) (ending : w.ending? = some e) :
    w.forecast.Tells cancelled e.verdict := by
  cases w with
  | migration r =>
    rw [Told, RunStage.eq_closing ending] at told
    exact told
  | copying r =>
    rw [Told, CopyStage.eq_closing ending] at told
    exact told

/-- An interruption is told only of a run that was cancelled and has failed with the signal of
that. -/
theorem Told.interrupted (told : w.Told cancelled) (status : w.forecast.status = .interrupted) :
    cancelled = true ∧ ∃ e, w.ending? = some e ∧ e.verdict = .error .interrupted := by
  cases w with
  | migration r => exact RunStage.Told.interrupted told status
  | copying r => exact CopyStage.Told.interrupted told status

theorem Told.close (e : Ending) (tells : w.forecast.Tells cancelled e.verdict) :
    (w.close e).Told cancelled := by
  cases w <;> exact tells

/-- Asking a task to stop later does not make false what it has told. -/
theorem Told.mono {later : Bool} (told : w.Told cancelled)
    (still : cancelled = true → later = true) : w.Told later := by
  cases w with
  | migration r => exact RunStage.Told.mono told still
  | copying r => exact CopyStage.Told.mono told still

theorem Step.told (step : Step s cancelled w x w' effects) (told : w.Told cancelled) :
    w'.Told cancelled := by
  cases step with
  | migrate act => exact (MigrationRun.act?_cases act).told told
  | copy act => exact (CopyRun.act?_cases act).told told
  | fold folds =>
    cases folds with
    | migration folded =>
      rw [Told, ← Account.forecast_fold folded] at told
      exact told
    | copying folded =>
      rw [Told, ← Account.forecast_fold folded] at told
      exact told
  | @persist w outcome ending =>
    have tells : w.forecast.Tells cancelled outcome := told.tells ending
    exact .close (.keeping outcome) tells
  | @kept w outcome ending =>
    have tells : w.forecast.Tells cancelled outcome := told.tells ending
    exact .close (.ended outcome) tells

theorem Step.sound (step : Step s cancelled w x w' effects) (sound : w.summary.Sound) :
    w'.summary.Sound := by
  cases step with
  | migrate act =>
    have seen := (MigrationRun.act?_cases act).stat
    rw [summary, Account.summary, ← seen] at sound
    exact sound
  | copy act =>
    have seen := (CopyRun.act?_cases act).stat
    rw [summary, Account.summary, ← seen] at sound
    exact sound
  | fold folds => exact folds.sound sound
  | persist | kept => rwa [summary_close]

theorem Step.handsOver {kept : List Effect} (step : Step s cancelled w x w' effects)
    (hands : w.HandsOver kept) : w'.HandsOver (kept ++ effects.filter Effect.isKeep) := by
  have quiet (silent : ∀ e ∈ effects, e.isKeep = false) : effects.filter Effect.isKeep = [] :=
    List.filter_eq_nil_iff.mpr fun e sent => by simp [silent e sent]
  cases step with
  | @migrate r r' part h effects act =>
    have act := MigrationRun.act?_cases act
    rw [quiet act.isKeep_eq_false, List.append_nil]
    have none : (Work.migration r).ending? = none := act.going
    rw [HandsOver, none] at hands
    cases ending : (Work.migration r').ending? with
    | none => rwa [HandsOver, ending]
    | some e =>
      obtain ⟨outcome, rfl⟩ := act.drains ending
      rwa [HandsOver, ending]
  | @copy r r' h effects act =>
    have act := CopyRun.act?_cases act
    rw [quiet act.isKeep_eq_false, List.append_nil]
    have none : (Work.copying r).ending? = none := act.going
    rw [HandsOver, none] at hands
    cases ending : (Work.copying r').ending? with
    | none => rwa [HandsOver, ending]
    | some e =>
      obtain ⟨outcome, rfl⟩ := act.drains ending
      rwa [HandsOver, ending]
  | fold folds =>
    rw [List.filter_nil, List.append_nil]
    rw [HandsOver] at hands ⊢
    rw [folds.ending?]
    -- what is handed over is final: nothing is left that could be taken in
    split at hands
    · exact absurd hands.1 folds.left
    · exact absurd hands.1 folds.left
    · exact hands
    · exact hands
  | persist ending none =>
    rw [HandsOver, ending] at hands
    rw [HandsOver, ending?_close, left_close, record_close, hands,
      List.filter_cons_of_pos (isKeep_record w), List.filter_nil, List.nil_append]
    exact ⟨none, rfl⟩
  | kept ending =>
    rw [HandsOver, ending] at hands
    rwa [HandsOver, ending?_close, left_close, record_close, List.filter_nil, List.append_nil]

end Work

/-! ## Tasks -/

namespace Job

variable {past : List Moment} {j k : Job} {move : Move} {effects : List Effect}

/-- A task is in progress and has not failed, or it has left off with the outcome of its run. -/
inductive Standing (past : List Moment) (j : Job) : Prop
  | going (busy : j.inProgress = true) (cancelled : j.task.isCancelled = asked past)
      (unfailed : j.task.err = none)
  | finished {outcome : Except ControlError Unit} (idle : j.inProgress = false)
      (ended : j.work.ending? = some (.ended outcome)) (err : j.task.err = failure? outcome)

/-- The invariant of a life. -/
structure Settling (past : List Moment) (j : Job) : Prop where
  standing : j.Standing past
  told : j.work.Told (asked past)
  sound : j.work.summary.Sound
  hands : j.work.HandsOver (kept past)

theorem Standing.busy (standing : j.Standing past) (busy : j.inProgress = true) :
    j.task.isCancelled = asked past ∧ j.task.err = none := by
  cases standing with
  | going _ cancelled unfailed => exact ⟨cancelled, unfailed⟩
  | finished idle => exact nomatch busy.symm.trans idle

theorem Settling.befall (settling : j.Settling past) (befalls : j.Befalls move k effects) :
    k.Settling (past ++ [⟨j, move, effects⟩]) := by
  have still : asked past = true → asked (past ++ [⟨j, move, effects⟩]) = true := asked_mono _
  cases befalls with
  | cancel busy =>
    refine ⟨.going rfl ?_ (settling.standing.busy busy).2, settling.told.mono still,
      settling.sound, ?_⟩
    · rw [asked_concat]
      exact (Bool.or_true _).symm
    · rw [kept_concat, List.filter_nil, List.append_nil]
      exact settling.hands
  | @work s x w effects busy step =>
    obtain ⟨cancelled, unfailed⟩ := settling.standing.busy busy
    have same : asked (past ++ [⟨j, .step s (.work x), effects⟩]) = asked past := by
      rw [asked_concat]
      exact Bool.or_false _
    refine ⟨.going busy (cancelled.trans same.symm) unfailed, ?_, step.sound settling.sound, ?_⟩
    · have told : j.work.Told j.task.isCancelled := by
        rw [cancelled]
        exact settling.told
      rw [same, ← cancelled]
      exact step.told told
    · rw [kept_concat]
      exact step.handsOver settling.hands
  | finish busy ended =>
    refine ⟨.finished rfl ended rfl, settling.told.mono still, settling.sound, ?_⟩
    rw [kept_concat, List.filter_nil, List.append_nil]
    exact settling.hands
  | release idle =>
    refine ⟨?_, settling.told.mono still, settling.sound, ?_⟩
    · cases settling.standing with
      | going busy => exact nomatch busy.symm.trans idle
      | finished _ ended err => exact .finished idle ended err
    · rw [kept_concat, List.filter_nil, List.append_nil]
      exact settling.hands

/-- When a task has left off, all that was told is seen, and it was handed over. -/
theorem Settling.over (settling : j.Settling past) (idle : j.inProgress = false) :
    ∃ outcome, j.work.ending? = some (.ended outcome) ∧ j.task.err = failure? outcome ∧
      kept past = [j.work.record] ∧ j.work.forecast = j.work.summary := by
  cases settling.standing with
  | going busy => exact nomatch busy.symm.trans idle
  | @finished outcome _ ended err =>
    have hands := settling.hands
    rw [Work.HandsOver, ended] at hands
    exact ⟨outcome, ended, err, hands.2, Work.forecast_of_left hands.1⟩

/-- What everyone sees of a task that has left off tells its outcome. -/
theorem Settling.tells (settling : j.Settling past) (idle : j.inProgress = false) :
    ∃ outcome, j.work.ending? = some (.ended outcome) ∧ j.task.err = failure? outcome ∧
      j.work.summary.Tells (asked past) outcome := by
  rcases settling.over idle with ⟨outcome, ended, err, -, seen⟩
  have tells : j.work.forecast.Tells (asked past) outcome := settling.told.tells ended
  rw [seen] at tells
  exact ⟨outcome, ended, err, tells⟩

theorem Life.settling (life : Life past j) : j.Settling past := by
  induction life with
  | migration o config stamp => exact ⟨.going rfl rfl rfl, ⟨rfl, rfl⟩, rfl, rfl⟩
  | copying o config stamp => exact ⟨.going rfl rfl rfl, ⟨rfl, rfl⟩, rfl, rfl⟩
  | move _ moved ih => exact ih.befall (move?_cases moved)

/-- When a task has left off, its failure, the statistics that everyone sees and the record that was
handed over agree. Before that the time of the end is not known unless the statistics are final. -/
theorem Life.outcome_agrees (life : Life past j) :
    (j.inProgress = false →
      (j.work.status = .completed ∨ j.work.status = .interrupted ∨ j.work.status = .failed) ∧
      (j.work.status = .completed ↔ j.task.err = none) ∧
      (j.task.err = none ↔ j.work.error = none) ∧
      (∀ e, j.task.err = some e → j.work.error = some e.message) ∧
      j.work.finishedAt ≠ none ∧
      kept past = [j.work.record]) ∧
    (j.inProgress = true → j.work.status.isTerminal = false → j.work.finishedAt = none) := by
  have finished : j.work.finishedAt.isSome = j.work.status.isTerminal := by
    have sound := life.settling.sound
    rw [Work.summary_eq] at sound
    exact sound
  constructor
  · intro idle
    rcases life.settling.over idle with ⟨-, -, -, record, -⟩
    rcases life.settling.tells idle with ⟨outcome, -, err, tells⟩
    rcases tells.agrees with ⟨terminal, completed, error⟩
    rw [← err, Work.summary_eq] at completed error
    refine ⟨TaskStatus.isTerminal_iff.mp ?_, completed, ?_, ?_, ?_, record⟩
    · rwa [Work.summary_eq] at terminal
    · rw [show j.work.error = _ from error]
      exact Option.map_eq_none_iff.symm
    · intro e failed
      rw [show j.work.error = _ from error, failed]
      rfl
    · rw [Work.summary_eq] at terminal
      exact Option.isSome_iff_ne_none.mp (finished.trans terminal)
  · intro _ going
    rw [going] at finished
    exact Option.isSome_eq_false_iff.mp finished |> Option.isNone_iff_eq_none.mp

end Job

namespace Sample

/-- The machine is on its first connection, which has told of the start and the end of the copy. -/
def copySurroundings (now : Nat) : Surroundings :=
  { surroundings now with
    log := fun _ => ⟨16,
      [⟨Event.jobStatusChange, .obj [("id", .str disk.copyJob), ("status", .str "running")],
        ⟨100, 1⟩⟩,
       ⟨Event.blockJobCompleted, .obj [("device", .str disk.copyJob)], ⟨100, 2⟩⟩], false, 2⟩ }

/-- What happens to a copy whose job is no longer listed when it is looked up, up to its end. -/
def copyMoves : List Job.Move :=
  ([.act .course .enter,
    .act .course (.prepared (.ok ⟨"/backup/root", false, none⟩)),
    .act .course (.reply (.ok .null)),
    .act .course (.reply (.ok (.arr []))),
    .fold, .fold, .fold, .persist, .kept].map fun x => .step (copySurroundings 0) (.work x)) ++
  [.step (copySurroundings 0) .finish]

theorem copied_replayable :
    ((Job.copying copying .default ⟨100, 0⟩).replay? copyMoves).isSome := rfl

def copied : List Job.Moment × Job := Option.get _ copied_replayable

theorem copied_life : Job.Life copied.1 copied.2 :=
  .of_replay? (.copying copying .default ⟨100, 0⟩) copied_replayable

/-- What happens to a migration whose mirror cannot be started, up to its end. -/
def failingMoves : List Job.Move :=
  failingMoments.map (fun moment => .step moment.1 (.work moment.2)) ++
    [.step (surroundings 0) (.work .persist), .step (surroundings 0) (.work .kept),
      .step (surroundings 0) .finish]

theorem undone_replayable :
    ((Job.migration plan.options .default ⟨100, 0⟩).replay? failingMoves).isSome := rfl

def undone : List Job.Moment × Job := Option.get _ undone_replayable

theorem undone_life : Job.Life undone.1 undone.2 :=
  .of_replay? (.migration plan.options .default ⟨100, 0⟩) undone_replayable

/-- The copy is completed and the migration failed, and both are kept as they are seen. -/
theorem ended_agree :
    (copied.2.inProgress = false ∧ copied.2.work.status = .completed ∧
      Job.kept copied.1 = [copied.2.work.record]) ∧
    undone.2.inProgress = false ∧ undone.2.work.status = .failed ∧
      Job.kept undone.1 = [undone.2.work.record] :=
  ⟨⟨rfl, rfl, (copied_life.outcome_agrees.1 rfl).2.2.2.2.2⟩,
    rfl, rfl, (undone_life.outcome_agrees.1 rfl).2.2.2.2.2⟩

end Sample

end VmControl
