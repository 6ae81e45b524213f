import VmControl.Proofs.Copy.Acts
import VmControl.Proofs.Pool.Jobs
import VmControl.Proofs.Replay
import VmControl.Proofs.Task.Summary

/-!
# The life of a task

`Job.Life past j` says that a task, of either kind, has come from its start to `j` with the moments
`past`. Everything but the task itself is free: the operator may cancel at any moment, any
surroundings may be found, and anything may happen that the task can react to.

* `Work.Step` lists the steps of a run of either kind: an act, an update that is taken in, and the
  two steps from an outcome to the end (`Work.step?_cases`).
* `Job.Move` is what befalls a task. Its moves are listed by `Job.Befalls` (`Job.move?_cases`).
* `Job.Life.of_replay?` leads a task through given moves.
-/

namespace VmControl

namespace Effect

/-- Whether an effect hands final statistics over to be kept. -/
def isKeep : Effect → Bool
  | .keepMigration .. | .keepCopying .. => true
  | _ => false

end Effect

/-! ## Runs of either kind -/

/-- How far a migration with an outcome has come. -/
def RunStage.ending? : RunStage → Option Ending
  | .closing e => some e
  | _ => none

def CopyStage.ending? : CopyStage → Option Ending
  | .closing e => some e
  | _ => none

theorem RunStage.eq_closing {stage : RunStage} {e : Ending} (ending : stage.ending? = some e) :
    stage = .closing e := by
  cases stage <;> cases ending
  rfl

theorem CopyStage.eq_closing {stage : CopyStage} {e : Ending} (ending : stage.ending? = some e) :
    stage = .closing e := by
  cases stage <;> cases ending
  rfl

namespace Work

/-- The status that everyone sees. -/
def status : Work → TaskStatus
  | .migration r => r.account.stat.status
  | .copying r => r.account.stat.status

/-- The failure that everyone sees. -/
def error : Work → Option String
  | .migration r => r.account.stat.error
  | .copying r => r.account.stat.error

def finishedAt : Work → Option Timestamp
  | .migration r => r.account.stat.finishedAt
  | .copying r => r.account.stat.finishedAt

/-- The statistics as they are handed over to be kept. -/
def record : Work → Effect
  | .migration r => .keepMigration r.vm r.account.stat
  | .copying r => .keepCopying r.vm r.account.stat

/-- The updates of the statistics that are not yet taken in. -/
def left : Work → List StatUpdate
  | .migration r => r.account.left
  | .copying r => r.account.left

def summary : Work → Summary
  | .migration r => r.account.summary
  | .copying r => r.account.summary

def forecast : Work → Summary
  | .migration r => r.account.forecast
  | .copying r => r.account.forecast

/-- How far a run with an outcome has come. -/
def ending? : Work → Option Ending
  | .migration r => r.stage.ending?
  | .copying r => r.stage.ending?

/-- The run with an outcome at another point. -/
def close (e : Ending) : Work → Work
  | .migration r => .migration (r.goTo (.closing e))
  | .copying r => .copying (r.goTo (.closing e))

variable {w w' : Work} {e : Ending} {s : Surroundings} {cancelled : Bool} {x : Stimulus}
  {effects : List Effect}

@[simp] theorem summary_close : (w.close e).summary = w.summary := by cases w <;> rfl

@[simp] theorem left_close : (w.close e).left = w.left := by cases w <;> rfl

@[simp] theorem record_close : (w.close e).record = w.record := by cases w <;> rfl

@[simp] theorem ending?_close : (w.close e).ending? = some e := by cases w <;> rfl

theorem forecast_of_left (none : w.left = []) : w.forecast = w.summary := by
  cases w with
  | migration r => exact Account.forecast_of_left none
  | copying r => exact Account.forecast_of_left none

theorem forecast_of_terminal (terminal : w.summary.status.isTerminal = true) :
    w.forecast = w.summary := by
  cases w with
  | migration r => exact Account.forecast_of_terminal terminal
  | copying r => exact Account.forecast_of_terminal terminal

theorem summary_eq (w : Work) : w.summary = ⟨w.status, w.error, w.finishedAt.isSome⟩ := by
  cases w <;> rfl

theorem isKeep_record (w : Work) : w.record.isKeep = true := by cases w <;> rfl

/-- A run has ended exactly with the outcome at which it has arrived. -/
theorem outcome?_eq_some_iff {outcome : Except ControlError Unit} :
    w.outcome? = some outcome ↔ w.ending? = some (.ended outcome) := by
  have ended (e : Ending) : e.outcome? = some outcome ↔ e = .ended outcome := by
    cases e <;> simp [Ending.outcome?]
  cases w with
  | migration r =>
    cases stage : r.stage <;>
      simp [outcome?, MigrationRun.outcome?, ending?, RunStage.ending?, stage, ended]
  | copying r =>
    cases stage : r.stage <;>
      simp [outcome?, CopyRun.outcome?, ending?, CopyStage.ending?, stage, ended]

/-- The run after it has taken in an update of its statistics. -/
inductive Folds (now : Timestamp) : Work → Work → Prop
  | migration {r : MigrationRun} {account : Account MigrationStat}
      (folded : r.account.fold? now = some account) :
      Folds now (.migration r) (.migration { r with account := account })
  | copying {r : CopyRun} {account : Account CopyStat}
      (folded : r.account.fold? now = some account) :
      Folds now (.copying r) (.copying { r with account := account })

theorem Folds.sound {now : Timestamp} (folds : Folds now w w') (sound : w.summary.Sound) :
    w'.summary.Sound := by
  cases folds with
  | migration folded => exact Account.summary_fold folded sound
  | copying folded => exact Account.summary_fold folded sound

theorem Folds.ending? {now : Timestamp} (folds : Folds now w w') : w'.ending? = w.ending? := by
  cases folds <;> rfl

theorem Folds.left {now : Timestamp} (folds : Folds now w w') : w.left ≠ [] := by
  cases folds with
  | migration folded => exact (Account.fold?_isSome_iff _ now).mp (by rw [folded]; rfl)
  | copying folded => exact (Account.fold?_isSome_iff _ now).mp (by rw [folded]; rfl)

/-- The steps of a run. -/
inductive Step (s : Surroundings) (cancelled : Bool) : Work → Stimulus → Work → List Effect → Prop
  | migrate {r r' : MigrationRun} {part : Part} {h : Happening} {effects : List Effect}
      (act : r.act? s cancelled part h = some (r', effects)) :
      Step s cancelled (.migration r) (.act part h) (.migration r') effects
  | copy {r r' : CopyRun} {h : Happening} {effects : List Effect}
      (act : r.act? s cancelled h = some (r', effects)) :
      Step s cancelled (.copying r) (.act .course h) (.copying r') effects
  | fold {w w' : Work} (folds : Folds s.stamp w w') : Step s cancelled w .fold w' []
  | persist {w : Work} {outcome : Except ControlError Unit}
      (ending : w.ending? = some (.draining outcome)) (none : w.left = []) :
      Step s cancelled w .persist (w.close (.keeping outcome)) [w.record]
  | kept {w : Work} {outcome : Except ControlError Unit}
      (ending : w.ending? = some (.keeping outcome)) :
      Step s cancelled w .kept (w.close (.ended outcome)) []

end Work

/-- A step towards the end hands the statistics over when nothing is left, and then waits until they
are kept. -/
theorem Ending.step?_cases {α : Type} {account : Account α} {keep : Effect} {e e' : Ending}
    {x : Stimulus} {effects : List Effect} (h : e.step? account keep x = some (e', effects)) :
    (∃ outcome, e = .draining outcome ∧ x = .persist ∧ account.left = [] ∧
      e' = .keeping outcome ∧ effects = [keep]) ∨
    ∃ outcome, e = .keeping outcome ∧ x = .kept ∧ e' = .ended outcome ∧ effects = [] := by
  unfold step? at h
  split at h
  · next outcome =>
    split at h <;> cases h
    next none => exact Or.inl ⟨outcome, rfl, rfl, List.isEmpty_iff.mp none, rfl, rfl⟩
  · next outcome =>
    cases h
    exact Or.inr ⟨outcome, rfl, rfl, rfl, rfl⟩
  · cases h

namespace Work

variable {w w' : Work} {s : Surroundings} {cancelled : Bool} {x : Stimulus} {effects : List Effect}

theorem Step.of_ending {α : Type} {account : Account α} {e e' : Ending}
    (ending : w.ending? = some e) (left : w.left = account.left)
    (h : e.step? account w.record x = some (e', effects)) :
    Step s cancelled w x (w.close e') effects := by
  rcases Ending.step?_cases h with ⟨outcome, rfl, rfl, none, rfl, rfl⟩
    | ⟨outcome, rfl, rfl, rfl, rfl⟩
  · exact .persist ending (left.trans none)
  · exact .kept ending

theorem step?_cases (h : w.step? s cancelled x = some (w', effects)) :
    Step s cancelled w x w' effects := by
  cases w with
  | migration r =>
    obtain ⟨⟨r', _⟩, stepped, same⟩ := Option.map_eq_some_iff.mp h
    cases same
    cases x with
    | act part happening => exact .migrate stepped
    | fold =>
      obtain ⟨account, folded, same⟩ := Option.map_eq_some_iff.mp stepped
      cases same
      exact .fold (.migration folded)
    | persist | kept =>
      simp only [MigrationRun.step?] at stepped
      split at stepped
      · next e stage =>
        obtain ⟨⟨e', _⟩, ends, same⟩ := Option.map_eq_some_iff.mp stepped
        cases same
        have ending : (Work.migration r).ending? = some e := by rw [ending?, stage]; rfl
        exact .of_ending ending rfl ends
      · cases stepped
  | copying r =>
    obtain ⟨⟨r', _⟩, stepped, same⟩ := Option.map_eq_some_iff.mp h
    cases same
    cases x with
    | act part happening =>
      cases part with
      | course => exact .copy stepped
      | leg | watch | transfer => cases stepped
    | fold =>
      obtain ⟨account, folded, same⟩ := Option.map_eq_some_iff.mp stepped
      cases same
      exact .fold (.copying folded)
    | persist | kept =>
      simp only [CopyRun.step?] at stepped
      split at stepped
      · next e stage =>
        obtain ⟨⟨e', _⟩, ends, same⟩ := Option.map_eq_some_iff.mp stepped
        cases same
        have ending : (Work.copying r).ending? = some e := by rw [ending?, stage]; rfl
        exact .of_ending ending rfl ends
      · cases stepped

end Work

/-! ## Tasks -/

namespace Job

/-- What befalls a task. -/
inductive Move where
  /-- The operator cancels it. -/
  | cancel
  | step (s : Surroundings) (x : JobStimulus)

/-- The task after a move and what the move wants done, if it can be made now. -/
def move? (j : Job) : Move → Option (Job × List Effect)
  | .cancel => (j.task.cancel?).map fun task => ({ j with task := task }, [])
  | .step s x => j.step? s x

structure Moment where
  before : Job
  move : Move
  effects : List Effect

/-- The moments through which a task has gone, oldest first. -/
inductive Life : List Moment → Job → Prop
  | migration (o : MigrationOptions) (config : Config) (stamp : Timestamp) :
      Life [] (.migration o config stamp)
  | copying (o : CopyOptions) (config : Config) (stamp : Timestamp) :
      Life [] (.copying o config stamp)
  | move {past : List Moment} {j k : Job} {move : Move} {effects : List Effect} :
      Life past j → j.move? move = some (k, effects) → Life (past ++ [⟨j, move, effects⟩]) k

/-- The operator has cancelled the task. -/
def asked (past : List Moment) : Bool :=
  past.any fun m =>
    match m.move with
    | .cancel => true
    | .step .. => false

/-- What was handed over to be kept. -/
def kept (past : List Moment) : List Effect :=
  past.flatMap fun m => m.effects.filter Effect.isKeep

/-- The moves of a task: what each of them finds and leaves. -/
inductive Befalls (j : Job) : Move → Job → List Effect → Prop
  | cancel (busy : j.inProgress = true) :
      Befalls j .cancel { j with task := { j.task with token := some true } } []
  | work {s : Surroundings} {x : Stimulus} {w : Work} {effects : List Effect}
      (busy : j.inProgress = true) (step : Work.Step s j.task.isCancelled j.work x w effects) :
      Befalls j (.step s (.work x)) { j with work := w } effects
  | finish {s : Surroundings} {outcome : Except ControlError Unit} (busy : j.inProgress = true)
      (ended : j.work.ending? = some (.ended outcome)) :
      Befalls j (.step s .finish) { j with task := j.task.finish (failure? outcome) } []
  | release {s : Surroundings} (idle : j.inProgress = false) :
      Befalls j (.step s .release) { j with task := j.task.release onlyRun } []

variable {past : List Moment} {j k : Job} {move : Move} {effects : List Effect}

theorem move?_cases (h : j.move? move = some (k, effects)) : j.Befalls move k effects := by
  cases move with
  | cancel =>
    obtain ⟨task, fired, same⟩ := Option.map_eq_some_iff.mp h
    cases same
    obtain ⟨busy, rfl⟩ := cancel?_eq_some fired
    exact .cancel busy
  | step s x =>
    rcases step?_cases h with ⟨y, w, rfl, busy, stepped, rfl⟩
      | ⟨outcome, rfl, ended, busy, rfl, rfl⟩ | ⟨rfl, idle, rfl, rfl⟩
    · exact .work busy (Work.step?_cases stepped)
    · exact .finish busy (Work.outcome?_eq_some_iff.mp ended)
    · exact .release idle

theorem kept_concat {m : Moment} :
    kept (past ++ [m]) = kept past ++ m.effects.filter Effect.isKeep := by
  rw [kept, List.flatMap_append, List.flatMap_singleton, kept]

theorem asked_concat {m : Moment} : asked (past ++ [m]) = (asked past || asked [m]) :=
  List.any_append

theorem asked_mono (m : Moment) (before : asked past = true) : asked (past ++ [m]) = true := by
  rw [asked_concat, before, Bool.true_or]

/-! ## Lives from given moves -/

/-- Leads a task through moves. -/
def replay? (j : Job) (moves : List Move) : Option (List Moment × Job) :=
  VmControl.replay? move? Prod.fst (fun j move (_, effects) => [⟨j, move, effects⟩]) j moves

theorem Life.of_replay? {moves : List Move} (begun : Life [] j)
    (replayable : (j.replay? moves).isSome) :
    Life (Option.get _ replayable).1 (Option.get _ replayable).2 :=
  holds_of_replay? (R := Life) begun (fun _ _ => .move) replayable

end Job

end VmControl
