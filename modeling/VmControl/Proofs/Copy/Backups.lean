import VmControl.Proofs.Migration.PhaseOrder
import VmControl.Proofs.Task.Outcome

/-!
# The backup of a copy

A copy orders its backup in the mode that its options tell, and only then goes on when the monitor
has answered that the backup was taken. `CopyRun.Backs` is the invariant; the life of every copy
keeps it (`Job.Life.backs`). So a copy that is completed has had its backup taken
(`Job.Life.accepted_of_completed`).
-/

namespace VmControl

namespace Order

/-- Whether a backup of what a bitmap has recorded is ordered. -/
def isIncremental : Order → Bool
  | .incrementalBackup .. => true
  | _ => false

/-- Whether a backup of everything is ordered, together with a change of the bitmap. -/
def isFull : Order → Bool
  | .fullBackup .. => true
  | _ => false

/-- A backup is ordered only in a mode. -/
structure Suits (o : Order) (mode : CopyMode) : Prop where
  incremental : o.isIncremental = true → mode = .incremental
  full : o.isFull = true → mode ≠ .incremental

end Order

namespace Job

def orders (past : List Moment) : List Order :=
  past.flatMap fun m => m.effects.filterMap Effect.order?

/-- The answer to the order of the backup of a copy. -/
def Moment.answer? (m : Moment) : Option (Except ControlError Json) :=
  match m.before.work, m.move with
  | .copying r, .step _ (.work (.act .course (.reply answer))) =>
    match r.stage with
    | .starting _ => some answer
    | _ => none
  | _, _ => none

/-- The monitor has answered that the backup is taken. -/
def Accepted (past : List Moment) : Prop := ∃ v, .ok v ∈ past.filterMap Moment.answer?

/-- The monitor has answered with an error object. -/
def Refused (past : List Moment) : Prop :=
  ∃ reason desc, .error (.refused reason desc) ∈ past.filterMap Moment.answer?

variable {past : List Moment} {m : Moment}

theorem mem_orders_concat {o : Order} :
    o ∈ orders (past ++ [m]) ↔ o ∈ orders past ∨ o ∈ m.effects.filterMap Effect.order? := by
  rw [orders, List.flatMap_append, List.flatMap_singleton, List.mem_append, orders]

theorem not_refused {v : Json} (answers : past.filterMap Moment.answer? = [.ok v]) :
    ¬ Refused past := by
  intro refused
  obtain ⟨reason, desc, here⟩ := refused
  rw [answers] at here
  exact nomatch List.mem_singleton.mp here

theorem Accepted.append (accepted : Accepted past) (m : Moment) : Accepted (past ++ [m]) := by
  obtain ⟨v, here⟩ := accepted
  refine ⟨v, ?_⟩
  rw [List.filterMap_append]
  exact List.mem_append_left _ here

theorem Accepted.last {v : Json} (answer : m.answer? = some (.ok v)) : Accepted (past ++ [m]) := by
  refine ⟨v, ?_⟩
  rw [List.filterMap_append]
  refine List.mem_append_right _ ?_
  rw [List.filterMap_cons_some answer]
  exact List.mem_cons_self

end Job

/-! ## Runs -/

/-- Whether a copy has come so far only if its backup was taken. -/
def CopyStage.isTaken : CopyStage → Bool
  | .awaitingStart .. | .listing _ | .pausing .. => true
  | .closing e => e.verdict.isOk
  | .fresh | .preparing | .starting _ | .cancelling .. => false

namespace CopyRun

/-- What a copy has ordered, and what it knows to be taken. -/
structure Backs (past : List Job.Moment) (r : CopyRun) : Prop where
  suits : ∀ o ∈ Job.orders past, o.Suits r.plan.options.mode
  taken : r.stage.isTaken = true → Job.Accepted past

variable {past : List Job.Moment} {r r' : CopyRun} {s : Surroundings} {cancelled : Bool}
  {h : Happening} {st : CopyStep} {m : Job.Moment}

theorem startOrder_suits (r : CopyRun) (target : CopyTarget) :
    (r.startOrder target).Suits r.plan.options.mode := by
  unfold startOrder
  cases mode : r.plan.options.mode with
  | incremental => exact ⟨fun _ => rfl, nofun⟩
  | full | resetAndFull => exact ⟨nofun, fun _ => nofun⟩

theorem Act.suits (act : r.Act s cancelled h st) :
    ∀ o ∈ st.2.filterMap Effect.order?, o.Suits r.plan.options.mode := by
  intro o ordered
  obtain ⟨e, sent, order⟩ := List.mem_filterMap.mp ordered
  cases act with
  | order =>
    obtain rfl := List.mem_singleton.mp sent
    cases order
    exact startOrder_suits r _
  | list | abandon =>
    obtain rfl := List.mem_singleton.mp sent
    cases order
    exact ⟨nofun, nofun⟩
  | begin =>
    obtain rfl := List.mem_singleton.mp sent
    cases order
  | unprepared | await | measured => cases sent
  | refused | succeed | cancelled =>
    obtain rfl := List.mem_singleton.mp sent
    cases order

theorem Follows.accepted {j : CopyJob} (follows : r.Follows j h) (backs : r.Backs past)
    (work : m.before.work = .copying r) (move : m.move = .step s (.work (.act .course h))) :
    Job.Accepted (past ++ [m]) := by
  cases follows with
  | @taken v stage =>
    have answer : m.answer? = some (.ok v) := by
      rw [Job.Moment.answer?, work, move]
      dsimp only
      rw [stage]
    exact .last answer
  | awaiting stage | listing stage | pausing stage =>
    exact (backs.taken (by rw [stage]; rfl)).append m

theorem Act.backs (act : r.Act s cancelled h st) (backs : r.Backs past) (plan : st.1.plan = r.plan)
    (work : m.before.work = .copying r) (move : m.move = .step s (.work (.act .course h)))
    (effects : m.effects = st.2) : st.1.Backs (past ++ [m]) where
  suits o ordered := by
    rw [plan]
    rcases Job.mem_orders_concat.mp ordered with before | now
    · exact backs.suits o before
    · rw [effects] at now
      exact act.suits o now
  taken taken := by
    cases act with
    | await follows | list follows | measured follows | succeed follows =>
      exact follows.accepted backs work move
    | begin | unprepared | order | refused | abandon | cancelled => cases taken

/-- A step that orders nothing and goes no further. -/
theorem Backs.frame (backs : r.Backs past) (plan : r'.plan = r.plan)
    (stage : r'.stage.isTaken = r.stage.isTaken) (quiet : m.effects.filterMap Effect.order? = []) :
    r'.Backs (past ++ [m]) where
  suits o ordered := by
    rw [Job.mem_orders_concat, quiet] at ordered
    rw [plan]
    exact backs.suits o (ordered.resolve_right (List.not_mem_nil))
  taken taken := by
    rw [stage] at taken
    exact (backs.taken taken).append m

end CopyRun

/-! ## Lives -/

namespace Work

variable {past : List Job.Moment} {w w' : Work} {s : Surroundings} {cancelled : Bool} {x : Stimulus}
  {effects : List Effect} {m : Job.Moment}

/-- What a copy has ordered, and what it knows to be taken; nothing is said of a migration. -/
def Backs (past : List Job.Moment) : Work → Prop
  | .migration _ => True
  | .copying r => r.Backs past

theorem Backs.same (backs : w.Backs past) (quiet : m.effects.filterMap Effect.order? = []) :
    w.Backs (past ++ [m]) := by
  cases w with
  | migration => trivial
  | copying => exact CopyRun.Backs.frame backs rfl rfl quiet

theorem Backs.close {e e' : Ending} (backs : w.Backs past) (ending : w.ending? = some e)
    (verdict : e'.verdict = e.verdict) (quiet : m.effects.filterMap Effect.order? = []) :
    (w.close e').Backs (past ++ [m]) := by
  cases w with
  | migration => trivial
  | copying r =>
    refine CopyRun.Backs.frame backs rfl ?_ quiet
    rw [CopyStage.eq_closing ending]
    exact congrArg Except.isOk verdict

theorem Step.backs (step : Step s cancelled w x w' effects) (backs : w.Backs past)
    (work : m.before.work = w) (move : m.move = .step s (.work x)) (sent : m.effects = effects) :
    w'.Backs (past ++ [m]) := by
  cases step with
  | migrate => trivial
  | copy act =>
    exact (CopyRun.act?_cases act).backs backs (CopyRun.act?_plan act) work move sent
  | fold folds =>
    cases folds with
    | migration => trivial
    | copying => exact CopyRun.Backs.frame backs rfl rfl (by rw [sent]; rfl)
  | persist ending =>
    refine backs.close ending rfl ?_
    rw [sent]
    cases w <;> rfl
  | kept ending => exact backs.close ending rfl (by rw [sent]; rfl)

end Work

namespace Job

variable {past : List Moment} {j : Job}

theorem Life.backs (life : Life past j) : j.work.Backs past := by
  induction life with
  | migration => trivial
  | copying => exact ⟨fun _ none => (nomatch none), nofun⟩
  | move _ moved ih =>
    cases move?_cases moved with
    | cancel | finish | release => exact ih.same rfl
    | work _ step => exact step.backs ih rfl rfl rfl

/-- A copy that is completed has had its backup taken. -/
theorem Life.accepted_of_completed {r : CopyRun} (life : Life past j) (work : j.work = .copying r)
    (idle : j.inProgress = false) (completed : j.work.status = .completed) : Accepted past := by
  obtain ⟨outcome, ended, -, tells⟩ := life.settling.tells idle
  rw [Work.summary_eq, completed] at tells
  have backs := life.backs
  rw [work] at ended backs
  have stage : r.stage = .closing (.ended outcome) := CopyStage.eq_closing ended
  cases tells with
  | completed => exact backs.taken (by rw [stage]; rfl)
  | failed status | interrupted _ status => cases status

end Job

end VmControl
