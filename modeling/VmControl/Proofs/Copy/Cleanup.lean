import VmControl.Proofs.Copy.Backups
import VmControl.Proofs.Past
import VmControl.Proofs.Task.Interruption

/-!
# A copy leaves no job behind

What a copy orders of its monitor is one of a few trails (`CopyRun.Trail`): nothing, as long as
there is no target; the start of its backup; the start and listings, once the monitor has taken the
backup; or these and one cancellation of the job, with which a copy ends that fails while its job
may be at work. Each act leads from a trail to a trail (`CopyRun.Act.trail`), so every life keeps to
them (`Job.Life.trailed`), and `Job.Life.leaves_no_job` reads off what that means for the job of the
copy.

A start to which no answer comes counts as refused: the connection is gone then, and with it the way
to the job.
-/

namespace VmControl

namespace Order

/-- The block job that an order names. -/
def job? : Order → Option String
  | .driveMirror job .. | .blockJobComplete job | .blockJobCancel job => some job
  | .incrementalBackup backup _ | .fullBackup _ backup _ => some backup.job
  | .queryBlockJobs | .setCapabilities | .setParameters .. | .migrate _ | .queryMigrate |
    .migrateCancel | .quit => none

/-- Whether a backup is ordered, of whatever kind. -/
def isBackup (o : Order) : Bool := o.isIncremental || o.isFull

/-- Whether the cancellation of a block job is ordered. -/
def isCancel : Order → Bool
  | .blockJobCancel _ => true
  | _ => false

end Order

namespace Job

/-- The target that is made ready at a moment. -/
def Moment.target? (m : Moment) : Option CopyTarget :=
  match m.move with
  | .step _ (.work (.act .course (.prepared (.ok target)))) => some target
  | _ => none

def targets (past : List Moment) : List CopyTarget := past.filterMap Moment.target?

/-- The answers to the start of a backup. -/
def answers (past : List Moment) : List (Except ControlError Json) := past.filterMap Moment.answer?

/-- The monitor has answered since the cancellation of a job was ordered. -/
def CancelAnswered (job : String) (past : List Moment) : Prop :=
  Once (fun earlier m => .blockJobCancel job ∈ orders earlier ∧
    ∃ s answer, m.move = .step s (.work (.act .course (.reply answer)))) past

variable {past : List Moment} {m : Moment}

theorem orders_concat :
    orders (past ++ [m]) = orders past ++ m.effects.filterMap Effect.order? := by
  rw [orders, List.flatMap_append, List.flatMap_singleton, orders]

theorem targets_concat : targets (past ++ [m]) = targets past ++ m.target?.toList := by
  rw [targets, List.filterMap_append, targets, List.filterMap_cons]
  cases m.target? <;> rfl

theorem answers_concat : answers (past ++ [m]) = answers past ++ m.answer?.toList := by
  rw [answers, List.filterMap_append, answers, List.filterMap_cons]
  cases m.answer? <;> rfl

theorem accepted_of_answers {v : Json} (taken : answers past = [.ok v]) : Accepted past := by
  refine ⟨v, ?_⟩
  rw [← answers, taken]
  exact List.mem_singleton_self _

theorem not_accepted_of_answers {e : ControlError} (refused : answers past = [.error e]) :
    ¬ Accepted past := by
  rintro ⟨v, here⟩
  rw [← answers, refused] at here
  exact nomatch List.mem_singleton.mp here

theorem not_accepted_of_nil (none : answers past = []) : ¬ Accepted past := by
  rintro ⟨v, here⟩
  rw [← answers, none] at here
  cases here

end Job

/-! ## Runs -/

namespace CopyStage

/-- Whether a copy has come to a failure. -/
def isLost : CopyStage → Bool
  | .closing e => !e.verdict.isOk
  | _ => false

/-- Whether a copy has no target yet, or has failed. -/
def isEarly : CopyStage → Bool
  | .fresh | .preparing => true
  | stage => stage.isLost

/-- Whether a copy waits for the answer to the start of its backup. -/
def isAsking : CopyStage → Bool
  | .starting _ => true
  | _ => false

/-- Whether a copy is getting rid of its job, or has failed. -/
def isLeaving : CopyStage → Bool
  | .cancelling .. => true
  | stage => stage.isLost

/-- A copy that follows its job, or has succeeded, is at no other stage. -/
theorem of_isTaken {stage : CopyStage} (taken : stage.isTaken = true) :
    stage.isEarly = false ∧ stage.isAsking = false ∧ stage.isLost = false ∧
      stage.isLeaving = false := by
  cases stage with
  | closing e =>
    have lost : (CopyStage.closing e).isLost = false := by
      rw [isLost, show e.verdict.isOk = true from taken]
      rfl
    exact ⟨lost, rfl, lost, lost⟩
  | awaitingStart | listing | pausing => exact ⟨rfl, rfl, rfl, rfl⟩
  | fresh | preparing | starting | cancelling => cases taken

end CopyStage

namespace CopyRun

/-- What a copy has ordered on its way to a stage, and how the start of its backup was answered. -/
inductive Trail (past : List Job.Moment) (r : CopyRun) : Prop
  | early (stage : r.stage.isEarly = true) (targets : Job.targets past = [])
      (orders : Job.orders past = []) (answers : Job.answers past = [])
  | asking {target : CopyTarget} (stage : r.stage.isAsking = true)
      (targets : Job.targets past = [target]) (orders : Job.orders past = [r.startOrder target])
      (answers : Job.answers past = [])
  | refused {target : CopyTarget} {e : ControlError} (stage : r.stage.isLost = true)
      (targets : Job.targets past = [target]) (orders : Job.orders past = [r.startOrder target])
      (answers : Job.answers past = [.error e])
  | following {target : CopyTarget} {n : Nat} {v : Json} (stage : r.stage.isTaken = true)
      (targets : Job.targets past = [target])
      (orders : Job.orders past = r.startOrder target :: List.replicate n .queryBlockJobs)
      (answers : Job.answers past = [.ok v])
  | leaving {target : CopyTarget} {n : Nat} {v : Json} (stage : r.stage.isLeaving = true)
      (targets : Job.targets past = [target])
      (orders : Job.orders past =
        r.startOrder target :: List.replicate n .queryBlockJobs ++ [.blockJobCancel r.job])
      (answers : Job.answers past = [.ok v])
      (answered : r.stage.isLost = true → Job.CancelAnswered r.job past)

variable {past : List Job.Moment} {r r' : CopyRun} {s : Surroundings} {cancelled : Bool}
  {h : Happening} {st : CopyStep} {m : Job.Moment}

theorem startOrder_backs (r : CopyRun) (target : CopyTarget) :
    (r.startOrder target).isBackup = true ∧ (r.startOrder target).isCancel = false ∧
      (r.startOrder target).job? = some r.job := by
  unfold startOrder
  split <;> exact ⟨rfl, rfl, rfl⟩

/-- No job is cancelled with the start of a copy and with listings. -/
theorem quiet (r : CopyRun) (target : CopyTarget) (n : Nat) :
    ∀ o ∈ r.startOrder target :: List.replicate n .queryBlockJobs, o.isCancel = false := by
  intro o here
  rcases List.mem_cons.mp here with rfl | listing
  · exact (r.startOrder_backs target).2.1
  · rw [List.eq_of_mem_replicate listing]
    rfl

/-- Only a copy that waits for its target is told of one. -/
theorem preparing_of_act? {answer : Except ControlError CopyTarget}
    (act : r.act? s cancelled (.prepared answer) = some st) : r.stage = .preparing := by
  unfold act? at act
  cases stage : r.stage with
  | preparing => rfl
  | _ =>
    rw [stage] at act
    cases act

/-! ### What a trail tells -/

theorem Trail.of_early (trail : r.Trail past) (early : r.stage = .fresh ∨ r.stage = .preparing) :
    Job.targets past = [] ∧ Job.orders past = [] ∧ Job.answers past = [] := by
  cases trail with
  | early _ targets orders answers => exact ⟨targets, orders, answers⟩
  | asking stage | refused stage | following stage | leaving stage =>
    rcases early with begins | begins <;> rw [begins] at stage <;> cases stage

theorem Trail.of_starting {j : CopyJob} (trail : r.Trail past) (starts : r.stage = .starting j) :
    ∃ target, Job.targets past = [target] ∧ Job.orders past = [r.startOrder target] ∧
      Job.answers past = [] := by
  cases trail with
  | early stage | refused stage | following stage | leaving stage =>
    rw [starts] at stage
    cases stage
  | asking _ targets orders answers => exact ⟨_, targets, orders, answers⟩

theorem Trail.of_taken (trail : r.Trail past) (taken : r.stage.isTaken = true) :
    ∃ target n v, Job.targets past = [target] ∧
      Job.orders past = r.startOrder target :: List.replicate n .queryBlockJobs ∧
      Job.answers past = [.ok v] := by
  obtain ⟨early, asking, lost, leaving⟩ := CopyStage.of_isTaken taken
  cases trail with
  | early stage => exact nomatch early.symm.trans stage
  | asking stage => exact nomatch asking.symm.trans stage
  | refused stage => exact nomatch lost.symm.trans stage
  | following _ targets orders answers => exact ⟨_, _, _, targets, orders, answers⟩
  | leaving stage => exact nomatch leaving.symm.trans stage

theorem Trail.of_cancelling {j : CopyJob} {cause : ControlError} (trail : r.Trail past)
    (cancels : r.stage = .cancelling j cause) :
    ∃ target n v, Job.targets past = [target] ∧
      Job.orders past =
        r.startOrder target :: List.replicate n .queryBlockJobs ++ [.blockJobCancel r.job] ∧
      Job.answers past = [.ok v] := by
  cases trail with
  | early stage | asking stage | refused stage | following stage =>
    rw [cancels] at stage
    cases stage
  | leaving _ targets orders answers => exact ⟨_, _, _, targets, orders, answers⟩

/-- A copy orders a start for each target, and besides that listings and the cancellation of its
job. -/
theorem Trail.shape (trail : r.Trail past) :
    (Job.targets past).length ≤ 1 ∧ (Job.answers past).length ≤ 1 ∧
      ∃ rest, Job.orders past = (Job.targets past).map r.startOrder ++ rest ∧
        ∀ o ∈ rest, o = .queryBlockJobs ∨ o = .blockJobCancel r.job := by
  cases trail with
  | early _ targets orders answers =>
    rw [targets, orders, answers]
    exact ⟨Nat.zero_le 1, Nat.zero_le 1, [], rfl, nofun⟩
  | asking _ targets orders answers =>
    rw [targets, orders, answers]
    exact ⟨Nat.le_refl 1, Nat.zero_le 1, [], rfl, nofun⟩
  | refused _ targets orders answers =>
    rw [targets, orders, answers]
    exact ⟨Nat.le_refl 1, Nat.le_refl 1, [], rfl, nofun⟩
  | following _ targets orders answers =>
    rw [targets, orders, answers]
    exact ⟨Nat.le_refl 1, Nat.le_refl 1, _, rfl, fun o here => .inl (List.eq_of_mem_replicate here)⟩
  | leaving _ targets orders answers =>
    rw [targets, orders, answers]
    refine ⟨Nat.le_refl 1, Nat.le_refl 1, _, rfl, fun o here => ?_⟩
    exact (List.mem_append.mp here).imp List.eq_of_mem_replicate List.mem_singleton.mp

/-- A copy that gave up the job that was taken has cancelled it last. -/
theorem Trail.cancels (trail : r.Trail past) (accepted : Job.Accepted past)
    (lost : r.stage.isTaken = false) :
    ∃ earlier, Job.orders past = earlier ++ [.blockJobCancel r.job] ∧
      ∀ o ∈ earlier, o.isCancel = false := by
  cases trail with
  | early _ _ _ answers | asking _ _ _ answers =>
    exact absurd accepted (Job.not_accepted_of_nil answers)
  | refused _ _ _ answers => exact absurd accepted (Job.not_accepted_of_answers answers)
  | following taken => exact nomatch lost.symm.trans taken
  | leaving _ _ orders => exact ⟨_, orders, r.quiet _ _⟩

/-- A copy of which no job was taken, or which follows it or has succeeded, has cancelled
nothing. -/
theorem Trail.spares (trail : r.Trail past)
    (either : ¬ Job.Accepted past ∨ r.stage.isTaken = true) :
    ∀ o ∈ Job.orders past, o.isCancel = false := by
  intro o here
  cases trail with
  | early _ _ none =>
    rw [none] at here
    cases here
  | asking _ _ start | refused _ _ start =>
    rw [start] at here
    exact r.quiet _ 0 o here
  | following _ _ orders =>
    rw [orders] at here
    exact r.quiet _ _ o here
  | leaving stage _ _ answers =>
    have taken := either.resolve_left (not_not_intro (Job.accepted_of_answers answers))
    exact nomatch (CopyStage.of_isTaken taken).2.2.2.symm.trans stage

/-- A copy that has failed after it cancelled its job was answered to that. -/
theorem Trail.waits (trail : r.Trail past) (lost : r.stage.isLost = true) {o : Order}
    (here : o ∈ Job.orders past) (cancels : o.isCancel = true) : Job.CancelAnswered r.job past := by
  cases trail with
  | early _ _ none =>
    rw [none] at here
    cases here
  | asking _ _ start | refused _ _ start =>
    rw [start] at here
    exact nomatch cancels.symm.trans (r.quiet _ 0 o here)
  | following _ _ orders =>
    rw [orders] at here
    exact nomatch cancels.symm.trans (r.quiet _ _ o here)
  | leaving _ _ _ _ answered => exact answered lost

/-! ### From trail to trail -/

/-- The same trail, at another moment at which nothing is told or ordered. -/
theorem Trail.frame (trail : r.Trail past) (plan : r'.plan = r.plan)
    (early : r'.stage.isEarly = r.stage.isEarly) (asking : r'.stage.isAsking = r.stage.isAsking)
    (taken : r'.stage.isTaken = r.stage.isTaken) (leaving : r'.stage.isLeaving = r.stage.isLeaving)
    (lost : r'.stage.isLost = r.stage.isLost) (target : m.target? = none)
    (answer : m.answer? = none) (quiet : m.effects.filterMap Effect.order? = []) :
    r'.Trail (past ++ [m]) := by
  have targets : Job.targets (past ++ [m]) = Job.targets past := by
    rw [Job.targets_concat, target, Option.toList_none, List.append_nil]
  have answers : Job.answers (past ++ [m]) = Job.answers past := by
    rw [Job.answers_concat, answer, Option.toList_none, List.append_nil]
  have orders : Job.orders (past ++ [m]) = Job.orders past := by
    rw [Job.orders_concat, quiet, List.append_nil]
  have start (target : CopyTarget) : r'.startOrder target = r.startOrder target := by
    unfold startOrder job disk
    rw [plan]
  have job : r'.job = r.job := by
    unfold job disk
    rw [plan]
  cases trail with
  | early stage before none silent =>
    exact .early (early.trans stage) (targets.trans before) (orders.trans none)
      (answers.trans silent)
  | asking stage before ordered silent =>
    rw [← start] at ordered
    exact .asking (asking.trans stage) (targets.trans before) (orders.trans ordered)
      (answers.trans silent)
  | refused stage before ordered told =>
    rw [← start] at ordered
    exact .refused (lost.trans stage) (targets.trans before) (orders.trans ordered)
      (answers.trans told)
  | following stage before ordered told =>
    rw [← start] at ordered
    exact .following (taken.trans stage) (targets.trans before) (orders.trans ordered)
      (answers.trans told)
  | leaving stage before ordered told answered =>
    rw [← start, ← job] at ordered
    refine .leaving (leaving.trans stage) (targets.trans before) (orders.trans ordered)
      (answers.trans told) fun ended => ?_
    rw [job]
    exact (answered (lost.symm.trans ended)).append [m]

/-- What is told at a moment of an act: a target only while a copy waits for it, and an answer only
while it waits for that. -/
theorem concat_of_act? (past : List Job.Moment) (act : r.act? s cancelled h = some st)
    (work : m.before.work = .copying r) (move : m.move = .step s (.work (.act .course h)))
    (effects : m.effects = st.2) :
    Job.orders (past ++ [m]) = Job.orders past ++ st.2.filterMap Effect.order? ∧
    (r.stage ≠ .preparing → Job.targets (past ++ [m]) = Job.targets past) ∧
    ((∀ j, r.stage ≠ .starting j) → Job.answers (past ++ [m]) = Job.answers past) := by
  refine ⟨by rw [Job.orders_concat, effects], fun other => ?_, fun other => ?_⟩
  · have none : m.target? = none := by
      unfold Job.Moment.target?
      rw [move]
      cases h with
      | prepared => exact absurd (preparing_of_act? act) other
      | _ => rfl
    rw [Job.targets_concat, none, Option.toList_none, List.append_nil]
  · have none : m.answer? = none := by
      unfold Job.Moment.answer?
      rw [work, move]
      cases h with
      | reply answer =>
        cases stage : r.stage with
        | starting j => exact absurd stage (other j)
        | _ => simp only [stage]
      | _ => rfl
    rw [Job.answers_concat, none, Option.toList_none, List.append_nil]

/-- The answer to the start of a backup. -/
theorem answers_of_starting {j : CopyJob} {answer : Except ControlError Json}
    (stage : r.stage = .starting j) (work : m.before.work = .copying r)
    (move : m.move = .step s (.work (.act .course (.reply answer)))) :
    Job.answers (past ++ [m]) = Job.answers past ++ [answer] := by
  have told : m.answer? = some answer := by
    rw [Job.Moment.answer?, work, move]
    dsimp only
    rw [stage]
  rw [Job.answers_concat, told, Option.toList_some]

/-- A copy that goes on after its backup was taken. -/
theorem Trail.of_follows {j : CopyJob} (trail : r.Trail past) (follows : r.Follows j h)
    (act : r.act? s cancelled h = some st) (work : m.before.work = .copying r)
    (move : m.move = .step s (.work (.act .course h))) (effects : m.effects = st.2) :
    ∃ target n v, Job.targets (past ++ [m]) = [target] ∧
      Job.orders (past ++ [m]) =
        r.startOrder target :: List.replicate n .queryBlockJobs ++ st.2.filterMap Effect.order? ∧
      Job.answers (past ++ [m]) = [.ok v] := by
  obtain ⟨orders, targets, answers⟩ := concat_of_act? past act work move effects
  have going (taken : r.stage.isTaken = true) (other : r.stage ≠ .preparing)
      (old : ∀ j, r.stage ≠ .starting j) :
      ∃ target n v, Job.targets (past ++ [m]) = [target] ∧
        Job.orders (past ++ [m]) =
          r.startOrder target :: List.replicate n .queryBlockJobs ++ st.2.filterMap Effect.order? ∧
        Job.answers (past ++ [m]) = [.ok v] := by
    obtain ⟨target, n, v, told, ordered, answered⟩ := trail.of_taken taken
    exact ⟨target, n, v, (targets other).trans told, by rw [orders, ordered],
      (answers old).trans answered⟩
  cases follows with
  | @taken v stage =>
    obtain ⟨target, told, ordered, silent⟩ := trail.of_starting stage
    refine ⟨target, 0, v, (targets (by simp [stage])).trans told, by rw [orders, ordered]; rfl, ?_⟩
    rw [answers_of_starting stage work move, silent, List.nil_append]
  | awaiting stage | listing stage | pausing stage =>
    exact going (by rw [stage]; rfl) (by simp [stage]) (by simp [stage])

/-- Each act of a copy leads from a trail to a trail. -/
theorem Act.trail (listed : r.Act s cancelled h st) (trail : r.Trail past)
    (act : r.act? s cancelled h = some st) (work : m.before.work = .copying r)
    (move : m.move = .step s (.work (.act .course h))) (effects : m.effects = st.2) :
    st.1.Trail (past ++ [m]) := by
  obtain ⟨orders, targets, answers⟩ := concat_of_act? past act work move effects
  cases listed with
  | begin stage =>
    obtain ⟨untold, none, silent⟩ := trail.of_early (.inl stage)
    exact .early rfl ((targets (by simp [stage])).trans untold) (by rw [orders, none]; rfl)
      ((answers (by simp [stage])).trans silent)
  | unprepared stage =>
    obtain ⟨untold, none, silent⟩ := trail.of_early (.inr stage)
    have still : m.target? = Option.none := by rw [Job.Moment.target?, move]
    refine .early rfl ?_ (by rw [orders, none]; rfl) ((answers (by simp [stage])).trans silent)
    rw [Job.targets_concat, still, untold]
    rfl
  | @order target stage =>
    obtain ⟨untold, none, silent⟩ := trail.of_early (.inr stage)
    have told : m.target? = some target := by rw [Job.Moment.target?, move]
    refine .asking rfl ?_ (by rw [orders, none]; rfl) ((answers (by simp [stage])).trans silent)
    rw [Job.targets_concat, told, untold]
    rfl
  | @refused j e stage =>
    obtain ⟨target, told, ordered, silent⟩ := trail.of_starting stage
    refine .refused (e := e) rfl ((targets (by simp [stage])).trans told)
      (by rw [orders, ordered]; rfl) ?_
    rw [answers_of_starting stage work move, silent, List.nil_append]
  | await follows | measured follows | succeed follows =>
    obtain ⟨target, n, v, told, ordered, answered⟩ := trail.of_follows follows act work move effects
    exact .following rfl told (ordered.trans (List.append_nil _)) answered
  | list follows =>
    obtain ⟨target, n, v, told, ordered, answered⟩ := trail.of_follows follows act work move effects
    refine .following (n := n + 1) rfl told (ordered.trans ?_) answered
    rw [List.replicate_succ']
    rfl
  | abandon follows =>
    obtain ⟨target, n, v, told, ordered, answered⟩ := trail.of_follows follows act work move effects
    exact .leaving rfl told ordered answered nofun
  | @cancelled j cause answer stage =>
    obtain ⟨target, n, v, told, ordered, answered⟩ := trail.of_cancelling stage
    have here : .blockJobCancel r.job ∈ Job.orders past := by
      rw [ordered]
      exact List.mem_append_right _ List.mem_cons_self
    refine .leaving (n := n) rfl ((targets (by simp [stage])).trans told) ?_
      ((answers (by simp [stage])).trans answered) fun _ => ?_
    · rw [orders, ordered]
      exact List.append_nil _
    · exact .last ⟨here, s, answer, move⟩

end CopyRun

/-! ## Lives -/

namespace Job

variable {past : List Moment} {j : Job}

/-- The trail of a copy; nothing is said of a migration. -/
def Trailed (past : List Moment) : Work → Prop
  | .migration _ => True
  | .copying r => r.Trail past

theorem Trailed.step {w w' : Work} {s : Surroundings} {cancelled : Bool} {x : Stimulus}
    {effects : List Effect} {m : Moment} (trailed : Trailed past w)
    (step : Work.Step s cancelled w x w' effects) (work : m.before.work = w)
    (move : m.move = .step s (.work x)) (sent : m.effects = effects) :
    Trailed (past ++ [m]) w' := by
  cases step with
  | migrate => trivial
  | copy act => exact (CopyRun.act?_cases act).trail trailed act work move sent
  | fold folds =>
    cases folds with
    | migration => trivial
    | copying =>
      have target : m.target? = none := by rw [Moment.target?, move]
      have answer : m.answer? = none := by rw [Moment.answer?, work, move]
      exact CopyRun.Trail.frame trailed rfl rfl rfl rfl rfl rfl target answer (by rw [sent]; rfl)
  | persist ending | kept ending =>
    cases w with
    | migration => trivial
    | copying r =>
      have stage := CopyStage.eq_closing ending
      have target : m.target? = none := by rw [Moment.target?, move]
      have answer : m.answer? = none := by rw [Moment.answer?, work, move]
      refine CopyRun.Trail.frame trailed rfl ?_ ?_ ?_ ?_ ?_ target answer (by rw [sent]; rfl) <;>
        rw [stage] <;> rfl

theorem Life.trailed (life : Life past j) : Trailed past j.work := by
  induction life with
  | migration => trivial
  | copying => exact .early rfl rfl rfl rfl
  | @move past j k move effects _ moved ih =>
    cases move?_cases moved with
    | work _ step => exact ih.step step rfl rfl rfl
    | cancel | finish | release =>
      cases work : j.work with
      | migration => trivial
      | copying r =>
        rw [work] at ih
        exact CopyRun.Trail.frame ih rfl rfl rfl rfl rfl rfl rfl (by rw [Moment.answer?, work]) rfl

end Job

namespace Sample

end Sample

end VmControl
