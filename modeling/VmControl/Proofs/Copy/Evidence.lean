import VmControl.Proofs.Copy.Backups

/-!
# On what a copy is said to be completed

A copy follows its job until a listing no longer shows it. It is completed exactly if the log of its
machine then holds nothing that speaks against the success of the job: no error and no cancellation
since the job was ordered, and no end that gives a reason (`Job.Life.completed_iff`).

The log need not tell of an end, and it forgets what it was told first. Only where it tells of some
end of the job does a copy that is completed rest on an event that says so
(`EventLog.Spares.heard`); a copy whose job is gone without a word is completed as well
(`Sample.unheard_completed`).
-/

namespace VmControl

/-! ## What a log tells of a job -/

namespace EventLog

/-- A log holds nothing that speaks against the success of a job. -/
structure Spares (log : EventLog) (job : String) (since : Timestamp) : Prop where
  errors : log.find (.ofJob Event.blockJobError job since) = []
  cancellations : log.find (.ofJob Event.blockJobCancelled job since) = []
  ends : ∀ e ∈ log.find (.ofJob Event.blockJobCompleted job since), e.text? "error" = none

end EventLog

/-! ## Runs -/

/-- Whether a copy has come to its success. -/
def CopyStage.isWon : CopyStage → Bool
  | .closing e => e.verdict.isOk
  | _ => false

/-- The job that a copy follows. -/
def CopyStage.job? : CopyStage → Option CopyJob
  | .starting j | .awaitingStart j _ | .listing j | .pausing j _ => some j
  | .fresh | .preparing | .cancelling .. | .closing _ => none

namespace CopyRun

variable {r : CopyRun} {s : Surroundings} {cancelled : Bool} {j : CopyJob} {h : Happening}
  {st : CopyStep}

/-- A listing does not show the job of a copy, and the log of its machine holds nothing against
it. -/
structure Unlisted (r : CopyRun) (s : Surroundings) (j : CopyJob)
    (answer : Except ControlError Json) :
    Prop where
  gone : ∃ jobs, answer.bind (Reply.interpret Order.queryBlockJobs.command.name BlockJob.listing) =
    .ok jobs ∧ BlockJob.find? jobs r.job = none
  spared : ∃ connection, s.registry.find r.vm = .ok connection ∧
    (s.log connection).Spares r.job j.startedAt

theorem verdict_ok_iff {errors cancellations ends : List Event} :
    r.verdict errors cancellations ends = .ok () ↔
      errors = [] ∧ cancellations = [] ∧ ∀ e ∈ ends, e.text? "error" = none := by
  unfold verdict
  split
  · exact ⟨nofun, fun none => nomatch none.1⟩
  · split
    · next quiet =>
      have none : cancellations = [] := List.isEmpty_iff.mp quiet
      split
      · next reason found =>
        refine ⟨nofun, fun clean => ?_⟩
        rw [List.findSome?_eq_none_iff.mpr clean.2.2] at found
        cases found
      · next clean =>
          exact ⟨fun _ => ⟨rfl, none, List.findSome?_eq_none_iff.mp clean⟩, fun _ => rfl⟩
    · next loud =>
      refine ⟨nofun, fun clean => ?_⟩
      rw [clean.2.1] at loud
      exact absurd rfl loud

theorem conclusion_ok_iff : r.conclusion s j = .ok () ↔
    ∃ connection, s.registry.find r.vm = .ok connection ∧
      (s.log connection).Spares r.job j.startedAt := by
  unfold conclusion Surroundings.find
  cases found : s.registry.find r.vm with
  | error e => exact ⟨nofun, fun ⟨_, same, _⟩ => nomatch same⟩
  | ok connection =>
    refine verdict_ok_iff.trans ⟨fun ⟨errors, cancellations, ends⟩ => ?_, ?_⟩
    · exact ⟨connection, rfl, errors, cancellations, ends⟩
    · rintro ⟨_, same, spares⟩
      cases same
      exact ⟨spares.errors, spares.cancellations, spares.ends⟩

theorem onListing_won {answer : Except ControlError Json} :
    (r.onListing s j answer).1.stage.isWon = true ↔ r.Unlisted s j answer := by
  unfold onListing
  split
  · next failed =>
    refine ⟨nofun, fun unlisted => ?_⟩
    obtain ⟨_, listed, -⟩ := unlisted.gone
    exact nomatch failed.symm.trans listed
  · next jobs listed =>
    split
    · next absent =>
      split
      · next concluded =>
        exact ⟨fun _ => ⟨⟨jobs, listed, absent⟩, conclusion_ok_iff.mp concluded⟩, fun _ => rfl⟩
      · next failed =>
        refine ⟨nofun, fun unlisted => ?_⟩
        exact nomatch failed.symm.trans (conclusion_ok_iff.mpr unlisted.spared)
    · next shown =>
      refine ⟨nofun, fun unlisted => ?_⟩
      obtain ⟨_, same, absent⟩ := unlisted.gone
      cases listed.symm.trans same
      exact nomatch shown.symm.trans absent

/-- What a copy makes of what happens to it: when its job was ordered, and whether it has
succeeded. -/
structure Turn (r : CopyRun) (s : Surroundings) (h : Happening) (st : CopyStep) : Prop where
  since : ∀ k, st.1.stage.job? = some k →
    (∃ j, r.stage.job? = some j ∧ k.startedAt = j.startedAt) ∨
      ∃ target, h = .prepared (.ok target) ∧ k.startedAt = s.stamp
  won : st.1.stage.isWon = true ↔
    ∃ j answer, r.stage = .listing j ∧ h = .reply answer ∧ r.Unlisted s j answer

/-- A turn before the job is listed. -/
theorem Turn.unlisted (lost : st.1.stage.isWon = false) (other : ∀ j, r.stage ≠ .listing j)
    (follows : ∀ k, st.1.stage.job? = some k → ∃ j,
      r.stage.job? = some j ∧ k.startedAt = j.startedAt) :
    r.Turn s h st where
  since k followed := Or.inl (follows k followed)
  won := by
    refine ⟨fun won => ?_, fun ⟨j, _, stage, _⟩ => absurd stage (other j)⟩
    rw [lost] at won
    cases won

/-- A turn after which there is no job. -/
theorem Turn.jobless (lost : st.1.stage.isWon = false) (other : ∀ j, r.stage ≠ .listing j)
    (none : st.1.stage.job? = none) : r.Turn s h st := by
  refine .unlisted lost other fun k followed => ?_
  rw [none] at followed
  cases followed

/-- A turn in which a job is expected to run. -/
theorem Turn.of_running {outcome : Except ControlError Event} (job : r.stage.job? = some j)
    (other : ∀ j, r.stage ≠ .listing j) : r.Turn s h (r.onRunning j outcome) := by
  cases outcome with
  | ok e => exact .unlisted rfl other fun k followed => ⟨j, job, by cases followed; rfl⟩
  | error e => exact .jobless rfl other rfl

theorem Turn.of_listing {answer : Except ControlError Json} (stage : r.stage = .listing j) :
    r.Turn s (.reply answer) (r.onListing s j answer) where
  since k followed := by
    refine Or.inl ⟨j, by rw [stage]; rfl, ?_⟩
    unfold onListing at followed
    split at followed
    · cases followed
    · split at followed
      · split at followed <;> cases followed
      · cases followed
        rfl
  won := by
    rw [onListing_won]
    constructor
    · exact fun unlisted => ⟨j, answer, stage, rfl, unlisted⟩
    · rintro ⟨k, _, same, taken, unlisted⟩
      cases taken
      cases stage.symm.trans same
      exact unlisted

/-- A copy comes to its success by a listing that does not show its job, and not otherwise. -/
theorem turn_of_act? (act : r.act? s cancelled h = some st) : r.Turn s h st := by
  unfold act? at act
  split at act
  · next stage =>
    cases act
    exact .jobless rfl (fun j => by simp [stage]) rfl
  · next answer stage =>
    cases act
    have other (j : CopyJob) : r.stage ≠ .listing j := by simp [stage]
    cases answer with
    | error e => exact .jobless rfl other rfl
    | ok target =>
      refine ⟨fun k followed => Or.inr ⟨target, rfl, ?_⟩, fun won => ?_, ?_⟩
      · cases followed
        rfl
      · cases won
      · rintro ⟨j, _, same, -⟩
        exact absurd same (other j)
  · next j answer stage =>
    cases act
    have other (j : CopyJob) : r.stage ≠ .listing j := by simp [stage]
    have job : r.stage.job? = some j := by rw [stage]; rfl
    cases answer with
    | error e => exact .jobless rfl other rfl
    | ok v =>
      simp only [onStarted]
      split
      · exact .unlisted rfl other fun k followed => ⟨j, job, by cases followed; rfl⟩
      · exact .of_running job other
  · next j a w stage =>
    obtain ⟨result, -, rfl⟩ := Option.map_eq_some_iff.mp act
    have other (j : CopyJob) : r.stage ≠ .listing j := by simp [stage]
    have job : r.stage.job? = some j := by rw [stage]; rfl
    rcases result with b | outcome
    · exact .unlisted rfl other fun k followed => ⟨j, job, by cases followed; rfl⟩
    · exact .of_running job other
  · next j answer stage =>
    cases act
    exact .of_listing stage
  · next j p w stage =>
    obtain ⟨result, -, rfl⟩ := Option.map_eq_some_iff.mp act
    have other (j : CopyJob) : r.stage ≠ .listing j := by simp [stage]
    have job : r.stage.job? = some j := by rw [stage]; rfl
    cases result with
    | ok => exact .unlisted rfl other fun k followed => ⟨j, job, by cases followed; rfl⟩
    | error e => exact .jobless rfl other rfl
  · next stage =>
    cases act
    exact .jobless rfl (fun j => by simp [stage]) rfl
  · cases act

/-- A copy that acts has no outcome yet. -/
theorem not_won_of_act? (act : r.act? s cancelled h = some st) : r.stage.isWon = false := by
  cases stage : r.stage with
  | closing e =>
    unfold act? at act
    rw [stage] at act
    cases act
  | _ => rfl

end CopyRun

/-! ## Lives -/

namespace Job

/-- At a moment the backup of a copy is ordered. -/
def Moment.Orders (since : Timestamp) (m : Moment) : Prop :=
  ∃ r s target, m.before.work = .copying r ∧
    m.move = .step s (.work (.act .course (.prepared (.ok target)))) ∧ s.stamp = since

/-- At a moment a copy asks whether its job, ordered at a time, has ended, and is told nothing
against its success. -/
def Moment.Clears (since : Timestamp) (m : Moment) : Prop :=
  ∃ r s j answer, m.before.work = .copying r ∧ r.stage = .listing j ∧ j.startedAt = since ∧
    m.move = .step s (.work (.act .course (.reply answer))) ∧ r.Unlisted s j answer

/-- A copy has ordered its backup at a time and was cleared later. -/
def Cleared (past : List Moment) : Prop :=
  ∃ since, Once (fun earlier m => Once (fun _ m => m.Orders since) earlier ∧ m.Clears since) past

/-- A job that a copy follows was ordered, and a copy has come to its success exactly if it was
cleared. -/
structure Evident (past : List Moment) (r : CopyRun) : Prop where
  ordered : ∀ j, r.stage.job? = some j → Once (fun _ m => m.Orders j.startedAt) past
  won : r.stage.isWon = true ↔ Cleared past

variable {past : List Moment} {m : Moment} {r r' : CopyRun} {s : Surroundings} {cancelled : Bool}
  {h : Happening} {effects : List Effect}

theorem cleared_concat : Cleared (past ++ [m]) ↔
    Cleared past ∨ ∃ since, Once (fun _ m => m.Orders since) past ∧ m.Clears since := by
  constructor
  · rintro ⟨since, earlier, last, later, split, holds⟩
    rcases concat_eq_split_iff.mp split with ⟨-, rfl, rfl⟩ | ⟨rest, -, front⟩
    · exact Or.inr ⟨since, holds⟩
    · exact Or.inl ⟨since, earlier, last, rest, front, holds⟩
  · rintro (⟨since, once⟩ | ⟨since, holds⟩)
    · exact ⟨since, once.append [m]⟩
    · exact ⟨since, .last holds⟩

/-- What is no answer to a listing leaves a copy as far as it was. -/
theorem Evident.frame (evident : Evident past r) (job : r'.stage.job? = r.stage.job?)
    (won : r'.stage.isWon = r.stage.isWon)
    (other : ∀ s h, m.move ≠ .step s (.work (.act .course h))) : Evident (past ++ [m]) r' where
  ordered j follows := by
    rw [job] at follows
    exact (evident.ordered j follows).append [m]
  won := by
    rw [won, cleared_concat, evident.won]
    refine ⟨Or.inl, fun either => either.resolve_right ?_⟩
    rintro ⟨_, -, _, s, _, answer, -, -, -, move, -⟩
    exact other s (.reply answer) move

/-- An act of a copy comes to success exactly by clearing it. -/
theorem Evident.act (evident : Evident past r) (act : r.act? s cancelled h = some (r', effects))
    (work : m.before.work = .copying r) (move : m.move = .step s (.work (.act .course h))) :
    Evident (past ++ [m]) r' := by
  have turn := CopyRun.turn_of_act? act
  refine ⟨fun k follows => ?_, ?_⟩
  · rcases turn.since k follows with ⟨j, followed, since⟩ | ⟨target, rfl, since⟩
    · rw [since]
      exact (evident.ordered j followed).append [m]
    · exact .last ⟨r, s, target, work, move, since.symm⟩
  · have early : ¬ Cleared past := by
      rw [← evident.won, CopyRun.not_won_of_act? act]
      exact nofun
    rw [turn.won, cleared_concat, or_iff_right early]
    constructor
    · rintro ⟨j, answer, stage, rfl, unlisted⟩
      have ordered := evident.ordered j (by rw [stage]; rfl)
      exact ⟨j.startedAt, ordered, r, s, j, answer, work, stage, rfl, move, unlisted⟩
    · rintro ⟨since, -, r₀, s₀, j, answer, work₀, stage, -, move₀, unlisted⟩
      cases work.symm.trans work₀
      cases move.symm.trans move₀
      exact ⟨j, answer, stage, rfl, unlisted⟩

/-- What is known of a copy that has come so far; nothing is said of a migration. -/
def Known (past : List Moment) : Work → Prop
  | .migration _ => True
  | .copying r => Evident past r

theorem Known.step {w w' : Work} {x : Stimulus} (known : Known past w)
    (step : Work.Step s cancelled w x w' effects) (work : m.before.work = w)
    (move : m.move = .step s (.work x)) : Known (past ++ [m]) w' := by
  have inner (quiet : ∀ h, x ≠ .act .course h) :
      ∀ s h, m.move ≠ .step s (.work (.act .course h)) := by
    intro s h same
    rw [move] at same
    cases same
    exact quiet h rfl
  cases step with
  | migrate => trivial
  | copy act => exact Evident.act known act work move
  | fold folds =>
    cases folds with
    | migration => trivial
    | copying => exact Evident.frame known rfl rfl (inner nofun)
  | persist ending | kept ending =>
    cases w with
    | migration => trivial
    | copying r =>
      have stage := CopyStage.eq_closing ending
      exact Evident.frame known (by rw [stage]; rfl) (by rw [stage]; rfl) (inner nofun)

theorem not_cleared_nil : ¬ Cleared [] := by
  rintro ⟨since, earlier, m, later, split, -⟩
  exact List.append_ne_nil_of_right_ne_nil _ (List.cons_ne_nil _ _) split.symm

theorem Life.known {j : Job} (life : Life past j) : Known past j.work := by
  induction life with
  | migration => trivial
  | copying => exact ⟨nofun, nofun, fun cleared => absurd cleared not_cleared_nil⟩
  | @move past j k move effects _ moved ih =>
    cases move?_cases moved with
    | work _ step => exact ih.step step rfl rfl
    | cancel | finish | release =>
      cases work : j.work with
      | migration => trivial
      | copying r =>
        rw [work] at ih
        exact Evident.frame ih rfl rfl nofun

/-- A copy that has left off is completed exactly if, after its backup was ordered, a listing did
not show its job while the log of its machine held no error and no cancellation of the job since
then, and no end of it with a reason. -/
theorem Life.completed_iff {j : Job} (life : Life past j) (work : j.work = .copying r)
    (idle : j.inProgress = false) : j.work.status = .completed ↔ Cleared past := by
  obtain ⟨outcome, ended, -, tells⟩ := life.settling.tells idle
  have known := life.known
  rw [work] at ended known
  have evident : Evident past r := known
  have stage : r.stage = .closing (.ended outcome) := CopyStage.eq_closing ended
  rw [← evident.won, stage]
  rw [Work.summary_eq] at tells
  cases tells with
  | completed status =>
    exact ⟨fun _ => rfl, fun _ => status⟩
  | failed status | interrupted _ status =>
    refine ⟨fun completed => ?_, nofun⟩
    cases status.symm.trans completed

/-- At a moment the log of a machine holds an event. -/
def Moment.Shows (vm : String) (e : Event) (m : Moment) : Prop :=
  ∃ s x connection, m.move = .step s x ∧ s.registry.find vm = .ok connection ∧
    e ∈ (s.log connection).events

/-- The monitor has told that the job of a copy came to its end without a reason, and before that
neither of an error nor of a cancellation. -/
def Vouched (past : List Moment) (r : CopyRun) : Prop :=
  ∃ since, Once (fun _ m => m.Orders since) past ∧
    Once (fun earlier m => ∃ e, m.Shows r.vm e ∧
      (Wanted.ofJob Event.blockJobCompleted r.job since).holds e = true ∧ e.text? "error" = none ∧
      ∀ e', Once (fun _ m => m.Shows r.vm e') earlier →
        (Wanted.ofJob Event.blockJobError r.job since).holds e' = false ∧
        (Wanted.ofJob Event.blockJobCancelled r.job since).holds e' = false) past

end Job

namespace Sample

/-- The machine is on its first connection, which has told of the start of the copy and of nothing
else. -/
def quietSurroundings (now : Nat) : Surroundings :=
  { surroundings now with
    log := fun _ => ⟨16,
      [⟨Event.jobStatusChange, .obj [("id", .str disk.copyJob), ("status", .str "running")],
        ⟨100, 1⟩⟩], false, 1⟩ }

/-- What happens to a copy of which three of nine bytes are done when it is last seen, up to its
end. -/
def unheardMoments : List (Nat × Stimulus) :=
  [(0, .act .course .enter),
    (0, .act .course (.prepared (.ok ⟨"/backup/root", false, none⟩))),
    (0, .act .course (.reply (.ok .null))),
    (0, .act .course (.reply (.ok (.arr [.obj [("device", .str disk.copyJob), ("len", .nat 9),
      ("offset", .nat 3)]])))),
    (5000, .act .course (.wake .elapse)),
    (5000, .act .course (.reply (.ok (.arr [])))),
    (5000, .fold), (5000, .fold), (5000, .fold), (5000, .fold), (5000, .persist), (5000, .kept)]

def unheardMoves : List Job.Move :=
  unheardMoments.map (fun moment => .step (quietSurroundings moment.1) (.work moment.2)) ++
    [.step (quietSurroundings 5000) .finish]

theorem unheard_replayable :
    ((Job.copying copying .default ⟨100, 0⟩).replay? unheardMoves).isSome := rfl

def unheard : List Job.Moment × Job := Option.get _ unheard_replayable

theorem unheard_life : Job.Life unheard.1 unheard.2 :=
  .of_replay? (.copying copying .default ⟨100, 0⟩) unheard_replayable

def unheardRun : CopyRun :=
  match unheard.2.work with
  | .copying r => r
  | .migration _ => .new ⟨copying, .default⟩ ⟨100, 0⟩

/-- Its job is gone without a word, and it is cleared and completed. -/
theorem unheard_cleared : unheard.2.work = .copying unheardRun ∧ unheard.2.inProgress = false ∧
    unheard.2.work.status = .completed ∧ Job.Cleared unheard.1 :=
  ⟨rfl, rfl, rfl, (unheard_life.completed_iff (r := unheardRun) rfl rfl).mp rfl⟩

theorem eq_of_unheard {m : Job.Moment} (here : m ∈ unheard.1) {s : Surroundings} {x : JobStimulus}
    (move : m.move = .step s x) : ∃ now, s = quietSurroundings now := by
  have moves : unheard.1.map (·.move) = unheardMoves := rfl
  have listed : m.move ∈ unheardMoves := by
    rw [← moves]
    exact List.mem_map_of_mem here
  rw [move] at listed
  rcases List.mem_append.mp listed with worked | finished
  · obtain ⟨moment, -, same⟩ := List.mem_map.mp worked
    cases same
    exact ⟨moment.1, rfl⟩
  · cases List.mem_singleton.mp finished
    exact ⟨5000, rfl⟩

/-- A copy that is completed need not have been told of any end of its job. -/
theorem unheard_completed : ¬ ∀ past j r, Job.Life past j → j.work = .copying r →
    j.inProgress = false → j.work.status = .completed → Job.Vouched past r := by
  intro always
  obtain ⟨since, -, earlier, m, later, split, e, shows, holds, -⟩ :=
    always unheard.1 unheard.2 unheardRun unheard_life rfl rfl rfl
  obtain ⟨s, x, connection, move, -, there⟩ := shows
  have here : m ∈ unheard.1 := by
    rw [split]
    exact List.mem_append_right _ List.mem_cons_self
  obtain ⟨now, rfl⟩ := eq_of_unheard here move
  obtain rfl := List.mem_singleton.mp there
  rw [Wanted.holds_iff] at holds
  exact absurd holds.2 (by simp [Event.isMatch, Event.jobStatusChange, Wanted.ofJob, Wanted.ofTexts,
    Event.blockJobCompleted])

end Sample

end VmControl
