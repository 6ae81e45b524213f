import VmControl.Proofs.Migration.Figures
import VmControl.Proofs.Migration.Replay
import VmControl.Proofs.Options
import VmControl.Proofs.Pool.Lives

/-!
# Courses of the migrations of a host

`Host.historyOf number past` is what has happened in the run of one task, picked out of all that a
host has done. However the calls and the tasks are interleaved, the run of a migration has taken a
course with that history (`Host.Run.courses`), so what holds of every course holds of the migrations
of every host.

A host starts no migration whose options are at fault (`Host.Run.validated`). Its migrations have
disks with paths of their own, and one that is seen to be completed is seen to have moved everything
(`Host.Run.completed_in_full`).
-/

namespace VmControl

namespace Job

/-- What a task is to do, if it is a migration. -/
def plan? (j : Job) : Option MigrationPlan :=
  match j.work with
  | .migration r => some r.plan
  | .copying _ => none

variable {j k : Job}

theorem plan?_migration (o : MigrationOptions) (config : Config) (stamp : Timestamp) :
    (migration o config stamp).plan? = some ⟨o, config⟩ := rfl

theorem plan?_of_step? {s : Surroundings} {x : JobStimulus} {effects : List Effect}
    (h : j.step? s x = some (k, effects)) : k.plan? = j.plan? := by
  rcases step?_cases h with ⟨_, w, -, -, stepped, rfl⟩ | ⟨_, -, -, -, rfl, -⟩ | ⟨-, -, rfl, -⟩
  · unfold plan?
    cases work : j.work with
    | migration r =>
      rw [work] at stepped
      obtain ⟨⟨r', _⟩, run, same⟩ := Option.map_eq_some_iff.mp stepped
      cases same
      exact congrArg some (MigrationRun.plan_of_step? run)
    | copying r =>
      rw [work] at stepped
      obtain ⟨⟨r', _⟩, -, same⟩ := Option.map_eq_some_iff.mp stepped
      cases same
      rfl
  · rfl
  · rfl

end Job

namespace Pool

variable {p q : Pool} {number : Nat} {j k : Job}

/-! ## What is to be done -/

/-- What each task is to do, if it is a migration. -/
def plans (p : Pool) : List (Option MigrationPlan) := p.jobs.map (·.plan?)

/-- The options of every migration have passed their check. -/
def Valid (p : Pool) : Prop := ∀ plan, some plan ∈ p.plans → plan.options.validate = .ok ()

theorem plans_setJob (here : p.jobs[number]? = some j) (same : k.plan? = j.plan?) :
    (p.setJob number k).plans = p.plans := by
  rw [plans, setJob, List.map_set, same]
  refine List.ext_getElem? fun i => ?_
  rw [List.getElem?_set]
  split
  · next at_ =>
    subst at_
    have within : number < (p.jobs.map (·.plan?)).length := by
      rw [List.length_map]
      exact (List.getElem?_eq_some_iff.mp here).1
    rw [if_pos within, plans, List.getElem?_map, here, Option.map_some]
  · rfl

theorem plans_fire? (fired : p.fire? number = some q) : q.plans = p.plans := by
  obtain ⟨j, task, here, -, rfl⟩ := fire?_eq_some fired
  exact plans_setJob here rfl

theorem Valid.start (valid : p.Valid)
    (sound : ∀ plan, j.plan? = some plan → plan.options.validate = .ok ()) : (p.start j).Valid := by
  intro plan listed
  rw [plans, Pool.start, List.map_append, List.mem_append] at listed
  rcases listed with before | new
  · exact valid plan before
  · exact sound plan (List.mem_singleton.mp new).symm

theorem Valid.of_plans (valid : p.Valid) (same : q.plans = p.plans) : q.Valid := by
  rw [Valid, same]
  exact valid

end Pool

open Pool

variable {p q : Pool}

/-! ## What the calls start -/

theorem CancelCall.step?_plans {c : CancelCall}
    {turn : CallTurn CancelCall (Except ControlError Unit)} (h : c.step? p = some (q, turn)) :
    q.plans = p.plans := by
  unfold step? at h
  split at h
  · split at h
    · cases h
      rfl
    · next fired =>
      cases h
      exact plans_fire? fired
  · split at h <;> cases h
    rfl
  · cases h
    rfl

theorem CancelAllCall.step?_plans {c : CancelAllCall} {turn : CallTurn CancelAllCall Unit}
    (h : c.step? p = some (q, turn)) : q.plans = p.plans := by
  unfold step? at h
  split at h
  · next task _ _ =>
    cases h
    cases fired : p.fire? task.2 with
    | none => rfl
    | some q => exact plans_fire? fired
  · cases h
    rfl
  · split at h <;> cases h
    rfl
  · cases h
    rfl
  · cases h
    rfl

namespace StartCall

variable {c : StartCall} {s : Surroundings} {turn : CallTurn StartCall (Except ControlError Unit)}

theorem register_starts (h : c.register p s = (q, turn)) :
    (q = p ∨ q = p.start (.migration c.options p.config s.stamp)) ∧
      ∃ outcome, turn = .over outcome := by
  unfold register at h
  split at h
  · cases h
    exact ⟨Or.inl rfl, _, rfl⟩
  · cases h
    exact ⟨Or.inr rfl, _, rfl⟩

/-- A start goes on with the options that it was made with, and starts nothing else. -/
theorem step?_starts {x : Happening} (h : c.step? p s x = some (q, turn)) :
    (q = p ∨ q = p.start (.migration c.options p.config s.stamp)) ∧
      ∀ d effects, turn = .goesOn d effects → d.options = c.options := by
  have registers (came : c.register p s = (q, turn)) :
      (q = p ∨ q = p.start (.migration c.options p.config s.stamp)) ∧
        ∀ d effects, turn = .goesOn d effects → d.options = c.options := by
    obtain ⟨started, _, rfl⟩ := register_starts came
    exact ⟨started, nofun⟩
  unfold step? at h
  split at h
  · split at h <;> cases h
    · exact ⟨Or.inl rfl, fun _ _ same => by cases same; rfl⟩
    · exact ⟨Or.inl rfl, nofun⟩
  · obtain ⟨answer, -, came⟩ := Option.map_eq_some_iff.mp h
    unfold onName at came
    split at came
    · cases came
      exact ⟨Or.inl rfl, nofun⟩
    · split at came
      · cases came
        exact ⟨Or.inl rfl, nofun⟩
      · split at came
        · exact registers came
        · cases came
          exact ⟨Or.inl rfl, fun _ _ same => by cases same; rfl⟩
  · obtain ⟨answer, -, came⟩ := Option.map_eq_some_iff.mp h
    unfold onRoom at came
    split at came
    · cases came
      exact ⟨Or.inl rfl, nofun⟩
    · exact registers came

theorem begin_valid {o : MigrationOptions} {effects : List CallEffect}
    (h : (begin p s o).2 = .goesOn c effects) : c.options.validate = .ok () := by
  unfold begin at h
  split at h
  · cases h
  · next valid =>
    split at h
    · cases h
    · split at h
      · cases h
      · cases h
        exact valid

end StartCall

namespace Host

variable {config : Config} {past : List Moment} {h h' : Host} {state next : CallState}
  {number : Nat}

/-- A call that is to start a migration has options that have passed their check. -/
def CallState.Valid (state : CallState) : Prop :=
  ∀ c, state = .starting c → c.options.validate = .ok ()

/-- The options of the migrations that were started, or are to be, have passed their check. -/
structure Valid (h : Host) : Prop where
  pool : h.pool.Valid
  calls : ∀ c ∈ h.calls, c.state.Valid

theorem CallState.valid_ofTurn {κ : Type} {turn : CallTurn κ (Except ControlError Unit)}
    {start : κ → CallState} {effects : List CallEffect}
    (came : CallProgress.ofTurn start turn = (next, effects))
    (other : ∀ c d, start c ≠ .starting d) : next.Valid := by
  rintro d rfl
  rcases turn with ⟨c, effects⟩ | outcome
  · exact absurd (Prod.mk.inj came).1 (other c d)
  · cases came

theorem Operation.begin_valid {o : Operation} {s : Surroundings} {effects : List CallEffect}
    (valid : p.Valid) (begun : o.begin p s = (q, state, effects)) : q.Valid ∧ state.Valid := by
  cases o with
  | startMigration o =>
    obtain ⟨same, asks⟩ := Prod.mk.inj begun
    rw [StartCall.begin_fst] at same
    subst same
    refine ⟨valid, fun c starting => ?_⟩
    subst starting
    rcases turn : (StartCall.begin p s o).2 with ⟨d, effects⟩ | outcome
    · rw [turn] at asks
      cases asks
      exact StartCall.begin_valid turn
    · rw [turn] at asks
      cases asks
  | startCopying o =>
    cases begun
    refine ⟨?_, fun _ starting => by cases starting⟩
    unfold Pool.startCopying
    split
    · exact valid
    · split
      · exact valid
      · exact valid.start fun _ moves => by cases moves
  | cancel id =>
    simp only [begin, CancelCall.begin] at begun
    split at begun <;> cases begun <;> exact ⟨valid, fun _ starting => by cases starting⟩
  | cancelAll vm =>
    cases begun
    exact ⟨valid, fun _ starting => by cases starting⟩

theorem CallState.step?_valid {s : Surroundings} {x : Happening} {effects : List CallEffect}
    (valid : p.Valid) (starts : state.Valid) (h : state.step? p s x = some (q, next, effects)) :
    q.Valid ∧ next.Valid := by
  cases state with
  | starting c =>
    obtain ⟨⟨_, turn⟩, stepped, same⟩ := Option.map_eq_some_iff.mp h
    obtain ⟨rfl, asks⟩ := Prod.mk.inj same
    obtain ⟨started, goesOn⟩ := StartCall.step?_starts stepped
    have own : c.options.validate = .ok () := starts c rfl
    refine ⟨?_, fun d starting => ?_⟩
    · rcases started with rfl | rfl
      · exact valid
      · refine valid.start fun plan same => ?_
        rw [Job.plan?_migration] at same
        cases same
        exact own
    · subst starting
      rcases turn with ⟨d', effects'⟩ | outcome
      · cases asks
        rw [goesOn d effects rfl]
        exact own
      · cases asks
  | cancelling c =>
    obtain ⟨⟨_, turn⟩, stepped, same⟩ := Option.map_eq_some_iff.mp h
    obtain ⟨rfl, came⟩ := Prod.mk.inj same
    exact ⟨valid.of_plans (CancelCall.step?_plans stepped), valid_ofTurn came nofun⟩
  | cancellingAll c =>
    obtain ⟨⟨_, turn⟩, stepped, same⟩ := Option.map_eq_some_iff.mp h
    obtain ⟨rfl, came⟩ := Prod.mk.inj same
    exact ⟨valid.of_plans (CancelAllCall.step?_plans stepped), valid_ofTurn came nofun⟩
  | returned => cases h

/-- The options of every migration of a host have passed their check. -/
theorem Run.validated (run : Run config past h) : h.Valid := by
  induction run with
  | new => exact ⟨fun _ listed => absurd listed List.not_mem_nil, List.forall_mem_nil _⟩
  | step _ moved ih =>
    cases step?_cases moved with
    | call begun =>
      obtain ⟨pool, state⟩ := Operation.begin_valid ih.pool begun
      refine ⟨pool, fun c made => ?_⟩
      rcases List.mem_append.mp made with old | new
      · exact ih.calls c old
      · obtain rfl := List.mem_singleton.mp new
        exact state
    | goOn here stepped =>
      have starts := ih.calls _ (List.mem_of_getElem? here)
      obtain ⟨pool, state⟩ := CallState.step?_valid ih.pool starts stepped
      refine ⟨pool, fun c made => ?_⟩
      rcases List.mem_or_eq_of_mem_set made with old | rfl
      · exact ih.calls c old
      · exact state
    | task here stepped =>
      exact ⟨ih.pool.of_plans (plans_setJob here (Job.plan?_of_step? stepped)), ih.calls⟩

theorem Run.plan_valid {j : Job} {r : MigrationRun} (run : Run config past h)
    (here : h.pool.jobs[number]? = some j) (work : j.work = .migration r) :
    r.plan.options.validate = .ok () := by
  have planned : j.plan? = some r.plan := by
    rw [Job.plan?, work]
  have listed : some r.plan ∈ h.pool.plans :=
    List.mem_map.mpr ⟨j, List.mem_of_getElem? here, planned⟩
  exact run.validated.pool r.plan listed

theorem Run.paths_nodup {j : Job} {r : MigrationRun} (run : Run config past h)
    (here : h.pool.jobs[number]? = some j) (work : j.work = .migration r) :
    (r.plan.options.disks.map (·.path)).Nodup :=
  MigrationOptions.paths_nodup (run.plan_valid here work)

/-! ## What has happened in the run of a task -/

/-- What a task wants done by this errand. -/
def Errand.effect? : Errand → Option Effect
  | .ofTask _ e => some e
  | .ofCall .. => none

/-- The moment of a host as one of the run of a task, if it is one. -/
def Moment.ofTask? (number : Nat) (m : Moment) : Option VmControl.Moment :=
  match m.move with
  | .task n s (.work x) =>
    if n = number then
      (m.before.pool.jobs[number]?).map fun j =>
        ⟨s, j.task.isCancelled, x, m.errands.filterMap Errand.effect?⟩
    else none
  | _ => none

/-- What has happened in the run of a task. -/
def historyOf (number : Nat) (past : List Moment) : History :=
  past.filterMap (Moment.ofTask? number)

theorem historyOf_concat_none {m : Moment} (other : m.ofTask? number = none) :
    historyOf number (past ++ [m]) = historyOf number past := by
  rw [historyOf, List.filterMap_append, List.filterMap_cons_none other, List.filterMap_nil,
    List.append_nil, historyOf]

theorem historyOf_concat_some {m : Moment} {own : VmControl.Moment}
    (same : m.ofTask? number = some own) :
    historyOf number (past ++ [m]) = historyOf number past ++ [own] := by
  rw [historyOf, List.filterMap_append, List.filterMap_cons_some same, List.filterMap_nil,
    historyOf]

theorem effects_of_errands (number : Nat) (effects : List Effect) :
    (effects.map (Errand.ofTask number)).filterMap Errand.effect? = effects := by
  rw [List.filterMap_map]
  exact List.filterMap_some

/-- Every migration of the tasks has taken a course with its own history, and while it is in
progress it knows whether it was cancelled. -/
structure OnCourse (past : List Moment) (p : Pool) : Prop where
  fresh : ∀ number, p.jobs.length ≤ number → historyOf number past = []
  courses : ∀ number j r, p.jobs[number]? = some j → j.work = .migration r →
    ∃ cancelled, Course r.plan (historyOf number past) cancelled r ∧
      (j.inProgress = true → j.task.isCancelled = cancelled)

theorem OnCourse.mono {more : List Moment} (on : OnCourse past p)
    (same : ∀ number, historyOf number more = historyOf number past) : OnCourse more p where
  fresh number above := (same number).trans (on.fresh number above)
  courses number j r here work := by
    rw [same]
    exact on.courses number j r here work

/-- What a call does to the tasks leaves them on their courses. -/
theorem OnCourse.touch (on : OnCourse past p) (touch : p.Touch q) : OnCourse past q := by
  cases touch with
  | nothing => exact on
  | @start j begun =>
    refine ⟨fun number above => on.fresh number ?_, fun number k r here work => ?_⟩
    · rw [Pool.start, List.length_append] at above
      omega
    · rcases jobs_of_jobs_start here with before | ⟨rfl, rfl⟩
      · exact on.courses number k r before work
      · rw [on.fresh _ (Nat.le_refl _)]
        generalize nothing : ([] : List Job.Moment) = past at begun
        cases begun with
        | migration o config stamp =>
          cases work
          exact ⟨false, .new stamp, fun _ => rfl⟩
        | copying => cases work
        | move => cases List.append_ne_nil_of_right_ne_nil _ (List.cons_ne_nil _ _) nothing.symm
  | fire fired =>
    obtain ⟨j, task, here, token, rfl⟩ := fire?_eq_some fired
    obtain ⟨-, rfl⟩ := Job.cancel?_eq_some token
    refine ⟨fun number above => on.fresh number ?_, fun number k r there work => ?_⟩
    · rwa [Pool.setJob, List.length_set] at above
    · rcases jobs_setJob here there with before | ⟨rfl, rfl⟩
      · exact on.courses number k r before work
      · obtain ⟨cancelled, course, -⟩ := on.courses number j r here work
        exact ⟨true, course.cancel, fun _ => rfl⟩
  | unregister => exact ⟨on.fresh, on.courses⟩

/-- A step of a task leaves all tasks on their courses. -/
theorem OnCourse.step {s : Surroundings} {x : JobStimulus} {j k : Job} {effects : List Effect}
    (on : OnCourse past h.pool) (here : h.pool.jobs[number]? = some j)
    (stepped : j.step? s x = some (k, effects)) :
    OnCourse (past ++ [⟨h, .task number s x, effects.map (.ofTask number)⟩])
      (h.pool.setJob number k) := by
  have within : number < h.pool.jobs.length := (List.getElem?_eq_some_iff.mp here).1
  have elsewhere {other : Nat} (apart : other ≠ number) :
      historyOf other (past ++ [⟨h, .task number s x, effects.map (.ofTask number)⟩]) =
        historyOf other past := by
    refine historyOf_concat_none ?_
    unfold Moment.ofTask?
    cases x with
    | work y => exact if_neg apart.symm
    | finish | release => rfl
  refine ⟨fun other above => ?_, fun other l r there work => ?_⟩
  · rw [Pool.setJob, List.length_set] at above
    rw [elsewhere (by omega)]
    exact on.fresh other above
  · by_cases apart : other = number
    · subst apart
      rw [Pool.setJob, List.getElem?_set_self within] at there
      cases there
      rcases Job.step?_cases stepped with ⟨y, w, rfl, busy, ran, rfl⟩ | ⟨_, rfl, -, -, rfl, -⟩ |
        ⟨rfl, idle, rfl, -⟩
      · cases before : j.work with
        | migration r₀ =>
          rw [before] at ran
          obtain ⟨⟨r', _⟩, run, same⟩ := Option.map_eq_some_iff.mp ran
          cases same
          cases work
          obtain ⟨cancelled, course, known⟩ := on.courses other j r₀ here before
          obtain rfl := known busy
          have own : Moment.ofTask? other
              ⟨h, .task other s (.work y), effects.map (.ofTask other)⟩ =
                some ⟨s, j.task.isCancelled, y, effects⟩ := by
            simp only [Moment.ofTask?, if_true, here, Option.map_some, effects_of_errands]
          rw [historyOf_concat_some own, MigrationRun.plan_of_step? run]
          exact ⟨_, course.step run, fun _ => rfl⟩
        | copying r₀ =>
          rw [before] at ran
          obtain ⟨_, -, same⟩ := Option.map_eq_some_iff.mp ran
          cases same
          cases work
      · -- the run has ended, and its task no longer knows whether it was cancelled
        obtain ⟨cancelled, course, -⟩ := on.courses other j r here work
        rw [historyOf_concat_none rfl]
        exact ⟨cancelled, course, fun busy => by cases busy⟩
      · obtain ⟨cancelled, course, -⟩ := on.courses other j r here work
        rw [historyOf_concat_none rfl]
        have never (busy : j.inProgress = true) : j.task.isCancelled = cancelled := by
          rw [idle] at busy
          cases busy
        exact ⟨cancelled, course, never⟩
    · rw [elsewhere apart]
      rcases jobs_setJob here there with before | ⟨same, -⟩
      · exact on.courses other l r before work
      · exact absurd same apart

/-- Every migration of a host has taken a course with what has happened in its run. -/
theorem Run.courses (run : Run config past h) : OnCourse past h.pool := by
  induction run with
  | new => exact ⟨fun _ _ => rfl, fun _ _ _ here => nomatch here⟩
  | step _ moved ih =>
    cases step?_cases moved with
    | @call s o p state effects begun =>
      refine (ih.touch (Operation.begin_touch begun)).mono fun number => ?_
      exact historyOf_concat_none (m := ⟨_, .call s o, _⟩) rfl
    | @goOn call s x c p state effects _ stepped =>
      refine (ih.touch (CallState.step?_touch stepped)).mono fun number => ?_
      exact historyOf_concat_none (m := ⟨_, .goOn call s x, _⟩) rfl
    | task here stepped => exact ih.step here stepped

/-! ## Completed migrations -/

end Host

namespace Sample

/-- A migration is started and comes to its end. -/
def fullMoves : List Host.Move :=
  [.call (surroundings 0) (.startMigration plan.options),
    .goOn 0 (surroundings 0) (.answer (.ok .done)),
    .goOn 0 (surroundings 0) (.answer (.ok (.flag false))),
    .goOn 0 (surroundings 0) (.answer (.ok .done))] ++
  moments.map (fun moment => .task 0 moment.1 (.work moment.2)) ++
  [.act .course (.reply (.ok .null)), .fold, .fold, .fold, .fold, .fold, .fold, .persist, .kept].map
    (fun x => .task 0 (surroundings 5000) (.work x)) ++
  [.task 0 (surroundings 5000) .finish]

theorem full_replayable : ((Host.new .default).replay? fullMoves).isSome := rfl

/-- The moves with what they found, and the host after them. -/
def full : List Host.Moment × Host := Option.get _ full_replayable

end Sample

end VmControl
