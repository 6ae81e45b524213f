import VmControl.Proofs.Copy.Cleanup
import VmControl.Proofs.Pool.Courses
import VmControl.Proofs.Pool.Exclusion

/-!
# Block jobs of tasks in progress

Each task works with block jobs that are named after the devices of its disks (`Work.blockJobs`),
and all that it orders names no other ones (`Host.Run.named`).

Only copies are in progress side by side on one machine. What keeps them apart are the paths of
their disks, while their jobs are named after the devices. So they have different jobs exactly if
the devices differ in more than the characters that an identifier cannot hold
(`Host.Run.blockJobs_apart`). Among the disks of one migration this is checked; among copies nobody
checks it, and two copies whose devices differ only in such characters start, follow and cancel the
same job (`Sample.alike_overlap`).
-/

namespace VmControl

open History

namespace Disk

/-- A device whose characters an identifier can hold stands unchanged in the identifiers of its
jobs. -/
theorem jobName_eq {device : String} (plain : ∀ c ∈ device.toList, isIdChar c = true) :
    jobName device = device := by
  have same : device.toList.map jobChar = device.toList.map id :=
    List.map_congr_left fun c here => if_pos (plain c here)
  rw [jobName, same, List.map_id, String.ofList_toList]

end Disk

/-- The block job that an effect names. -/
def Effect.blockJob? (e : Effect) : Option String := e.order?.bind Order.job?

/-- The block jobs that a run works with. -/
def Work.blockJobs : Work → List String
  | .migration r => r.jobs
  | .copying r => [r.job]

/-- The devices that a run works on. -/
def Work.devices : Work → List String
  | .migration r => r.plan.options.disks.map (·.device)
  | .copying r => [r.disk.device]

/-! ## Migrations -/

section

variable {plan : MigrationPlan} {past : History} {e : Effect} {job : String}

/-- What is sent for the work of a migration names the mirrors of its disks. -/
theorem Permitted.blockJob {m : Moment} (permitted : Permitted plan past m e)
    (work : e.isUndo = false) (names : e.blockJob? = some job) :
    ∃ d ∈ plan.options.disks, job = d.mirrorJob := by
  cases permitted with
  | startMirror _ listed | endMirror listed =>
    cases names
    exact ⟨_, List.mem_of_getElem? listed, rfl⟩
  | listJobs | watch | quit | offer | withdraw | request => cases names
  | @transfer o kind =>
    cases o with
    | setCapabilities | setParameters | migrate | queryMigrate => cases names
    | _ => cases kind
  | @undo o kind =>
    cases o with
    | blockJobCancel | migrateCancel => cases work
    | _ => cases kind
  | @keep e inside =>
    cases e with
    | order | request => cases inside
    | _ => cases names

/-- What is sent to undo a migration is part of the rollback. -/
theorem RunStage.Traced.mem_rollback {stage : RunStage} (traced : stage.Traced plan past)
    (sent : e ∈ wire past) (undo : e.isUndo = true) : e ∈ plan.rollback := by
  have working (all : ∀ e ∈ wire past, e.isWork = true) : e ∈ plan.rollback :=
    nomatch undo.symm.trans (Effect.isUndo_of_isWork (all e sent))
  have stopped (stopped : Stopped past) : e ∈ plan.rollback := by
    obtain ⟨work, all, before⟩ := stopped
    rw [all] at sent
    rcases List.mem_append.mp sent with early | last
    · exact nomatch undo.symm.trans (Effect.isUndo_of_isWork (before e early))
    · rw [List.mem_singleton.mp last] at undo
      cases undo
  have rolling {left : List Effect} (rolling : RollingBack plan past left) : e ∈ plan.rollback := by
    obtain ⟨work, steps, last, all, before, parts, -⟩ := rolling
    rw [all] at sent
    rcases List.mem_append.mp sent with early | step
    · exact nomatch undo.symm.trans (Effect.isUndo_of_isWork (before e early))
    · rw [← parts]
      rcases List.mem_append.mp step with earlier | now
      · exact List.mem_append_left _ earlier
      · rw [List.mem_singleton.mp now]
        exact List.mem_append_right _ List.mem_cons_self
  cases stage with
  | fresh | provisioning | offering | transferring | withdrawing | resuming => exact working traced
  | quitting => exact stopped traced
  | cancellingJobs | cancellingTransfer | removing => exact rolling traced
  | closing ending =>
    have sealed : Sealed plan past ending.verdict := traced
    cases verdict : ending.verdict with
    | ok =>
      rw [verdict] at sealed
      exact sealed.elim working stopped
    | error =>
      rw [verdict] at sealed
      obtain ⟨work, all, before, -⟩ := sealed
      rw [all] at sent
      rcases List.mem_append.mp sent with early | step
      · exact nomatch undo.symm.trans (Effect.isUndo_of_isWork (before e early))
      · exact step

/-- All that a migration has sent names the mirrors of its own disks. -/
theorem Course.blockJob {cancelled : Bool} {r : MigrationRun}
    (course : Course plan past cancelled r) (sent : e ∈ wire past)
    (names : e.blockJob? = some job) : job ∈ r.jobs := by
  obtain ⟨rfl, traced⟩ := course.traced
  cases undo : e.isUndo with
  | false =>
    obtain ⟨_, _, _, _, permitted⟩ := course.ordered.orderly.permitted_of_mem sent
    obtain ⟨d, listed, rfl⟩ := permitted.blockJob undo names
    exact List.mem_map.mpr ⟨d, listed, rfl⟩
  | true =>
    have step := traced.mem_rollback sent undo
    rw [MigrationPlan.rollback, MigrationPlan.rollbackFrom] at step
    rcases List.mem_append.mp step with cancel | other
    · obtain ⟨own, listed, rfl⟩ := List.mem_map.mp cancel
      cases names
      exact listed
    · simp only [List.mem_cons, List.not_mem_nil, or_false] at other
      rcases other with rfl | rfl <;> cases names

end

/-! ## Copies -/

/-- All that a copy orders names its own job. -/
theorem CopyRun.Act.blockJob {r : CopyRun} {s : Surroundings} {cancelled : Bool} {h : Happening}
    {st : CopyStep} {e : Effect} {job : String} (act : r.Act s cancelled h st) (sent : e ∈ st.2)
    (names : e.blockJob? = some job) : job = r.job := by
  cases act with
  | @order target =>
    obtain rfl := List.mem_singleton.mp sent
    exact Option.some.inj (names.symm.trans (r.startOrder_backs target).2.2)
  | abandon =>
    obtain rfl := List.mem_singleton.mp sent
    exact (Option.some.inj names).symm
  | begin | list | refused | succeed | cancelled =>
    obtain rfl := List.mem_singleton.mp sent
    cases names
  | unprepared | await | measured => cases sent

/-! ## Tasks -/

namespace Job

variable {j k : Job} {s : Surroundings} {x : JobStimulus} {effects : List Effect}

/-- A task goes on working with the same block jobs. -/
theorem blockJobs_of_step? (stepped : j.step? s x = some (k, effects)) :
    k.work.blockJobs = j.work.blockJobs := by
  rcases step?_cases stepped with ⟨y, w, -, -, ran, rfl⟩ | ⟨_, -, -, -, rfl, -⟩ | ⟨-, -, rfl, -⟩
  · cases work : j.work with
    | migration r =>
      rw [work] at ran
      obtain ⟨⟨r', _⟩, run, same⟩ := Option.map_eq_some_iff.mp ran
      cases same
      simp only [Work.blockJobs, MigrationRun.jobs, MigrationRun.plan_of_step? run]
    | copying r =>
      rw [work] at ran
      obtain ⟨⟨r', _⟩, run, same⟩ := Option.map_eq_some_iff.mp ran
      cases same
      simp only [Work.blockJobs, CopyRun.job, CopyRun.disk, CopyRun.plan_of_step? run]
  · rfl
  · rfl

/-- All that a copy wants done names its own job. -/
theorem blockJob_of_copying {r : CopyRun} {e : Effect} {job : String} (work : j.work = .copying r)
    (stepped : j.step? s x = some (k, effects)) (sent : e ∈ effects)
    (names : e.blockJob? = some job) : job = r.job := by
  rcases step?_cases stepped with ⟨y, w, -, -, ran, rfl⟩ | ⟨_, -, -, -, -, rfl⟩ | ⟨-, -, -, rfl⟩
  · rw [work] at ran
    generalize started : Work.copying r = old at ran
    cases Work.step?_cases ran with
    | migrate => cases started
    | copy act =>
      cases started
      exact (CopyRun.act?_cases act).blockJob sent names
    | fold | kept => cases sent
    | persist =>
      subst started
      obtain rfl := List.mem_singleton.mp sent
      cases names
  · cases sent
  · cases sent

end Job

/-- Two tasks in progress on one machine are copies of disks with different paths. -/
theorem Pool.Exclusive.copies {p : Pool} {n m : Nat} {j k : Job} (exclusive : p.Exclusive)
    (apart : n ≠ m) (work : p.AtWork n j) (work' : p.AtWork m k) (same : j.work.vm = k.work.vm) :
    ∃ r r', j.work = .copying r ∧ k.work = .copying r' ∧ r.disk.path ≠ r'.disk.path := by
  cases moves : j.work with
  | migration r =>
    rw [moves] at same
    have migrating : p.Migrating n r := ⟨j, work, moves⟩
    cases moves' : k.work with
    | migration r' =>
      rw [moves'] at same
      exact absurd (exclusive.migrations n m r r' migrating ⟨k, work', moves'⟩ same) apart
    | copying r' =>
      rw [moves'] at same
      exact absurd same.symm (exclusive.owners n m r r' migrating ⟨k, work', moves'⟩)
  | copying r =>
    rw [moves] at same
    have copies : p.Copying n r := ⟨j, work, moves⟩
    cases moves' : k.work with
    | migration r' =>
      rw [moves'] at same
      exact absurd same (exclusive.owners m n r' r ⟨k, work', moves'⟩ copies)
    | copying r' =>
      refine ⟨r, r', rfl, rfl, fun alike => apart ?_⟩
      exact exclusive.disks n m r r' copies ⟨k, work', moves'⟩ alike

namespace Host

open Pool

variable {config : Config} {past : List Moment} {h : Host} {p q : Pool} {number : Nat}

/-- The block job that an errand of a task names. -/
def Errand.blockJob? (number : Nat) : Errand → Option String
  | .ofTask n e => if n = number then e.blockJob? else none
  | .ofCall .. => none

/-- The block jobs that a task has named in what it ordered. -/
def blockJobsOf (number : Nat) (past : List Moment) : List String :=
  past.flatMap fun m => m.errands.filterMap (Errand.blockJob? number)

theorem mem_blockJobsOf_concat {m : Moment} {job : String} :
    job ∈ blockJobsOf number (past ++ [m]) ↔
      job ∈ blockJobsOf number past ∨ ∃ e ∈ m.errands, e.blockJob? number = some job := by
  rw [blockJobsOf, List.flatMap_append, List.flatMap_singleton, List.mem_append, List.mem_filterMap,
    blockJobsOf]

/-- Every task has named its own block jobs only. -/
structure Named (past : List Moment) (p : Pool) : Prop where
  fresh : ∀ number, p.jobs.length ≤ number → blockJobsOf number past = []
  own : ∀ number j, p.jobs[number]? = some j → ∀ job ∈ blockJobsOf number past,
    job ∈ j.work.blockJobs

/-- What a call does to the tasks, and what it wants done, names no block job. -/
theorem Named.touch {m : Moment} {effects : List CallEffect} {call : Nat} (named : Named past p)
    (touch : p.Touch q) (errands : m.errands = effects.map (.ofCall call)) :
    Named (past ++ [m]) q := by
  have same (number : Nat) : blockJobsOf number (past ++ [m]) = blockJobsOf number past := by
    have none : m.errands.filterMap (Errand.blockJob? number) = [] := by
      rw [errands, List.filterMap_map]
      exact List.filterMap_none _
    rw [blockJobsOf, List.flatMap_append, List.flatMap_singleton, none, List.append_nil,
      blockJobsOf]
  cases touch with
  | nothing | unregister =>
    exact ⟨fun number above => (same number).trans (named.fresh number above),
      fun number j here => by rw [same]; exact named.own number j here⟩
  | @start j begun =>
    refine ⟨fun number above => (same number).trans (named.fresh number ?_),
      fun number k here => ?_⟩
    · rw [Pool.start, List.length_append] at above
      exact Nat.le_of_add_right_le above
    · rw [same]
      rcases jobs_of_jobs_start here with before | ⟨rfl, rfl⟩
      · exact named.own number k before
      · rw [named.fresh _ (Nat.le_refl _)]
        exact List.forall_mem_nil _
  | fire fired =>
    obtain ⟨j, task, here, -, rfl⟩ := fire?_eq_some fired
    refine ⟨fun number above => (same number).trans (named.fresh number ?_),
      fun number k there => ?_⟩
    · rwa [Pool.setJob, List.length_set] at above
    · rw [same]
      rcases jobs_setJob here there with before | ⟨rfl, rfl⟩
      · exact named.own number k before
      · exact named.own number j here

/-- All that a task wants done at a step names its own block jobs. -/
theorem Run.blockJob_of_step? {j k : Job} {s : Surroundings} {x : JobStimulus}
    {effects : List Effect} {e : Effect} {job : String} (run : Run config past h)
    (here : h.pool.jobs[number]? = some j) (stepped : j.step? s x = some (k, effects))
    (sent : e ∈ effects) (names : e.blockJob? = some job) : job ∈ j.work.blockJobs := by
  cases work : j.work with
  | copying r => exact List.mem_singleton.mpr (Job.blockJob_of_copying work stepped sent names)
  | migration r =>
    rcases Job.step?_cases stepped with ⟨y, w, -, busy, ran, -⟩ | ⟨_, -, -, -, -, rfl⟩
      | ⟨-, -, -, rfl⟩
    · rw [work] at ran
      obtain ⟨⟨r', _⟩, moved, same⟩ := Option.map_eq_some_iff.mp ran
      cases same
      obtain ⟨cancelled, course, known⟩ := run.courses.courses number j r here work
      obtain rfl := known busy
      have goesOut : e.isWire = true := by
        cases e with
        | order => rfl
        | _ => cases names
      have there : e ∈ wire (historyOf number past ++ [⟨s, j.task.isCancelled, y, effects⟩]) := by
        rw [wire_append, wire_singleton]
        exact List.mem_append_right _ (List.mem_filter.mpr ⟨sent, goesOut⟩)
      have own := (course.step moved).blockJob there names
      rwa [MigrationRun.jobs, MigrationRun.plan_of_step? moved] at own
    · cases sent
    · cases sent

/-- Every task of a host has named its own block jobs only. -/
theorem Run.named (run : Run config past h) : Named past h.pool := by
  induction run with
  | new => exact ⟨fun _ _ => rfl, fun _ _ here => nomatch here⟩
  | @step past h h' move errands run moved ih =>
    cases step?_cases moved with
    | call begun => exact ih.touch (Operation.begin_touch begun) rfl
    | goOn _ stepped => exact ih.touch (CallState.step?_touch stepped) rfl
    | @task acting s x j k effects here stepped =>
      have elsewhere {number : Nat} (apart : number ≠ acting) {job : String} :
          job ∈ blockJobsOf number
            (past ++ [⟨h, .task acting s x, effects.map (.ofTask acting)⟩]) ↔
          job ∈ blockJobsOf number past := by
        rw [mem_blockJobsOf_concat, or_iff_left]
        rintro ⟨e, sent, names⟩
        obtain ⟨effect, -, rfl⟩ := List.mem_map.mp sent
        rw [Errand.blockJob?, if_neg apart.symm] at names
        cases names
      refine ⟨fun number above => ?_, fun number l there job named => ?_⟩
      · rw [Pool.setJob, List.length_set] at above
        have within : acting < h.pool.jobs.length := (List.getElem?_eq_some_iff.mp here).1
        refine List.eq_nil_iff_forall_not_mem.mpr fun job named => ?_
        rw [elsewhere (by omega), ih.fresh number above] at named
        cases named
      · by_cases same : number = acting
        · subst same
          have within := (List.getElem?_eq_some_iff.mp here).1
          rw [Pool.setJob, List.getElem?_set_self within] at there
          cases there
          rw [Job.blockJobs_of_step? stepped]
          rcases mem_blockJobsOf_concat.mp named with before | ⟨e, sent, names⟩
          · exact ih.own number j here job before
          · obtain ⟨effect, given, rfl⟩ := List.mem_map.mp sent
            rw [Errand.blockJob?, if_pos rfl] at names
            exact run.blockJob_of_step? here stepped given names
        · rw [elsewhere same] at named
          rw [Pool.setJob, List.getElem?_set_ne (Ne.symm same)] at there
          exact ih.own number l there job named

/-- A task names no block jobs but its own. Two tasks in progress on one machine are copies of disks
with different paths, and they have different block jobs exactly if the devices of the disks differ
in more than what is replaced in identifiers; devices that an identifier can hold need only
differ. -/
theorem Run.blockJobs_apart (run : Run config past h) :
    (∀ n j, h.pool.jobs[n]? = some j → ∀ job ∈ blockJobsOf n past, job ∈ j.work.blockJobs) ∧
    ∀ n m j k, n ≠ m → h.pool.AtWork n j → h.pool.AtWork m k → j.work.vm = k.work.vm →
      ∃ r r', j.work = .copying r ∧ k.work = .copying r' ∧ r.disk.path ≠ r'.disk.path ∧
        (j.work.blockJobs.Disjoint k.work.blockJobs ↔
          Disk.jobName r.disk.device ≠ Disk.jobName r'.disk.device) ∧
        ((∀ c ∈ r.disk.device.toList ++ r'.disk.device.toList, Disk.isIdChar c = true) →
          r.disk.device ≠ r'.disk.device → j.work.blockJobs.Disjoint k.work.blockJobs) := by
  refine ⟨run.named.own, fun n m j k apart work work' same => ?_⟩
  obtain ⟨r, r', copies, copies', paths⟩ := run.excludes.1.copies apart work work' same
  have disjoint : j.work.blockJobs.Disjoint k.work.blockJobs ↔
      Disk.jobName r.disk.device ≠ Disk.jobName r'.disk.device := by
    rw [copies, copies', Work.blockJobs, Work.blockJobs, List.singleton_disjoint,
      List.mem_singleton, CopyRun.job, CopyRun.job, Disk.copyJob, Disk.copyJob, Disk.jobId_eq_iff]
  refine ⟨r, r', copies, copies', paths, disjoint, fun plain differ => disjoint.mpr ?_⟩
  rw [Disk.jobName_eq fun c here => plain c (List.mem_append_left _ here),
    Disk.jobName_eq fun c here => plain c (List.mem_append_right _ here)]
  exact differ

end Host

namespace Sample

/-- Two disks of a machine are copied, and both copies come to order their backups. -/
def copiesOf (device device' : String) : List Host.Move :=
  [.call (surroundings 0) (.startCopying { copying with disk := { disk with device := device } }),
    .call (surroundings 0) (.startCopying
      { copying with disk := { disk with path := "/dev/vg/data", device := device' } }),
    .task 0 (surroundings 0) (.work (.act .course .enter)),
    .task 1 (surroundings 0) (.work (.act .course .enter)),
    .task 0 (surroundings 0) (.work (.act .course (.prepared (.ok ⟨"/backup/root", false, none⟩)))),
    .task 1 (surroundings 0) (.work (.act .course (.prepared (.ok ⟨"/backup/data", false, none⟩))))]

theorem copies_replayable (device device' : String) :
    ((Host.new .default).replay? (copiesOf device device')).isSome := rfl

/-- The moves with what they found, and the host after them. -/
def sideBySide (device device' : String) : List Host.Moment × Host :=
  Option.get _ (copies_replayable device device')

theorem sideBySide_run (device device' : String) :
    Host.Run .default (sideBySide device device').1 (sideBySide device device').2 :=
  .of_replay? (copies_replayable device device')

/-- Two copies whose disks have devices of their own are in progress with jobs of their own. -/
theorem sideBySide_apart :
    ∃ j k, (sideBySide "drive0" "drive1").2.pool.AtWork 0 j ∧
      (sideBySide "drive0" "drive1").2.pool.AtWork 1 k ∧ j.work.vm = k.work.vm ∧
      Host.blockJobsOf 0 (sideBySide "drive0" "drive1").1 = ["copy_drive0"] ∧
      j.work.blockJobs.Disjoint k.work.blockJobs := by
  refine ⟨_, _, ⟨rfl, rfl⟩, ⟨rfl, rfl⟩, rfl, rfl, ?_⟩
  obtain ⟨r, r', copies, copies', -, -, disjoint⟩ :=
    (sideBySide_run "drive0" "drive1").blockJobs_apart.2 0 1 _ _ nofun ⟨rfl, rfl⟩ ⟨rfl, rfl⟩ rfl
  cases copies
  cases copies'
  have plain : ("drive0".toList ++ "drive1".toList).all Disk.isIdChar = true := rfl
  exact disjoint (List.all_eq_true.mp plain) (by decide)

/-- Two copies whose devices differ only in what is replaced in identifiers have both ordered the
start of one job. -/
theorem alike_overlap : ¬ ∀ config past h, Host.Run config past h →
    (∀ n m j k, n ≠ m → h.pool.AtWork n j → h.pool.AtWork m k → j.work.vm = k.work.vm →
      j.work.devices.Disjoint k.work.devices) →
    ∀ n m j k, n ≠ m → h.pool.AtWork n j → h.pool.AtWork m k → j.work.vm = k.work.vm →
      (Host.blockJobsOf n past).Disjoint (Host.blockJobsOf m past) := by
  intro always
  have listed : (sideBySide "/machine/d_0" "/machine/d/0").2.pool.jobs.map (·.work.devices) =
      [["/machine/d_0"], ["/machine/d/0"]] := rfl
  have devices {n : Nat} {j : Job}
      (here : (sideBySide "/machine/d_0" "/machine/d/0").2.pool.jobs[n]? = some j) :
      [["/machine/d_0"], ["/machine/d/0"]][n]? = some j.work.devices := by
    rw [← listed, List.getElem?_map, here, Option.map_some]
  have shared : "copy__machine_d_0" ∈ Host.blockJobsOf 0
      (sideBySide "/machine/d_0" "/machine/d/0").1 ∧
      "copy__machine_d_0" ∈ Host.blockJobsOf 1 (sideBySide "/machine/d_0" "/machine/d/0").1 :=
    ⟨List.mem_of_getElem? (i := 0) rfl, List.mem_of_getElem? (i := 0) rfl⟩
  refine always _ _ _ (sideBySide_run "/machine/d_0" "/machine/d/0") ?_ 0 1 _ _ nofun ⟨rfl, rfl⟩
    ⟨rfl, rfl⟩ rfl shared.1 shared.2
  intro n m j k apart work work' _
  have first := devices work.1
  have second := devices work'.1
  match n, m, apart with
  | 0, 0, apart | 1, 1, apart => exact absurd rfl apart
  | 0, 1, _ | 1, 0, _ =>
    rw [← Option.some.inj first, ← Option.some.inj second, List.singleton_disjoint]
    decide
  | n + 2, _, _ => cases first
  | _, m + 2, _ => cases second

end Sample

end VmControl
