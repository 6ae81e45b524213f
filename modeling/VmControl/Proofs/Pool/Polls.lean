import VmControl.Proofs.Pool.Filing

/-!
# Final reports do not get lost

Whoever asks for the statistics of a migration is told those of the registered task, and looks at
the record if no task is registered. A task is registered until it has ended, and it has ended only
when its final statistics are in the record. So once somebody was told a final report, everybody who
asks later is told the same, until another migration of the machine is started.

* `Service.Reports`: whose report it is. Every final report that was told is the one of some
  migration, or stood in the record from the beginning (`Service.Leads.traced`).
* `Service.Answers`: the poll has been told a report, or it looks at a record that has this report.
-/

namespace VmControl

namespace Service

variable {u v w : Service} {config : Config} {files fs : FileSystem} {vm text : String}
  {number : Nat} {j : Job} {move : Move} {stat : MigrationStat} {source : Option Nat}
  {program : FileProgram (Except ControlError MigrationStat)}

/-! ## Whose report it is -/

/-- The report is that of the migration with a number, or of the record that was there in the
beginning. -/
def Reports (v : Service) (files : FileSystem) (vm : String) (stat : MigrationStat) :
    Option Nat → Prop
  | some number => ∃ j : Job, v.host.pool.jobs[number]? = some j ∧ j.id = .migration vm ∧
      j.work.snapshot = .migration stat
  | none => ∃ text, files.find? (v.records.path (.migration vm)) = some (.file text) ∧
      Decode.ofText MigrationStat.ofDraft text = .ok stat

/-- Whose report it is, where the record could be read if it is that of the record. -/
structure Traces (v : Service) (files : FileSystem) (vm : String) (stat : MigrationStat)
    (source : Option Nat) : Prop where
  reports : v.Reports files vm stat source
  readable : source = none → v.files.LeadsTo v.records.dirPath (RecordKey.migration vm).fileName

/-- A final report stays the same. -/
theorem Reports.step (reports : v.Reports files vm stat source)
    (final : stat.status.isTerminal = true) (step : v.Step move w) :
    w.Reports files vm stat source := by
  cases source with
  | none =>
    obtain ⟨text, there, decoded⟩ := reports
    exact ⟨text, by rw [step.records_eq, there], decoded⟩
  | some number =>
    obtain ⟨j, here, named, seen⟩ := reports
    cases step with
    | host waits moved =>
      obtain ⟨k, there, same, does⟩ := (Host.step?_cases moved).does here
      refine ⟨k, there, same.trans named, ?_⟩
      cases does with
      | nothing unchanged => rw [unchanged, seen]
      | step own busy stepped wants =>
        have before : j.work.snapshot.status.isTerminal = true := by rwa [seen]
        rw [stepped.frozen before, seen]
    | save | ask | read | outside => exact ⟨j, here, named, seen⟩

theorem Traces.step (traces : v.Traces files vm stat source) (final : stat.status.isTerminal = true)
    (sound : v.Sound config) (fair : v.Fair move) (step : v.Step move w) :
    w.Traces files vm stat source where
  reports := traces.reports.step final step
  readable none := by
    rw [step.records_eq]
    exact (traces.readable none).mono (sound.keepsDirs fair step)

theorem Traces.leads (traces : u.Traces files vm stat source)
    (final : stat.status.isTerminal = true) (sound : u.Sound config) (leads : u.Leads v) :
    v.Traces files vm stat source :=
  leads.preserves (P := fun v => v.Traces files vm stat source) traces
    fun before fair step traces => traces.step final (before.sound sound) fair step

/-- What is kept of a migration is read as what was seen of it. -/
theorem Sound.decodes (sound : v.Sound config) (here : v.host.pool.jobs[number]? = some j)
    (named : j.id = .migration vm) : ∃ stat, j.work.snapshot = .migration stat ∧
      Decode.ofText MigrationStat.ofDraft j.work.text = .ok stat := by
  obtain ⟨past, run, valid⟩ := sound.run
  obtain ⟨r, work, -⟩ := Work.eq_migration_of_id ((sound.own here).symm.trans named)
  have dated : r.account.stat.Dated := run.dated valid number j here r work
  rw [work]
  exact ⟨r.account.stat, rfl, (MigrationStat.survives dated).lines⟩

theorem Filed.traces (filed : v.Filed files vm) (sound : v.Sound config)
    (holds : v.records.Holds (.migration vm) text v.files)
    (decoded : Decode.ofText MigrationStat.ofDraft text = .ok stat) :
    ∃ source, v.Traces files vm stat source := by
  rcases filed.record with same | ⟨number, j, here, named, -, stands⟩
  · exact ⟨none, ⟨text, same.symm.trans holds.there, decoded⟩, fun _ => holds.leads⟩
  · obtain ⟨stat', seen, reads⟩ := sound.decodes here named
    obtain rfl : text = j.work.text := by
      have same := holds.there.symm.trans stands
      cases same
      rfl
    obtain rfl : stat' = stat := Except.ok.inj (reads.symm.trans decoded)
    exact ⟨some number, ⟨j, here, named, seen⟩, nofun⟩

/-- Every final report that somebody was told of a machine is somebody's report. -/
def Traced (files : FileSystem) (vm : String) (v : Service) : Prop :=
  ∀ p ∈ v.polls, p.vm = vm → ∀ stat, p.program = .done (.ok stat) → stat.status.isTerminal = true →
    ∃ source, v.Traces files vm stat source

/-- A registered task is asked. -/
theorem Sound.traces_ask (sound : v.Sound config)
    (told : v.host.pool.migrationStat vm = .done (.ok stat)) :
    ∃ number, v.host.pool.table.get? (.migration vm) = some number ∧
      v.Traces files vm stat (some number) := by
  obtain ⟨_, run, -⟩ := sound.run
  rcases run.sound.pool.migrationStat_cases vm with ⟨number, j, r, found, here, work, same⟩
    | ⟨-, looks⟩
  · obtain ⟨k, there, named⟩ := run.sound.pool.entered (_, number) (TaskTable.mem_of_get? found)
    obtain rfl : j = k := Option.some.inj (here.symm.trans there)
    obtain rfl : r.account.stat = stat := by
      rw [same] at told
      cases told
      rfl
    exact ⟨number, found, ⟨j, here, named, by rw [work]; rfl⟩, nofun⟩
  · exact absurd (looks.symm.trans told) Records.reportMigration_ne_ok

theorem Traced.step (traced : v.Traced files vm) (filed : v.Filed files vm) (sound : v.Sound config)
    (fair : v.Fair move) (step : v.Step move w) : w.Traced files vm := by
  intro p listed about stat told final
  have stays (traced : ∃ source, v.Traces files vm stat source) :
      ∃ source, w.Traces files vm stat source := by
    obtain ⟨source, traces⟩ := traced
    exact ⟨source, traces.step final sound fair step⟩
  refine stays ?_
  cases step with
  | host | save | outside => exact traced p listed about stat told final
  | ask =>
    rcases List.mem_append.mp listed with before | new
    · exact traced p before about stat told final
    · obtain rfl := List.mem_singleton.mp new
      obtain rfl : _ = vm := about
      obtain ⟨number, -, traces⟩ := sound.traces_ask told
      exact ⟨some number, traces⟩
  | @read poll q next _ here advanced =>
    rcases List.mem_or_eq_of_mem_set listed with before | rfl
    · exact traced p before about stat told final
    · obtain rfl : q.vm = vm := about
      rcases sound.asked q (List.mem_of_getElem? here) with looks | ⟨outcome, answered⟩
      · rw [looks] at advanced
        obtain ⟨-, outcome, rfl, reads⟩ := Records.advance?_reportMigration advanced
        cases told
        rcases reads stat rfl with rfl | ⟨text, holds, decoded⟩
        · cases final
        · exact filed.traces sound holds decoded
      · rw [answered] at advanced
        cases advanced

theorem Leads.traced (leads : u.Leads v) (sound : u.Sound config) (filed : u.Filed files vm)
    (traced : u.Traced files vm) : v.Traced files vm :=
  leads.preserves traced fun before fair step traced =>
    traced.step (before.filed sound filed) (before.sound sound) fair step

/-! ## What later polls are told -/

/-- Whoever has asked was told a report, or looks at the record, where the migration with that
report is saved. -/
inductive Answers (v : Service) (vm : String) (stat : MigrationStat) (source : Option Nat) :
    FileProgram (Except ControlError MigrationStat) → Prop
  | told : Answers v vm stat source (.done (.ok stat))
  | looks (saved : ∀ number, source = some number → v.save? number = some (.done (.ok ()))) :
      Answers v vm stat source (v.records.reportMigration vm)

/-- All polls of a machine that were begun from some number on are told a report. -/
def Bound (v : Service) (vm : String) (stat : MigrationStat) (source : Option Nat) (begin : Nat) :
    Prop :=
  ∀ (poll : Nat) program, begin ≤ poll → v.polls[poll]? = some ⟨vm, program⟩ →
    v.Answers vm stat source program

/-- Whoever asks now is told the report of the newest migration of the machine. -/
theorem Traces.answers (traces : v.Traces files vm stat source) (sound : v.Sound config)
    (saved : v.Saved) (newest : v.host.pool.Newest vm source) :
    v.Answers vm stat source (v.host.pool.migrationStat vm) := by
  obtain ⟨_, run, -⟩ := sound.run
  rcases run.sound.pool.migrationStat_cases vm with
    ⟨number, j, r, found, here, work, same⟩ | ⟨gone, looks⟩
  · obtain rfl : source = some number := newest.unique (run.newest_of_registered found)
    obtain ⟨k, there, -, seen⟩ := traces.reports
    obtain rfl : j = k := Option.some.inj (here.symm.trans there)
    have told : r.account.stat = stat := by
      rw [work] at seen
      cases seen
      rfl
    rw [same, told]
    exact .told
  · rw [looks]
    refine .looks fun number same => ?_
    subst same
    obtain ⟨j, here, named, -⟩ := traces.reports
    obtain ⟨x, settled⟩ := sound.settled_of_unregistered here (by rw [named, gone]; nofun)
    rw [settled, saved.done settled]

theorem Answers.step (answers : v.Answers vm stat source program) (sound : v.Sound config)
    (step : v.Step move w) (traces : w.Traces files vm stat source) :
    w.Answers vm stat source program := by
  cases answers with
  | told => exact .told
  | looks saved =>
    rw [← step.records_eq]
    refine .looks fun number same => ?_
    have settled := saved number same
    subst same
    obtain ⟨k, there, -⟩ := traces.reports
    cases step with
    | host waits moved =>
      rcases sound.save?_host (Host.step?_cases moved) there with before | ⟨none, -⟩
      · exact before.trans settled
      · rw [settled] at none
        cases none
    | @save other _ _ _ here advanced =>
      rw [save?, save?_cons, if_neg]
      · exact settled
      · rintro rfl
        rw [settled] at here
        cases here
        cases advanced
    | ask | read | outside => exact settled

section

variable (usable : checkVmName vm = .ok ()) (sound : v.Sound config) (filed : v.Filed files vm)
  (traces : v.Traces files vm stat source) (newest : v.host.pool.Newest vm source)

include usable sound filed traces newest

/-- The report of the newest migration of a machine is the one that is read. -/
theorem Answers.run (answers : v.Answers vm stat source program) :
    (program.run v.files).1 = .ok stat := by
  cases answers with
  | told => rfl
  | looks saved =>
    cases source with
    | none =>
      obtain ⟨text, there, decoded⟩ := traces.reports
      have same : v.files.find? (v.records.path (.migration vm)) = some (.file text) := by
        rcases filed.record with same | ⟨number, j, here, named, -⟩
        · exact same.trans there
        · exact absurd named (newest number j here)
      exact Records.run_reportMigration usable ⟨traces.readable rfl, same⟩ decoded
    | some number =>
      obtain ⟨j, here, named, seen⟩ := traces.reports
      have holds := filed.settled newest here (saved number rfl)
      obtain ⟨stat', seen', decoded⟩ := sound.decodes here named
      obtain rfl : stat' = stat := by
        have same := seen'.symm.trans seen
        cases same
        rfl
      exact Records.run_reportMigration usable holds decoded

/-- Whoever looks at the record is told the report with the next request. -/
theorem Answers.advance {next : FileProgram (Except ControlError MigrationStat)}
    (answers : v.Answers vm stat source program)
    (advanced : program.advance? v.files = some (next, fs)) : next = .done (.ok stat) := by
  have comes := answers.run usable sound filed traces newest
  cases answers with
  | told => cases advanced
  | looks =>
    obtain ⟨-, outcome, rfl, -⟩ := Records.advance?_reportMigration advanced
    rw [← FileProgram.run_advance? advanced] at comes
    exact congrArg FileProgram.done comes

theorem Bound.step {begin : Nat} (bound : v.Bound vm stat source begin)
    (final : stat.status.isTerminal = true) (saved : v.Saved) (fair : v.Fair move)
    (step : v.Step move w) : w.Bound vm stat source begin := by
  intro poll program low here
  have still := traces.step final sound fair step
  have stays (answers : v.Answers vm stat source program) : w.Answers vm stat source program :=
    answers.step sound step still
  cases step with
  | host | save | outside => exact stays (bound poll program low here)
  | ask =>
    refine stays ?_
    rw [List.getElem?_append] at here
    split at here
    · exact bound poll program low here
    · rw [List.getElem?_singleton] at here
      split at here <;> cases here
      exact traces.answers sound saved newest
  | @read other q _ _ there advanced =>
    rw [List.getElem?_set] at here
    split at here
    · next same =>
      subst same
      split at here <;> cases here
      have answers := bound other q.program low there
      rw [answers.advance usable sound filed traces newest advanced]
      exact .told
    · exact stays (bound poll program low here)

end

theorem Leads.bound (later : v.Leads w) (final : stat.status.isTerminal = true)
    (usable : checkVmName vm = .ok ()) (sound : v.Sound config) (filed : v.Filed files vm)
    (traces : v.Traces files vm stat source) (newest : w.host.pool.Newest vm source)
    (saved : w.Saved) : w.Bound vm stat source v.polls.length := by
  induction later with
  | refl =>
    intro poll program low here
    rw [List.getElem?_eq_none low] at here
    cases here
  | @step u w move before fair moved ih =>
    have step := step?_cases moved
    have sound' := before.sound sound
    have filed' := before.filed sound filed
    have traces' := traces.leads final sound before
    have newest' : u.host.pool.Newest vm source := by
      refine newest.of_grows (sound'.grows step) fun number same => ?_
      subst same
      obtain ⟨j, here, -⟩ := traces'.reports
      exact ⟨j, here⟩
    have saved' := saved.of_step step
    exact (ih newest' saved').step usable sound' filed' traces' newest' final saved' fair step

/-- Once somebody was told a final report of the migration of a machine, everybody who asks later is
told the same, as long as no other migration of the machine is started and all saves succeed.
Whoever has not been told yet only has to go on. A save is one that others can read: it does not go
to a device that somebody has put where the temporary file belongs. -/
theorem Leads.told_for_good {first : Nat} (usable : checkVmName vm = .ok ())
    (free : Records.Undisturbed ⟨config.stateDir⟩ (.migration vm) files)
    (begun : (new config files).Leads v) (later : v.Leads w) (saved : w.Saved)
    (told : v.polls[first]? = some ⟨vm, .done (.ok stat)⟩)
    (final : stat.status.isTerminal = true) :
    (∃ source, v.Reports files vm stat source) ∧
    ∀ source, v.Reports files vm stat source → w.host.pool.Newest vm source →
      ∀ (poll : Nat) program, v.polls.length ≤ poll → w.polls[poll]? = some ⟨vm, program⟩ →
        (program.run w.files).1 = .ok stat := by
  have sound := begun.sound (.new config files)
  have filed : v.Filed files vm := begun.filed (.new config files) (.new free)
  have traced : v.Traced files vm :=
    begun.traced (.new config files) (.new free) (List.forall_mem_nil _)
  obtain ⟨origin, found⟩ := traced _ (List.mem_of_getElem? told) rfl stat rfl final
  refine ⟨⟨origin, found.reports⟩, fun source reports newest poll program low here => ?_⟩
  have traces : v.Traces files vm stat source := by
    refine ⟨reports, ?_⟩
    rintro rfl
    -- no migration was started, so the report that was told can only be that of the record
    cases origin with
    | none => exact found.readable rfl
    | some number =>
      obtain ⟨j, there, named, -⟩ := (found.leads final sound later).reports
      exact absurd named (newest number j there)
  have bound := later.bound final usable sound filed traces newest saved
  have answers := bound poll program low here
  exact answers.run usable (later.sound sound) (later.filed sound filed)
    (traces.leads final sound later) newest

end Service

namespace Sample

/-- A file system without any file. -/
def noFiles : FileSystem := ⟨[], false⟩

/-- The migration that comes to its end, with the save of its statistics before it goes on from
keeping them. Then somebody asks. -/
def savedMoves : List Service.Move :=
  (fullMoves.take 30).map .host ++ List.replicate 3 (.save 0) ++ (fullMoves.drop 30).map .host ++
    [.ask "web"]

/-- All tasks of the machine are cancelled, which forgets the migration. Then somebody asks
again. -/
def cancelMoves : List Host.Move :=
  [.call (surroundings 5000) (.cancelAll "web"),
    .goOn 1 (surroundings 5000) .enter,
    .goOn 1 (surroundings 5000) .enter,
    .task 0 (surroundings 5000) .release,
    .goOn 1 (surroundings 5000) .enter,
    .goOn 1 (surroundings 5000) .enter]

def forgottenMoves : List Service.Move := cancelMoves.map .host ++ [.ask "web"]

theorem saved_replayable : ((Service.new .default noFiles).replay? savedMoves).isSome := by
  decide +kernel

@[irreducible] def saved : Service := (Option.get _ saved_replayable).2

theorem forgotten_replayable : (saved.replay? forgottenMoves).isSome := by decide +kernel

@[irreducible] def forgotten : Service := (Option.get _ forgotten_replayable).2

theorem fair_host {moves : List Host.Move}
    (stamped : ∀ m ∈ moves, m.surroundings.stamp = ⟨100, 0⟩) :
    ∀ move ∈ moves.map Service.Move.host, ∀ v : Service, v.Fair move := by
  have valid : Timestamp.Valid ⟨100, 0⟩ := ⟨rfl, Or.inl (by decide)⟩
  refine List.forall_mem_map.mpr fun m listed v => ?_
  rw [Service.Fair, stamped m listed]
  exact valid

theorem savedMoves_fair : ∀ move ∈ savedMoves, ∀ v : Service, v.Fair move := by
  have stamped : ∀ m ∈ fullMoves, m.surroundings.stamp = ⟨100, 0⟩ := by decide +kernel
  have first : ∀ m ∈ fullMoves.take 30, m.surroundings.stamp = ⟨100, 0⟩ := fun m early =>
    stamped m (List.mem_of_mem_take early)
  have rest : ∀ m ∈ fullMoves.drop 30, m.surroundings.stamp = ⟨100, 0⟩ := fun m late =>
    stamped m (List.mem_of_mem_drop late)
  intro move listed v
  rcases List.mem_append.mp listed with listed | asked
  · rcases List.mem_append.mp listed with listed | later
    · rcases List.mem_append.mp listed with early | saves
      · exact fair_host first move early v
      · obtain rfl := List.eq_of_mem_replicate saves
        trivial
    · exact fair_host rest move later v
  · obtain rfl := List.mem_singleton.mp asked
    trivial

theorem forgottenMoves_fair : ∀ move ∈ forgottenMoves, ∀ v : Service, v.Fair move := by
  have stamped : ∀ m ∈ cancelMoves, m.surroundings.stamp = ⟨100, 0⟩ := by decide +kernel
  intro move listed v
  rcases List.mem_append.mp listed with cancels | asked
  · exact fair_host stamped move cancels v
  · obtain rfl := List.mem_singleton.mp asked
    trivial

theorem saved_leads : (Service.new .default noFiles).Leads saved := by
  rw [saved]
  exact .of_replay? savedMoves_fair saved_replayable

theorem forgotten_leads : saved.Leads forgotten := by
  rw [forgotten]
  exact .of_replay? forgottenMoves_fair forgotten_replayable

/-- The status of a report that was told. -/
def status? : FileProgram (Except ControlError MigrationStat) → Option TaskStatus
  | .done (.ok stat) => some stat.status
  | _ => none

theorem status?_eq_some {program : FileProgram (Except ControlError MigrationStat)}
    {status : TaskStatus} (told : status? program = some status) :
    ∃ stat, program = .done (.ok stat) ∧ stat.status = status := by
  unfold status? at told
  split at told <;> cases told
  exact ⟨_, rfl, rfl⟩

theorem undisturbed_noFiles (vm : String) :
    Records.Undisturbed ⟨Config.default.stateDir⟩ (.migration vm) noFiles := by
  intro number mode uid gid device
  unfold FileSystem.find? at device
  split at device <;> cases device

theorem forgotten_saved : forgotten.Saved := by
  unfold Service.Saved
  decide +kernel

theorem forgotten_newest : forgotten.host.pool.Newest "web" (some 0) := by
  have named : forgotten.host.pool.jobs.map (·.id) = [.migration "web"] := by decide +kernel
  obtain ⟨j, only, same⟩ := List.map_eq_singleton_iff.mp named
  refine ⟨⟨j, by rw [only]; rfl, same⟩, fun number k there _ => ?_⟩
  obtain ⟨bound, -⟩ := List.getElem?_eq_some_iff.mp there
  rw [only, List.length_singleton] at bound
  omega

/-- The only poll is told that the migration is completed. -/
theorem saved_polls : ∃ stat, saved.polls = [⟨"web", .done (.ok stat)⟩] ∧
    stat.status = .completed := by
  have first : saved.polls.map (fun p => (p.vm, status? p.program)) =
      [("web", some .completed)] := by
    decide +kernel
  obtain ⟨⟨vm, program⟩, only, same⟩ := List.map_eq_singleton_iff.mp first
  obtain ⟨rfl, status⟩ := Prod.mk.inj same
  obtain ⟨stat, rfl, completed⟩ := status?_eq_some status
  exact ⟨stat, only, completed⟩

/-- There is no other migration than the first task, and no record was there. -/
theorem saved_source {stat : MigrationStat} {source : Option Nat}
    (reports : saved.Reports noFiles "web" stat source) : source = some 0 := by
  have alone : saved.host.pool.jobs.length = 1 := by decide +kernel
  cases source with
  | none =>
    obtain ⟨text, there, -⟩ := reports
    have none : noFiles.find? (saved.records.path (.migration "web")) = none := by decide +kernel
    rw [none] at there
    cases there
  | some number =>
    obtain ⟨j, here, -⟩ := reports
    obtain ⟨bound, -⟩ := List.getElem?_eq_some_iff.mp here
    exact congrArg some (by omega)

/-- The migration is forgotten, and its report is still told. -/
theorem forgotten_told : ∃ stat, stat.status = .completed ∧
    saved.polls[0]? = some ⟨"web", .done (.ok stat)⟩ ∧
    forgotten.host.pool.table.get? (.migration "web") = none ∧
    ∃ program, forgotten.polls[1]? = some ⟨"web", program⟩ ∧
      (program.run forgotten.files).1 = .ok stat := by
  obtain ⟨stat, only, completed⟩ := saved_polls
  have usable : checkVmName "web" = .ok () := by decide +kernel
  have told : saved.polls[0]? = some ⟨"web", .done (.ok stat)⟩ := by rw [only]; rfl
  have final : stat.status.isTerminal = true := by rw [completed]; rfl
  obtain ⟨⟨source, reports⟩, later⟩ := saved_leads.told_for_good usable (undisturbed_noFiles "web")
    forgotten_leads forgotten_saved told final
  obtain rfl := saved_source reports
  have gone : forgotten.host.pool.table.get? (.migration "web") = none := by decide +kernel
  have about : (forgotten.polls[1]?).map (·.vm) = some "web" := by decide +kernel
  obtain ⟨⟨vm, program⟩, asked, rfl⟩ := Option.map_eq_some_iff.mp about
  have after : saved.polls.length ≤ 1 := by rw [only, List.length_singleton]
  exact ⟨stat, completed, told, gone, program, asked,
    later (some 0) reports forgotten_newest 1 program after asked⟩

end Sample

end VmControl
