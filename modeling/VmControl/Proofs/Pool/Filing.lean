import VmControl.Proofs.Pool.Service

/-!
# What stands in the record of a machine

The record of the migration of a machine is replaced by the saves of its migrations only, and of
these only the newest one can still be at it (`Service.Sound.newest_of_unsaved`). So the record
holds what was there in the beginning or what some migration has handed over
(`Service.Filed.record`), and once the save of the newest migration is over, it holds the statistics
of that one (`Service.Filed.settled`).
-/

namespace VmControl

namespace Work

variable {w : Work} {vm : String}

theorem key_of_id (named : w.id = .migration vm) : w.key = .migration vm := by
  obtain ⟨r, rfl, rfl⟩ := eq_migration_of_id named
  rfl

end Work

namespace Service

variable {v w : Service} {config : Config} {files fs : FileSystem} {vm : String}
  {number : Nat} {j : Job} {program next : FileProgram (Except ControlError Unit)} {move : Move}
  {m : Host.Move} {h : Host} {errands : List Host.Errand}

/-! ## Steps -/

theorem Step.records_eq (step : v.Step move w) : w.records = v.records := by
  cases step with
  | host waits moved => exact records_host (Host.step?_cases moved) _
  | save | ask | read | outside => rfl

theorem Sound.grows (sound : v.Sound config) (step : v.Step move w) :
    v.host.pool.Grows w.host.pool := by
  cases step with
  | host waits moved =>
    obtain ⟨_, run, -⟩ := sound.run
    exact (Host.Step.change run.sound (Host.step?_cases moved)).grows
  | save | ask | read | outside => exact .refl _

/-- Whatever leads to the records goes on to do so. -/
theorem Sound.keepsDirs (sound : v.Sound config) (fair : v.Fair move) (step : v.Step move w) :
    v.records.KeepsDirs v.files w.files := by
  intro q before there
  cases step with
  | host | ask => exact there
  | save here advanced =>
    obtain ⟨j, -, -, stage⟩ := sound.begun _ _ here
    exact (stage.advance advanced).keepsDirs q before there
  | read here advanced =>
    obtain ⟨rfl, -⟩ := sound.read here advanced
    exact there
  | outside files => exact (fair q (Or.inl before)).trans there

theorem Sound.own (sound : v.Sound config) (here : v.host.pool.jobs[number]? = some j) :
    j.id = j.work.id := by
  obtain ⟨_, run, -⟩ := sound.run
  exact (run.sound.pool.jobs number j here).own

/-- The save of a task that is not registered is over. -/
theorem Sound.settled_of_unregistered (sound : v.Sound config)
    (here : v.host.pool.jobs[number]? = some j) (gone : v.host.pool.table.get? j.id ≠ some number) :
    ∃ x, v.save? number = some (.done x) := by
  obtain ⟨_, run, -⟩ := sound.run
  obtain ⟨outcome, ended⟩ := run.ended_of_unregistered here gone
  exact sound.settled number j outcome here ended

/-- Only the newest migration of a machine can have a save that is not over. -/
theorem Sound.newest_of_unsaved (sound : v.Sound config)
    (here : v.host.pool.jobs[number]? = some j) (named : j.id = .migration vm)
    (unsaved : ∀ x, v.save? number ≠ some (.done x)) : v.host.pool.Newest vm (some number) := by
  obtain ⟨_, run, -⟩ := sound.run
  have registered : v.host.pool.table.get? j.id = some number := by
    by_contra gone
    obtain ⟨x, settled⟩ := sound.settled_of_unregistered here gone
    exact unsaved x settled
  exact run.newest_of_registered (named ▸ registered)

/-! ## The record -/

/-- The record of a machine is as it was in the beginning, or as a migration has handed it over. The
save of the newest migration has come as far as the file system shows. -/
structure Filed (files : FileSystem) (vm : String) (v : Service) : Prop where
  free : v.records.Undisturbed (.migration vm) v.files
  saving : ∀ (number : Nat) (j : Job) program, v.host.pool.Newest vm (some number) →
    v.host.pool.jobs[number]? = some j → v.save? number = some program →
    v.records.Saving (.migration vm) j.work.text v.files program
  record :
    v.files.find? (v.records.path (.migration vm)) = files.find? (v.records.path (.migration vm)) ∨
    ∃ (number : Nat) (j : Job), v.host.pool.jobs[number]? = some j ∧ j.id = .migration vm ∧
      j.work.isHanded = true ∧
      v.files.find? (v.records.path (.migration vm)) = some (.file j.work.text)

theorem Filed.new (free : Records.Undisturbed ⟨config.stateDir⟩ (.migration vm) files) :
    Filed files vm (.new config files) where
  free := free
  saving _ _ _ _ none := nomatch none
  record := Or.inl rfl

theorem Filed.host (filed : v.Filed files vm) (sound : v.Sound config)
    (moved : v.host.step? m = some (h, errands)) :
    Filed files vm { v with host := h, saves := begunSaves v.records errands ++ v.saves } := by
  obtain ⟨past, run, -⟩ := sound.run
  have step := Host.step?_cases moved
  have grows := (Host.Step.change run.sound step).grows
  refine ⟨?_, fun number k program newest there saved => ?_, ?_⟩ <;> rw [records_host step]
  · exact filed.free
  · rcases sound.save?_host step there with before | ⟨-, -, -, begun⟩
    · have was : v.save? number = some program := before.symm.trans saved
      obtain ⟨j, here, handed, -⟩ := sound.begun number program was
      obtain ⟨k', there', -, does⟩ := step.does here
      obtain rfl : k = k' := Option.some.inj (there.symm.trans there')
      obtain ⟨-, -, text⟩ := handed_of_does run here handed does
      have newest' : v.host.pool.Newest vm (some number) := by
        refine newest.of_grows grows fun _ same => ?_
        cases same
        exact ⟨j, here⟩
      rw [text]
      exact filed.saving number j program newest' here was
    · obtain ⟨⟨k', there', named⟩, -⟩ := newest
      obtain rfl : k = k' := Option.some.inj (there.symm.trans there')
      have own := ((run.step moved).sound.pool.jobs number k there).own
      have key : k.work.key = .migration vm := Work.key_of_id (own.symm.trans named)
      obtain rfl : v.records.save k.work.key k.work.json = program :=
        Option.some.inj (begun.symm.trans saved)
      rw [key]
      exact Records.saving_save v.records (.migration vm) k.work.json v.files
  · rcases filed.record with same | ⟨number, j, here, named, handed, stands⟩
    · exact Or.inl same
    · obtain ⟨k, there, same, does⟩ := step.does here
      obtain ⟨still, -, text⟩ := handed_of_does run here handed does
      exact Or.inr ⟨number, k, there, same.trans named, still, by rw [text]; exact stands⟩

/-- What leaves the record alone, and the saves of migrations of the machine, leaves all of it as it
was. -/
theorem Filed.spares (filed : v.Filed files vm)
    (spares : v.records.Spares (.migration vm) v.files fs)
    {saves : List (Nat × FileProgram (Except ControlError Unit))}
    (apart : ∀ (number : Nat) (j : Job), v.host.pool.jobs[number]? = some j → j.id = .migration vm →
      saves.lookup number = v.save? number) :
    Filed files vm { v with files := fs, saves := saves } where
  free := filed.free.spares spares
  saving number j program newest here saved := by
    obtain ⟨k, there, named⟩ := newest.1
    have was : v.save? number = some program := (apart number k there named).symm.trans saved
    exact (filed.saving number j program newest here was).spares spares
  record := by
    rcases filed.record with same | ⟨number, j, here, named, handed, stands⟩
    · exact Or.inl (spares.record.trans same)
    · exact Or.inr ⟨number, j, here, named, handed, spares.record.trans stands⟩

theorem Filed.save (filed : v.Filed files vm) (sound : v.Sound config)
    (here : v.save? number = some program)
    (advanced : program.advance? v.files = some (next, fs)) :
    Filed files vm { v with files := fs, saves := (number, next) :: v.saves } := by
  obtain ⟨j, there, handed, stage⟩ := sound.begun number program here
  have own := sound.own there
  by_cases apart : (RecordKey.migration vm).fileName = j.work.key.fileName
  · -- it is the save of the newest migration of the machine
    obtain ⟨key, named⟩ := Work.key_of_fileName apart.symm
    have unsaved : ∀ x, v.save? number ≠ some (.done x) := by
      intro x settled
      rw [here] at settled
      cases settled
      cases advanced
    have newest := sound.newest_of_unsaved there (own.trans named) unsaved
    have saving := filed.saving number j program newest there here
    obtain ⟨further, free, record⟩ := saving.advance filed.free advanced
    refine ⟨free, fun other k program' newest' there' saved => ?_, ?_⟩
    · obtain rfl : other = number := Option.some.inj (newest'.unique newest)
      obtain rfl : j = k := Option.some.inj (there.symm.trans there')
      rw [save?, save?_cons, if_pos rfl] at saved
      cases saved
      exact further
    · rcases record with same | written
      · rcases filed.record with before | ⟨other, k, found, named', handed', stands⟩
        · exact Or.inl (same.trans before)
        · exact Or.inr ⟨other, k, found, named', handed', same.trans stands⟩
      · exact Or.inr ⟨number, j, there, own.trans named, handed, written⟩
  · refine filed.spares ((stage.advance advanced).spares apart) fun other k found named => ?_
    rw [save?_cons, if_neg]
    rintro rfl
    obtain rfl : j = k := Option.some.inj (there.symm.trans found)
    exact apart (congrArg RecordKey.fileName (Work.key_of_id (own.symm.trans named))).symm

/-- Nobody else touches the record. -/
theorem spares_outside (outside : v.Fair (.outside fs)) (vm : String) :
    v.records.Spares (.migration vm) v.files fs where
  record := outside _ (Or.inr (List.prefix_append ..))
  temporary := outside _ (Or.inr (List.prefix_append ..))
  dirs q before here := (outside q (Or.inl before)).trans here

theorem Filed.step (filed : v.Filed files vm) (sound : v.Sound config) (fair : v.Fair move)
    (step : v.Step move w) : w.Filed files vm := by
  cases step with
  | host waits moved => exact filed.host sound moved
  | save here advanced => exact filed.save sound here advanced
  | ask => exact ⟨filed.free, filed.saving, filed.record⟩
  | read here advanced =>
    obtain ⟨rfl, -⟩ := sound.read here advanced
    exact ⟨filed.free, filed.saving, filed.record⟩
  | outside fs =>
    have filed := filed.spares (spares_outside fair vm) fun _ _ _ _ => rfl
    exact ⟨filed.free, filed.saving, filed.record⟩

theorem Leads.filed {u : Service} (leads : u.Leads v) (sound : u.Sound config)
    (filed : u.Filed files vm) : v.Filed files vm :=
  leads.preserves filed fun before fair step filed => filed.step (before.sound sound) fair step

/-- Once the newest migration of a machine is saved, its statistics stand in the record. -/
theorem Filed.settled (filed : v.Filed files vm) (newest : v.host.pool.Newest vm (some number))
    (here : v.host.pool.jobs[number]? = some j) (saved : v.save? number = some (.done (.ok ()))) :
    v.records.Holds (.migration vm) j.work.text v.files :=
  (filed.saving number j _ newest here saved).holds

end Service

end VmControl
