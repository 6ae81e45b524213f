import VmControl.Proofs.Store.Confinement
import VmControl.Proofs.Store.Keeping

/-!
# Saves that fail halfway

Each request of a save takes full effect or fails, for a reason of its own, and a write that fails
may leave anything in its file (`FileRequest.Comes`, `FileProgram.Ends`). Then a save has come to
one of four ends (`Records.Tried`), and nothing but the record, its temporary file and the directory
itself is touched by any of them.

What a save that succeeds has kept is read back as it was. After one that fails, a reader is told
what it was told before, with one exception: where there was no directory, a reader is told that
there is no record, whatever the record is called. As soon as the directory has been made, a name
that is longer than any file may have is an error instead (`Records.Exposed`,
`Records.atomic_save`).
-/

namespace VmControl

/-! ## Requests that may fail -/

/-- What may come of a request. It takes full effect, or it fails; a write that fails may leave any
text in its own file. -/
inductive FileRequest.Comes (fs : FileSystem) :
    FileRequest → Except OsError String → FileSystem → Prop
  | done {request : FileRequest} {answer : String} {fs' : FileSystem}
      (performed : request.perform fs = (.ok answer, fs'))
      (full : ∀ path text, request = .write path text → fs'.find? path = some (.file text)) :
      Comes fs request (.ok answer) fs'
  | failed (request : FileRequest) (e : OsError) : Comes fs request (.error e) fs
  | torn {path : Path} {left : String} {fs' : FileSystem} (text : String) (e : OsError)
      (written : fs.write path left = .ok fs') : Comes fs (.write path text) (.error e) fs'

namespace FileProgram

variable {α : Type}

/-- A program ends with an outcome, each of its requests having come to something. -/
inductive Ends : FileProgram α → FileSystem → α → FileSystem → Prop
  | done (a : α) (fs : FileSystem) : Ends (.done a) fs a fs
  | ask {request : FileRequest} {next : Except OsError String → FileProgram α}
      {fs fs' fs'' : FileSystem}
      {answer : Except OsError String} {a : α} (comes : request.Comes fs answer fs')
      (ends : (next answer).Ends fs' a fs'') : Ends (.ask request next) fs a fs''

/-- A program that gives up when a request fails. -/
theorem Ends.attempt {ε : Type} {request : FileRequest} {failure : OsError → ε}
    {next : String → FileProgram (Except ε α)} {fs fs' : FileSystem} {outcome : Except ε α}
    (ends : (attempt request failure next).Ends fs outcome fs') :
    (∃ answer middle, request.Comes fs (.ok answer) middle ∧
      (next answer).Ends middle outcome fs') ∨
      ∃ e, request.Comes fs (.error e) fs' ∧ outcome = .error (failure e) := by
  cases ends with
  | @ask _ _ _ middle _ answer _ comes ends =>
    cases answer with
    | ok answer => exact Or.inl ⟨answer, middle, comes, ends⟩
    | error e =>
      cases ends
      exact Or.inr ⟨e, comes, rfl⟩

/-- A program whose requests are performed ends as it runs, if every text that it writes is there
afterwards. -/
theorem ends_run {P : FileProgram α → FileSystem → Prop}
    (keeps : ∀ program fs next fs', P program fs → program.advance? fs = some (next, fs') →
      P next fs')
    (full : ∀ request next fs answer fs',
      P (.ask request next) fs → request.perform fs = (.ok answer, fs') →
      ∀ path text, request = .write path text → fs'.find? path = some (.file text))
    {program : FileProgram α} {fs : FileSystem} (holds : P program fs) :
    program.Ends fs (program.run fs).1 (program.run fs).2 := by
  induction program generalizing fs with
  | done a => exact .done a fs
  | ask request next ih =>
    have onward := keeps _ _ _ _ holds rfl
    refine .ask ?_ (ih _ onward)
    cases performed : request.perform fs with
    | mk answer fs' =>
      cases answer with
      | ok answer => exact .done performed (full _ _ _ _ _ holds performed)
      | error e =>
        rw [FileRequest.perform_error performed]
        exact .failed request e

end FileProgram

namespace Records

variable {r : Records} {key : RecordKey} {value : Json} {text : String} {kept : SavedStat}
  {fs fs' : FileSystem} {outcome : Except ControlError Unit}

/-- A save ends as it runs, unless a device stands where its temporary file is written. -/
theorem ends_run_save (free : r.Undisturbed key fs) :
    (r.save key value).Ends fs ((r.save key value).run fs).1 ((r.save key value).run fs).2 := by
  refine FileProgram.ends_run
    (P := fun program now => r.Saving key value.layout now program ∧ r.Undisturbed key now)
    (fun program now next after holds advanced => ?_)
    (fun request next now answer after holds performed => ?_)
    ⟨r.saving_save key value fs, free⟩
  · have advance := holds.1.advance holds.2 advanced
    exact ⟨advance.1, advance.2.1⟩
  · rintro path text rfl
    have written := FileRequest.perform_write performed
    obtain ⟨saving, undisturbed⟩ := holds
    cases saving with
    | toWrite =>
      rcases find?_write written with found | ⟨-, number, mode, uid, gid, device⟩
      · rw [found, if_pos rfl]
      · exact absurd device (undisturbed number mode uid gid)

theorem ends_run_kept (free : r.Undisturbed kept.key fs) :
    (kept.save r).Ends fs ((kept.save r).run fs).1 ((kept.save r).run fs).2 := by
  rw [SavedStat.save_eq]
  exact ends_run_save free

/-! ## What a save has come to -/

/-- How the save of a text has ended. -/
inductive Tried (r : Records) (key : RecordKey) (text : String) (fs : FileSystem) :
    Except ControlError Unit → FileSystem → Prop
  | unmade (e : ControlError) : Tried r key text fs (.error e) fs
  /-- The directory is there, and the temporary file was left alone. -/
  | unwritten {fs' : FileSystem} (e : ControlError) (made : fs.makeDirs r.dirPath = .ok fs') :
      Tried r key text fs (.error e) fs'
  /-- Something stands in the temporary file and has not become the record. -/
  | unnamed {middle fs' : FileSystem} {left : String} (e : ControlError)
      (made : fs.makeDirs r.dirPath = .ok middle)
      (written : middle.write (r.temporary key) left = .ok fs') : Tried r key text fs (.error e) fs'
  | kept {middle later fs' : FileSystem} (made : fs.makeDirs r.dirPath = .ok middle)
      (written : middle.write (r.temporary key) text = .ok later)
      (full : later.find? (r.temporary key) = some (.file text))
      (renamed : later.rename (r.temporary key) (r.path key) = .ok fs') :
      Tried r key text fs (.ok ()) fs'

theorem tried_of_ends (usable : checkVmName key.vm = .ok ())
    (ends : (r.save key value).Ends fs outcome fs') : r.Tried key value.layout fs outcome fs' := by
  rw [save, usable] at ends
  rcases ends.attempt with ⟨_, middle, makes, ends⟩ | ⟨e, fails, rfl⟩
  · cases makes with
    | done performed =>
      have made := FileRequest.perform_makeDirs performed
      rcases ends.attempt with ⟨_, later, writes, ends⟩ | ⟨e, fails, rfl⟩
      · cases writes with
        | done performed full =>
          have written := FileRequest.perform_write performed
          rcases ends.attempt with ⟨_, _, renames, ends⟩ | ⟨e, fails, rfl⟩
          · cases renames with
            | done performed =>
              cases ends
              exact .kept made written (full _ _ rfl) (FileRequest.perform_rename performed)
          · cases fails
            exact .unnamed _ made written
      · cases fails with
        | failed => exact .unwritten _ made
        | torn _ _ written => exact .unnamed _ made written
  · cases fails
    exact .unmade _

/-- A write changes no node but the temporary file. -/
theorem find?_write_of_ne {left : String} {q : Path}
    (written : fs.write (r.temporary key) left = .ok fs') (other : q ≠ r.temporary key) :
    fs'.find? q = fs.find? q := by
  rcases find?_write written with found | ⟨rfl, -⟩
  · rw [found, if_neg other]
  · rfl

/-- Nothing but the record and its temporary file is touched, apart from the directory, which may
have been made. -/
theorem Tried.changes (tried : r.Tried key text fs outcome fs') (q : Path) :
    fs'.find? q = fs.find? q ∨ q = r.path key ∨ q = r.temporary key ∨
      q <+: r.dirPath ∧ fs.find? q = none ∧ fs'.find? q = some .dir := by
  by_cases record : q = r.path key
  · exact Or.inr (Or.inl record)
  by_cases temporary : q = r.temporary key
  · exact Or.inr (Or.inr (Or.inl temporary))
  have made {middle : FileSystem} (made : fs.makeDirs r.dirPath = .ok middle)
      (same : fs'.find? q = middle.find? q) : fs'.find? q = fs.find? q ∨
        q <+: r.dirPath ∧ fs.find? q = none ∧ fs'.find? q = some .dir := by
    rw [same]
    exact FileSystem.makeDirs_cases made q
  have changes : fs'.find? q = fs.find? q ∨
      q <+: r.dirPath ∧ fs.find? q = none ∧ fs'.find? q = some .dir := by
    cases tried with
    | unmade => exact Or.inl rfl
    | unwritten _ makes => exact made makes rfl
    | unnamed _ makes writes => exact made makes (find?_write_of_ne writes temporary)
    | kept makes writes _ renames =>
      obtain ⟨-, node, -, found⟩ := find?_rename renames
      refine made makes ?_
      rw [found, if_neg record, if_neg temporary, find?_write_of_ne writes temporary]
  rcases changes with same | dir
  · exact Or.inl same
  · exact Or.inr (Or.inr (Or.inr dir))

/-- No other record and no other temporary file changes. -/
theorem Tried.others (tried : r.Tried key text fs outcome fs') {key' : RecordKey}
    (other : key'.fileName ≠ key.fileName) :
    fs'.find? (r.path key') = fs.find? (r.path key') ∧
      fs'.find? (r.temporary key') = fs.find? (r.temporary key') := by
  constructor
  · rcases tried.changes (r.path key') with same | record | temporary | ⟨before, -⟩
    · exact same
    · exact absurd (path_inj record) other
    · exact absurd temporary path_ne_temporary
    · exact absurd rfl (dir_ne_path before)
  · rcases tried.changes (r.temporary key') with same | record | temporary | ⟨before, -⟩
    · exact same
    · exact absurd record.symm path_ne_temporary
    · exact absurd (temporary_inj temporary) other
    · exact absurd rfl (dir_ne_temporary before)

theorem Tried.rooted (tried : r.Tried key text fs outcome fs') (rooted : fs.Rooted) :
    fs'.Rooted := by
  cases tried with
  | unmade => exact rooted
  | unwritten _ made => exact rooted.makeDirs made
  | unnamed _ made written => exact (rooted.makeDirs made).write written
  | @kept _ later _ made written full renamed =>
    have file : later.find? (r.temporary key) ≠ some .dir := by
      rw [full]
      nofun
    exact ((rooted.makeDirs made).write written).rename file renamed

/-- A save that has succeeded has put its text in place. -/
theorem Tried.holds (tried : r.Tried key text fs (.ok ()) fs') : r.Holds key text fs' := by
  cases tried with
  | @kept _ later _ _ _ full renamed =>
    obtain ⟨leads, node, moved, found⟩ := find?_rename renamed
    obtain rfl : Node.file text = node := Option.some.inj (full.symm.trans moved)
    have advance : r.Advance key text later (r.toRename key) (.done (.ok ())) fs' :=
      .renamed renamed
    refine ⟨leads.mono advance.keepsDirs, ?_⟩
    rw [found, if_pos rfl]

/-- A reader of a record does not look at the temporary file. -/
theorem read_write {left : String} (written : fs.write (r.temporary key) left = .ok fs') :
    fs'.read (r.path key) = fs.read (r.path key) := by
  refine FileSystem.read_congr fun q before => find?_write_of_ne written ?_
  rcases List.prefix_concat_iff.mp before with rfl | before
  · exact path_ne_temporary
  · exact dir_ne_temporary before

/-- A save that has failed leaves a reader with what it read before. Only a name that is too long is
noticed later if the directory was missing. -/
theorem Tried.reads {e : ControlError} (tried : r.Tried key text fs (.error e) fs')
    (rooted : fs.Rooted) :
    fs'.read (r.path key) = fs.read (r.path key) ∨
      FileSystem.nameLimit < key.fileName.utf8ByteSize ∧ fs.find? r.dirPath = none ∧
        fs.read (r.path key) = .error .notFound ∧ fs'.read (r.path key) = .error .nameTooLong := by
  cases tried with
  | unmade => exact Or.inl rfl
  | unwritten _ made => exact FileSystem.read_makeDirs rooted made
  | unnamed _ made written =>
    rw [read_write written]
    exact FileSystem.read_makeDirs rooted made

/-! ## What a reader is told -/

/-- What is kept under a key, as a reader is told. -/
def loaded (r : Records) (fs : FileSystem) : RecordKey → Except ControlError (Option SavedStat)
  | .migration vm => ((r.loadMigration vm).run fs).1.map (·.map (.migration vm))
  | .copying vm disk => ((r.loadCopying vm disk).run fs).1.map (·.map (.copying vm))

/-- A name that is too long was not noticed before there was a directory, and is noticed now. -/
structure Exposed (r : Records) (key : RecordKey) (fs fs' : FileSystem) : Prop where
  long : FileSystem.nameLimit < key.fileName.utf8ByteSize
  missing : fs.find? r.dirPath = none
  before : r.loaded fs key = .ok none
  after : r.loaded fs' key = .error (r.failed key .nameTooLong)

theorem loaded_congr (same : fs'.read (r.path key) = fs.read (r.path key)) :
    r.loaded fs' key = r.loaded fs key := by
  have load {α : Type} (decoder : Decoder α) :
      ((r.load key decoder).run fs').1 = ((r.load key decoder).run fs).1 := by
    unfold load
    split
    · rfl
    · simp only [FileProgram.run_ask, FileRequest.perform, same]
      split <;> rfl
  cases key with
  | migration vm => rw [loaded, loaded, loadMigration, load]
  | copying vm disk => rw [loaded, loaded, loadCopying, load]

theorem loaded_missing (usable : checkVmName key.vm = .ok ())
    (missing : fs.read (r.path key) = .error .notFound) : r.loaded fs key = .ok none := by
  cases key with
  | migration vm =>
    rw [loaded, loadMigration, run_load_missing usable missing]
    rfl
  | copying vm disk =>
    rw [loaded, loadCopying, run_load_missing usable missing]
    rfl

theorem loaded_long (usable : checkVmName key.vm = .ok ())
    (long : fs.read (r.path key) = .error .nameTooLong) :
    r.loaded fs key = .error (r.failed key .nameTooLong) := by
  have load {α : Type} (decoder : Decoder α) :
      ((r.load key decoder).run fs).1 = .error (r.failed key .nameTooLong) := by
    rw [Records.load, usable]
    simp only [FileProgram.run_ask, FileRequest.perform, long]
    rfl
  cases key with
  | migration vm => rw [loaded, loadMigration, load]; rfl
  | copying vm disk => rw [loaded, loadCopying, load]; rfl

theorem Holds.loaded (holds : r.Holds kept.key kept.json.layout fs)
    (usable : checkVmName kept.key.vm = .ok ()) (dated : kept.Dated) :
    r.loaded fs kept.key = .ok (some kept) := by
  cases kept with
  | migration vm stat =>
    have told : (r.loadMigration vm).run fs = (.ok (some stat), fs) :=
      run_load usable holds (MigrationStat.survives dated).lines
    rw [SavedStat.key, Records.loaded, told]
    rfl
  | copying vm stat =>
    have told : (r.loadCopying vm stat.disk).run fs = (.ok (some stat), fs) :=
      run_load usable holds (CopyStat.survives dated).lines
    rw [SavedStat.key, Records.loaded, told]
    rfl

/-- What a save leaves behind, whether it has succeeded or not. -/
structure Atomic (r : Records) (kept : SavedStat) (fs : FileSystem)
    (outcome : Except ControlError Unit) (fs' : FileSystem) : Prop where
  success : outcome = .ok () → r.loaded fs' kept.key = .ok (some kept)
  failure : ∀ e, outcome = .error e →
    r.loaded fs' kept.key = r.loaded fs kept.key ∨ r.Exposed kept.key fs fs'
  /-- It asks for nothing but the record, its temporary file and the directory. -/
  asks : ∀ request, (kept.save r).Asks request → request = .makeDirs r.dirPath ∨
    ∀ file ∈ request.files,
      file = r.path kept.key ∨ file = r.dirPath ++ [kept.key.fileName ++ ".tmp"]
  /-- It touches nothing else. -/
  changes : ∀ q, fs'.find? q = fs.find? q ∨ q = r.path kept.key ∨
    q = r.dirPath ++ [kept.key.fileName ++ ".tmp"] ∨
      q <+: r.dirPath ∧ fs.find? q = none ∧ fs'.find? q = some .dir
  others : ∀ key, key.fileName ≠ kept.key.fileName →
    fs'.find? (r.path key) = fs.find? (r.path key) ∧
      fs'.find? (r.temporary key) = fs.find? (r.temporary key)
  rooted : fs'.Rooted

/-- A save of statistics is atomic, whichever of its requests fail. -/
theorem atomic_save (usable : checkVmName kept.key.vm = .ok ()) (dated : kept.Dated)
    (rooted : fs.Rooted) (ends : (kept.save r).Ends fs outcome fs') :
    r.Atomic kept fs outcome fs' := by
  rw [SavedStat.save_eq] at ends
  have tried := tried_of_ends usable ends
  have temporary : r.temporary kept.key = r.dirPath ++ [kept.key.fileName ++ ".tmp"] := by
    rw [Records.temporary, RecordKey.temporaryName_eq]
  refine ⟨?_, ?_, fun request asks => ?_, fun q => ?_, fun key other => tried.others other,
    tried.rooted rooted⟩
  · rintro rfl
    exact tried.holds.loaded usable dated
  · rintro e rfl
    rcases tried.reads rooted with same | ⟨long, missing, before, after⟩
    · exact Or.inl (loaded_congr same)
    · exact Or.inr ⟨long, missing, loaded_missing usable before, loaded_long usable after⟩
  · rw [SavedStat.save_eq] at asks
    rw [← temporary]
    rcases asks_save asks with rfl | rfl | rfl <;> simp [FileRequest.files]
  · rw [← temporary]
    exact tried.changes q

/-- A record whose name is too long cannot be written where its directory is there. -/
theorem run_save_long (usable : checkVmName key.vm = .ok ())
    (made : (FileRequest.makeDirs r.dirPath).perform fs = (.ok "", fs'))
    (long : FileSystem.nameLimit < key.temporaryName.utf8ByteSize) :
    (r.save key value).run fs = (.error (r.failed key .nameTooLong), fs') := by
  obtain ⟨dirs, short⟩ := FileSystem.dirs_of_makeDirs (FileRequest.perform_makeDirs made)
  have unwritten : (FileRequest.write (r.temporary key) value.layout).perform fs' =
      (.error .nameTooLong, fs') := by
    rw [FileRequest.perform, FileSystem.write, Records.temporary,
      FileSystem.walk_long dirs short long]
  rw [save, usable]
  simp only [FileProgram.attempt, FileProgram.run_ask, made, unwritten, FileProgram.run_done]
  rfl

end Records

namespace Sample

/-- The first report of the migration of a machine to a host. -/
def migrationTo (server vm : String) : SavedStat :=
  .migration vm (.start server ["/dev/vg/a"] ⟨100, 0⟩)

theorem migrationTo_dated (server vm : String) : (migrationTo server vm).Dated :=
  DatesShown.mk valid_of_began fun _ is => nomatch is

/-- The files of a host after a migration was kept. -/
def filesKept : FileSystem := (((migrationTo "host2" "alice").save hostRecords).run ⟨[], false⟩).2

/-- The same files when the next save begins to write. -/
def filesNext : FileSystem := ((FileRequest.makeDirs hostRecords.dirPath).perform filesKept).2

/-- The same files when a part of that was written. -/
def filesTorn : FileSystem :=
  ((FileRequest.write (hostRecords.temporary (.migration "alice")) "half").perform filesNext).2

theorem ends_filesKept :
    ((migrationTo "host2" "alice").save hostRecords).Ends ⟨[], false⟩ (.ok ()) filesKept := by
  have ran : (((migrationTo "host2" "alice").save hostRecords).run ⟨[], false⟩).1 = .ok () := by
    decide +kernel
  rw [← ran]
  exact Records.ends_run_kept (hostRecords_fresh.undisturbed (.migration "alice"))

theorem ends_filesTorn :
    ∃ e, ((migrationTo "host3" "alice").save hostRecords).Ends filesKept (.error e) filesTorn := by
  have made : ((FileRequest.makeDirs hostRecords.dirPath).perform filesKept).1 = .ok "" := by
    decide +kernel
  have written : ((FileRequest.write (hostRecords.temporary (.migration "alice")) "half").perform
      filesNext).1 = .ok "" := by
    decide +kernel
  have torn := FileRequest.perform_write (Prod.ext written rfl)
  exact ⟨_, .ask (.done (Prod.ext made rfl) nofun) (.ask (.torn _ .refused torn) (.done _ _))⟩

/-- A migration is kept, and the next one is torn while it is written. The first one is still
told. -/
theorem torn_save_harmless : checkVmName "alice" = .ok () ∧
    (∃ e, ((migrationTo "host3" "alice").save hostRecords).Ends filesKept (.error e) filesTorn) ∧
    filesTorn.find? (hostRecords.temporary (.migration "alice")) = some (.file "half") ∧
    hostRecords.loaded filesTorn (.migration "alice") =
      .ok (some (migrationTo "host2" "alice")) := by
  have usable : checkVmName "alice" = .ok () := by decide +kernel
  have first : hostRecords.Atomic (migrationTo "host2" "alice") ⟨[], false⟩ (.ok ()) filesKept :=
    Records.atomic_save usable (migrationTo_dated _ _) (FileSystem.Rooted.empty false)
      ends_filesKept
  obtain ⟨e, ends⟩ := ends_filesTorn
  have second : hostRecords.Atomic (migrationTo "host3" "alice") filesKept (.error e) filesTorn :=
    Records.atomic_save usable (migrationTo_dated _ _) first.rooted ends
  refine ⟨usable, ⟨e, ends⟩, by decide +kernel, ?_⟩
  rcases second.failure e rfl with same | exposed
  · exact same.trans (first.success rfl)
  · exact absurd exposed.long (by decide +kernel)

/-- A name of some letters. -/
def lettered (n : Nat) : String := String.ofList (List.replicate n 'v')

theorem lettered_plain {n : Nat} (long : 2 < n) : IsPlainName (lettered n) := by
  refine isPlainName_of_long ?_ fun c inside => ?_
  · rwa [lettered, String.length_ofList, List.length_replicate]
  · rw [lettered, String.toList_ofList] at inside
    rw [List.eq_of_mem_replicate inside]
    decide

/-- A machine whose name is usable, but too long for the name of a file. -/
def longName : String := lettered 260

theorem longName_usable : checkVmName longName = .ok () :=
  checkVmName_eq_ok_iff.mpr (lettered_plain (by decide))

/-- The files of a host on which a record could not be written. -/
def filesMade : FileSystem := ((FileRequest.makeDirs hostRecords.dirPath).perform ⟨[], false⟩).2

theorem makeDirs_filesMade :
    (FileRequest.makeDirs hostRecords.dirPath).perform ⟨[], false⟩ = (.ok "", filesMade) := by
  have made : ((FileRequest.makeDirs hostRecords.dirPath).perform ⟨[], false⟩).1 = .ok "" := by
    decide +kernel
  exact Prod.ext made rfl

theorem longName_run : ((migrationTo "host2" longName).save hostRecords).run ⟨[], false⟩ =
    (.error (hostRecords.failed (.migration longName) .nameTooLong), filesMade) := by
  have long : FileSystem.nameLimit < (RecordKey.migration longName).temporaryName.utf8ByteSize := by
    rw [RecordKey.temporaryName_eq]
    decide +kernel
  rw [SavedStat.save_eq]
  exact Records.run_save_long longName_usable makeDirs_filesMade long

/-- What is told of a machine after a save has failed may be another thing than before. -/
theorem long_name_exposed : ¬ ∀ (r : Records) (kept : SavedStat) (fs fs' : FileSystem)
    (outcome : Except ControlError Unit), checkVmName kept.key.vm = .ok () → kept.Dated →
      fs.Rooted →
    (kept.save r).Ends fs outcome fs' → ∀ e, outcome = .error e →
      r.loaded fs' kept.key = r.loaded fs kept.key := by
  intro claimed
  obtain ⟨dirs, short⟩ := FileSystem.dirs_of_makeDirs
    (FileRequest.perform_makeDirs makeDirs_filesMade)
  have ends : ((migrationTo "host2" longName).save hostRecords).Ends ⟨[], false⟩ _ _ :=
    Records.ends_run_kept (hostRecords_fresh.undisturbed (.migration longName))
  rw [longName_run] at ends
  have same := claimed hostRecords (migrationTo "host2" longName) ⟨[], false⟩ filesMade _
    longName_usable
    (migrationTo_dated _ _) (FileSystem.Rooted.empty false) ends _ rfl
  have before : hostRecords.loaded ⟨[], false⟩ (.migration longName) = .ok none :=
    Records.loaded_missing longName_usable
      (FileSystem.read_unled (hostRecords_fresh.passable) short (by decide +kernel))
  have after : hostRecords.loaded filesMade (.migration longName) =
      .error (hostRecords.failed (.migration longName) .nameTooLong) :=
    Records.loaded_long longName_usable (FileSystem.read_long dirs short (by decide +kernel))
  have told := after.symm.trans (same.trans before)
  cases told

end Sample

end VmControl
