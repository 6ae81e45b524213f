import VmControl.Proofs.Store.Files
import VmControl.Store.Records

/-!
# Saving and loading, request by request

A save makes the directory, writes the temporary file and gives it the name of the record. It may be
interrupted by anything between any two of its requests: `Records.Stage` says what is still to be
done.

* `FileProgram.advance?` is one request of a program.
* `Records.Spares`: a change of the file system that leaves a record and its temporary file alone.
  Every request of a save spares the records of other keys (`Records.Advance.spares`).
* `Records.Saving`: where the save of a record is, and what has come of it in the file system. A
  save that is over has put its text where a reader finds it (`Records.Holds`).
* `Records.reportMigration`: what is reported of a migration that is known by its record only.
-/

namespace VmControl

namespace FileProgram

variable {α : Type}

/-- The next request of a program is answered. -/
def advance? (fs : FileSystem) : FileProgram α → Option (FileProgram α × FileSystem)
  | .done _ => none
  | .ask request next => some (next (request.perform fs).1, (request.perform fs).2)

/-- A program that is carried on comes to the same. -/
theorem run_advance? {fs fs' : FileSystem} {program next : FileProgram α}
    (advanced : program.advance? fs = some (next, fs')) : next.run fs' = program.run fs := by
  cases program with
  | done a => cases advanced
  | ask request following =>
    cases advanced
    rfl

/-- The next request of a program that gives up when a request is refused. -/
theorem advance?_attempt {ε : Type} {fs fs' : FileSystem} {request : FileRequest}
    {failure : OsError → ε} {following : String → FileProgram (Except ε α)}
    {next : FileProgram (Except ε α)}
    (advanced : (attempt request failure following).advance? fs = some (next, fs')) :
    (∃ text, request.perform fs = (.ok text, fs') ∧ next = following text) ∨
      ∃ e, request.perform fs = (.error e, fs') ∧ next = .done (.error (failure e)) := by
  cases performed : request.perform fs with
  | mk answer after =>
    rw [attempt, advance?, performed] at advanced
    cases answer with
    | ok text =>
      cases advanced
      exact Or.inl ⟨text, rfl, rfl⟩
    | error e =>
      cases advanced
      exact Or.inr ⟨e, rfl, rfl⟩

end FileProgram

namespace FileRequest

variable {fs fs' : FileSystem} {request : FileRequest} {path source target : Path}
  {text answer : String}

/-- A refused request changes nothing. -/
theorem perform_error {e : OsError} (refused : request.perform fs = (.error e, fs')) :
    fs' = fs := by
  cases request with
  | makeDirs | write | rename =>
    simp only [perform] at refused
    split at refused <;> cases refused
    rfl
  | read => exact (Prod.mk.inj refused).2.symm

theorem perform_makeDirs (done : (makeDirs path).perform fs = (.ok answer, fs')) :
    fs.makeDirs path = .ok fs' := by
  simp only [perform] at done
  split at done
  · next made =>
    cases done
    exact made
  · cases done

theorem perform_write (done : (write path text).perform fs = (.ok answer, fs')) :
    fs.write path text = .ok fs' := by
  simp only [perform] at done
  split at done
  · next written =>
    cases done
    exact written
  · cases done

theorem perform_rename (done : (rename source target).perform fs = (.ok answer, fs')) :
    fs.rename source target = .ok fs' := by
  simp only [perform] at done
  split at done
  · next renamed =>
    cases done
    exact renamed
  · cases done

end FileRequest

namespace RecordKey

theorem append_inj {a b ending : String} (same : a ++ ending = b ++ ending) : a = b := by
  have lists := congrArg String.toList same
  rw [String.toList_append, String.toList_append] at lists
  exact String.toList_inj.mp (List.append_cancel_right lists)

theorem migration_fileName_inj {vm vm' : String}
    (same : (migration vm).fileName = (migration vm').fileName) : vm = vm' := append_inj same

/-- No record of a copy has the name of one of a migration. -/
theorem migration_fileName_ne_copying (vm vm' disk : String) :
    (migration vm).fileName ≠ (copying vm' disk).fileName := by
  intro same
  have ends := congrArg (fun s => (s.toList.reverse.drop 5).head?) same
  simp [fileName] at ends

/-- A record is no temporary file of any record. -/
theorem fileName_ne_temporaryName (key key' : RecordKey) : key.fileName ≠ key'.temporaryName := by
  intro same
  have ends := congrArg (fun s => s.toList.reverse.head?) same
  cases key <;> simp [fileName, temporaryName_eq] at ends

theorem temporaryName_inj {key key' : RecordKey} (same : key.temporaryName = key'.temporaryName) :
    key.fileName = key'.fileName := by
  rw [temporaryName_eq, temporaryName_eq] at same
  exact append_inj same

end RecordKey

namespace Records

variable {r : Records} {key key' : RecordKey} {text : String} {fs fs' : FileSystem}
  {program next : FileProgram (Except ControlError Unit)}

/-! ## Where records are -/

theorem path_inj (same : r.path key = r.path key') : key.fileName = key'.fileName :=
  (List.cons.inj (List.append_cancel_left same)).1

theorem temporary_inj (same : r.temporary key = r.temporary key') : key.fileName = key'.fileName :=
  RecordKey.temporaryName_inj (List.cons.inj (List.append_cancel_left same)).1

theorem path_ne_temporary : r.path key ≠ r.temporary key' := fun same =>
  RecordKey.fileName_ne_temporaryName key key' (List.cons.inj (List.append_cancel_left same)).1

/-- What leads to the directory of the records is no file in it. -/
theorem dir_ne_file {q : Path} (before : q <+: r.dirPath) (name : String) :
    q ≠ r.dirPath ++ [name] := by
  rintro rfl
  have length := before.length_le
  rw [List.length_append, List.length_singleton] at length
  omega

theorem dir_ne_path {q : Path} (before : q <+: r.dirPath) : q ≠ r.path key := dir_ne_file before _

theorem dir_ne_temporary {q : Path} (before : q <+: r.dirPath) : q ≠ r.temporary key :=
  dir_ne_file before _

/-- Writing a temporary file changes no other node, and a device stays what it is. -/
theorem find?_write (written : fs.write (r.temporary key) text = .ok fs') :
    (∀ q, fs'.find? q = if q = r.temporary key then some (.file text) else fs.find? q) ∨
      fs' = fs ∧ ∃ number mode uid gid,
        fs.find? (r.temporary key) = some (.block number mode uid gid) := by
  rcases (FileSystem.write_cases written).2 with rfl | device
  · have below : r.temporary key ≠ [] := List.append_ne_nil_of_right_ne_nil _ nofun
    exact Or.inl fun q => FileSystem.find?_put fs (r.temporary key) q (.file text) below
  · exact Or.inr device

/-- The temporary file takes the place of the record, and no other node changes. -/
theorem find?_rename (renamed : fs.rename (r.temporary key) (r.path key) = .ok fs') :
    fs.LeadsTo r.dirPath key.fileName ∧ ∃ node, fs.find? (r.temporary key) = some node ∧
      ∀ q, fs'.find? q = if q = r.path key then some node
        else if q = r.temporary key then none else fs.find? q := by
  obtain ⟨leads, node, here, rfl⟩ := FileSystem.rename_cases renamed
  have record : r.path key ≠ [] := List.append_ne_nil_of_right_ne_nil _ nofun
  have temporary : r.temporary key ≠ [] := List.append_ne_nil_of_right_ne_nil _ nofun
  refine ⟨leads, node, here, fun q => ?_⟩
  have put := FileSystem.find?_put (fs.remove (r.temporary key)) (r.path key) q node record
  rw [FileSystem.find?_remove fs (r.temporary key) q temporary] at put
  exact put

/-- A directory that leads to the records is still one. -/
def KeepsDirs (r : Records) (fs fs' : FileSystem) : Prop :=
  ∀ q, q <+: r.dirPath → fs.find? q = some .dir → fs'.find? q = some .dir

/-- A change that leaves a record and its temporary file alone, and all directories that lead
there. -/
structure Spares (r : Records) (key : RecordKey) (fs fs' : FileSystem) : Prop where
  record : fs'.find? (r.path key) = fs.find? (r.path key)
  temporary : fs'.find? (r.temporary key) = fs.find? (r.temporary key)
  dirs : r.KeepsDirs fs fs'

theorem Spares.refl (r : Records) (key : RecordKey) (fs : FileSystem) : r.Spares key fs fs :=
  ⟨rfl, rfl, fun _ _ here => here⟩

/-- Making the directory of the records makes no file. -/
theorem Spares.makeDirs (made : fs.makeDirs r.dirPath = .ok fs') : r.Spares key fs fs' := by
  have file (name : String) : fs'.find? (r.dirPath ++ [name]) = fs.find? (r.dirPath ++ [name]) := by
    rcases FileSystem.makeDirs_cases made (r.dirPath ++ [name]) with same | ⟨before, -, -⟩
    · exact same
    · exact absurd rfl (dir_ne_file before name)
  refine ⟨file _, file _, fun q _ here => ?_⟩
  rcases FileSystem.makeDirs_cases made q with same | ⟨-, none, -⟩
  · rw [same, here]
  · rw [here] at none
    cases none

/-! ## Saving -/

/-- The failure of a save. -/
def failed (r : Records) (key : RecordKey) (e : OsError) : ControlError := r.failure key e.message

/-- A save whose text was written to the temporary file. -/
def toRename (r : Records) (key : RecordKey) : FileProgram (Except ControlError Unit) :=
  .attempt (.rename (r.temporary key) (r.path key)) (r.failed key) fun _ => .done (.ok ())

/-- A save whose directory is there. -/
def toWrite (r : Records) (key : RecordKey) (text : String) :
    FileProgram (Except ControlError Unit) :=
  .attempt (.write (r.temporary key) text) (r.failed key) fun _ => r.toRename key

/-- A save of which nothing was done. -/
def toMake (r : Records) (key : RecordKey) (text : String) :
    FileProgram (Except ControlError Unit) :=
  .attempt (.makeDirs r.dirPath) (r.failed key) fun _ => r.toWrite key text

/-- What is still to be done of a save. -/
inductive Stage (r : Records) (key : RecordKey) (text : String) :
    FileProgram (Except ControlError Unit) → Prop
  | toMake : Stage r key text (r.toMake key text)
  | toWrite : Stage r key text (r.toWrite key text)
  | toRename : Stage r key text (r.toRename key)
  | ended (outcome : Except ControlError Unit) : Stage r key text (.done outcome)

theorem stage_save (r : Records) (key : RecordKey) (value : Json) :
    r.Stage key value.layout (r.save key value) := by
  unfold save
  split
  · exact .ended _
  · exact .toMake

/-- What one request of a save does. -/
inductive Advance (r : Records) (key : RecordKey) (text : String) (fs : FileSystem) :
    FileProgram (Except ControlError Unit) → FileProgram (Except ControlError Unit) →
      FileSystem → Prop
  | refused {program : FileProgram (Except ControlError Unit)} (e : ControlError) :
      Advance r key text fs program (.done (.error e)) fs
  | made {fs' : FileSystem} (made : fs.makeDirs r.dirPath = .ok fs') :
      Advance r key text fs (r.toMake key text) (r.toWrite key text) fs'
  | written {fs' : FileSystem} (written : fs.write (r.temporary key) text = .ok fs') :
      Advance r key text fs (r.toWrite key text) (r.toRename key) fs'
  | renamed {fs' : FileSystem} (renamed : fs.rename (r.temporary key) (r.path key) = .ok fs') :
      Advance r key text fs (r.toRename key) (.done (.ok ())) fs'

theorem Stage.advance (stage : r.Stage key text program)
    (advanced : program.advance? fs = some (next, fs')) :
    r.Advance key text fs program next fs' := by
  have refused {program : FileProgram (Except ControlError Unit)} {request : FileRequest}
      {e : OsError}
      (refused : request.perform fs = (.error e, fs')) :
      r.Advance key text fs program (.done (.error (r.failed key e))) fs' := by
    rw [FileRequest.perform_error refused]
    exact .refused _
  cases stage with
  | toMake =>
    rcases FileProgram.advance?_attempt advanced with ⟨_, done, rfl⟩ | ⟨e, failed, rfl⟩
    · exact .made (FileRequest.perform_makeDirs done)
    · exact refused failed
  | toWrite =>
    rcases FileProgram.advance?_attempt advanced with ⟨_, done, rfl⟩ | ⟨e, failed, rfl⟩
    · exact .written (FileRequest.perform_write done)
    · exact refused failed
  | toRename =>
    rcases FileProgram.advance?_attempt advanced with ⟨_, done, rfl⟩ | ⟨e, failed, rfl⟩
    · exact .renamed (FileRequest.perform_rename done)
    · exact refused failed
  | ended => cases advanced

theorem Advance.stage (advance : r.Advance key text fs program next fs') :
    r.Stage key text next := by
  cases advance with
  | refused => exact .ended _
  | made => exact .toWrite
  | written => exact .toRename
  | renamed => exact .ended _

theorem Advance.keepsDirs (advance : r.Advance key text fs program next fs') :
    r.KeepsDirs fs fs' := by
  intro q before here
  cases advance with
  | refused => exact here
  | made made =>
    have spares : r.Spares key fs fs' := .makeDirs made
    exact spares.dirs q before here
  | written written =>
    rcases find?_write written with found | ⟨same, -⟩
    · rw [found, if_neg (dir_ne_temporary before), here]
    · rw [same, here]
  | renamed renamed =>
    obtain ⟨-, node, -, found⟩ := find?_rename renamed
    rw [found, if_neg (dir_ne_path before), if_neg (dir_ne_temporary before), here]

/-- A save of one record spares every other one. -/
theorem Advance.spares (advance : r.Advance key' text fs program next fs')
    (apart : key.fileName ≠ key'.fileName) : r.Spares key fs fs' := by
  have record : r.path key ≠ r.path key' := fun same => apart (path_inj same)
  have temporary : r.temporary key ≠ r.temporary key' := fun same => apart (temporary_inj same)
  have dirs := advance.keepsDirs
  cases advance with
  | refused => exact .refl r key fs
  | made made => exact .makeDirs made
  | written written =>
    rcases find?_write written with found | ⟨same, -⟩
    · refine ⟨?_, ?_, dirs⟩
      · rw [found, if_neg path_ne_temporary]
      · rw [found, if_neg temporary]
    · rw [same]
      exact .refl r key fs
  | renamed renamed =>
    obtain ⟨-, node, -, found⟩ := find?_rename renamed
    refine ⟨?_, ?_, dirs⟩
    · rw [found, if_neg record, if_neg path_ne_temporary]
    · rw [found, if_neg path_ne_temporary.symm, if_neg temporary]

/-- A text stands in the file of a record, and the file can be reached. -/
structure Holds (r : Records) (key : RecordKey) (text : String) (fs : FileSystem) : Prop where
  leads : fs.LeadsTo r.dirPath key.fileName
  there : fs.find? (r.path key) = some (.file text)

theorem Holds.read (holds : r.Holds key text fs) : fs.read (r.path key) = .ok text :=
  FileSystem.read_eq_ok_iff.mpr ⟨holds.leads, Or.inl holds.there⟩

theorem Holds.spares (holds : r.Holds key text fs) (spares : r.Spares key fs fs') :
    r.Holds key text fs' :=
  ⟨holds.leads.mono spares.dirs, spares.record.trans holds.there⟩

/-- No device stands where the temporary file of a record is written. -/
def Undisturbed (r : Records) (key : RecordKey) (fs : FileSystem) : Prop :=
  ∀ number mode uid gid, fs.find? (r.temporary key) ≠ some (.block number mode uid gid)

theorem Undisturbed.spares (free : r.Undisturbed key fs) (spares : r.Spares key fs fs') :
    r.Undisturbed key fs' := by
  intro number mode uid gid
  rw [spares.temporary]
  exact free number mode uid gid

/-- How far the save of a text has come, in the program and in the file system. -/
inductive Saving (r : Records) (key : RecordKey) (text : String) (fs : FileSystem) :
    FileProgram (Except ControlError Unit) → Prop
  | toMake : Saving r key text fs (r.toMake key text)
  | toWrite : Saving r key text fs (r.toWrite key text)
  | toRename (written : fs.find? (r.temporary key) = some (.file text)) :
      Saving r key text fs (r.toRename key)
  | kept (holds : r.Holds key text fs) : Saving r key text fs (.done (.ok ()))
  | failed (e : ControlError) : Saving r key text fs (.done (.error e))

theorem saving_save (r : Records) (key : RecordKey) (value : Json) (fs : FileSystem) :
    r.Saving key value.layout fs (r.save key value) := by
  unfold save
  split
  · exact .failed _
  · exact .toMake

/-- Nobody else disturbs a save. -/
theorem Saving.spares (saving : r.Saving key text fs program) (spares : r.Spares key fs fs') :
    r.Saving key text fs' program := by
  cases saving with
  | toMake => exact .toMake
  | toWrite => exact .toWrite
  | toRename written => exact .toRename (spares.temporary.trans written)
  | kept holds => exact .kept (holds.spares spares)
  | failed e => exact .failed e

/-- A save that has succeeded has put its text in place. -/
theorem Saving.holds (saving : r.Saving key text fs (.done (.ok ()))) : r.Holds key text fs := by
  cases saving with
  | kept holds => exact holds

theorem Saving.stage (saving : r.Saving key text fs program) : r.Stage key text program := by
  cases saving with
  | toMake => exact .toMake
  | toWrite => exact .toWrite
  | toRename => exact .toRename
  | kept | failed => exact .ended _

/-- One request of a save brings it further. The record stays as it was or becomes the text. -/
theorem Saving.advance (saving : r.Saving key text fs program) (free : r.Undisturbed key fs)
    (advanced : program.advance? fs = some (next, fs')) :
    r.Saving key text fs' next ∧ r.Undisturbed key fs' ∧
      (fs'.find? (r.path key) = fs.find? (r.path key) ∨
        fs'.find? (r.path key) = some (.file text)) := by
  have dirs := (saving.stage.advance advanced).keepsDirs
  have refused {request : FileRequest} {e : OsError}
      (refused : request.perform fs = (.error e, fs')) :
      r.Saving key text fs' (.done (.error (r.failed key e))) ∧ r.Undisturbed key fs' ∧
        (fs'.find? (r.path key) = fs.find? (r.path key) ∨
          fs'.find? (r.path key) = some (.file text)) := by
    rw [FileRequest.perform_error refused]
    exact ⟨.failed _, free, Or.inl rfl⟩
  cases saving with
  | toMake =>
    rcases FileProgram.advance?_attempt advanced with ⟨_, done, rfl⟩ | ⟨e, failed, rfl⟩
    · have spares : r.Spares key fs fs' := .makeDirs (FileRequest.perform_makeDirs done)
      exact ⟨.toWrite, free.spares spares, Or.inl spares.record⟩
    · exact refused failed
  | toWrite =>
    rcases FileProgram.advance?_attempt advanced with ⟨_, done, rfl⟩ | ⟨e, failed, rfl⟩
    · rcases find?_write (FileRequest.perform_write done) with found | ⟨-, device⟩
      · have written := found (r.temporary key)
        rw [if_pos rfl] at written
        refine ⟨.toRename written, fun _ _ _ _ => ?_, Or.inl ?_⟩
        · rw [written]
          nofun
        · rw [found, if_neg path_ne_temporary]
      · obtain ⟨number, mode, uid, gid, device⟩ := device
        exact absurd device (free number mode uid gid)
    · exact refused failed
  | toRename written =>
    rcases FileProgram.advance?_attempt advanced with ⟨_, done, rfl⟩ | ⟨e, failed, rfl⟩
    · obtain ⟨leads, node, moved, found⟩ := find?_rename (FileRequest.perform_rename done)
      obtain rfl : Node.file text = node := Option.some.inj (written.symm.trans moved)
      have there := found (r.path key)
      have gone := found (r.temporary key)
      rw [if_pos rfl] at there
      rw [if_neg path_ne_temporary.symm, if_pos rfl] at gone
      refine ⟨.kept ⟨leads.mono dirs, there⟩, fun _ _ _ _ => ?_, Or.inr there⟩
      rw [gone]
      nofun
    · exact refused failed
  | kept => cases advanced
  | failed => cases advanced

/-! ## Loading -/

/-- The report of a migration as its record has it, or that of a machine without a record. -/
def reportMigration (r : Records) (vm : String) :
    FileProgram (Except ControlError MigrationStat) :=
  (r.loadMigration vm).bind fun kept => .done (kept.map (·.getD .none))

variable {vm : String} {stat : MigrationStat}

/-- An empty file is no record. -/
theorem ofText_empty : Decode.ofText MigrationStat.ofDraft "" ≠ .ok stat := by
  have nothing : Reader.readText "" = ⟨.cut, true⟩ := rfl
  rw [Decode.ofText, nothing]
  nofun

theorem interpret_eq_ok {α : Type} {decoder : Decoder α} {kept : Option α}
    (read : r.interpret key decoder text = .ok kept) :
    ∃ a, kept = some a ∧ Decode.ofText decoder text = .ok a := by
  unfold interpret at read
  split at read
  · next a decoded =>
    cases read
    exact ⟨a, rfl, decoded⟩
  · cases read

/-- Nothing is reported from a record before it was looked at. -/
theorem reportMigration_ne_ok : r.reportMigration vm ≠ .done (.ok stat) := by
  unfold reportMigration loadMigration load
  split <;> nofun

/-- Whoever reports from a record makes one request. A report that is not the one of a machine
without a record stands in the record. -/
theorem advance?_reportMigration {next : FileProgram (Except ControlError MigrationStat)}
    (advanced : (r.reportMigration vm).advance? fs = some (next, fs')) :
    fs' = fs ∧ ∃ outcome, next = .done outcome ∧ ∀ stat, outcome = .ok stat →
      stat = .none ∨ ∃ text, r.Holds (.migration vm) text fs ∧
        Decode.ofText MigrationStat.ofDraft text = .ok stat := by
  unfold reportMigration loadMigration load at advanced
  split at advanced
  · cases advanced
  · cases advanced
    refine ⟨rfl, ?_⟩
    cases answered : fs.read (r.path (.migration vm)) with
    | error e =>
      simp only [FileRequest.perform, answered]
      cases e with
      | notFound =>
        refine ⟨_, rfl, fun stat told => Or.inl ?_⟩
        cases told
        rfl
      | _ =>
        refine ⟨_, rfl, fun stat told => ?_⟩
        cases told
    | ok text =>
      simp only [FileRequest.perform, answered]
      refine ⟨_, rfl, fun stat told => Or.inr ⟨text, ?_⟩⟩
      cases read : r.interpret (.migration vm) MigrationStat.ofDraft text with
      | error e =>
        rw [read] at told
        cases told
      | ok kept =>
        obtain ⟨a, rfl, decoded⟩ := interpret_eq_ok read
        rw [read] at told
        cases told
        obtain ⟨leads, there | ⟨rfl, -⟩⟩ := FileSystem.read_eq_ok_iff.mp answered
        · exact ⟨⟨leads, there⟩, decoded⟩
        · exact absurd decoded ofText_empty

section

variable {α : Type} {decoder : Decoder α} {a : α}

/-- Whoever can read a record is told what stands there. -/
theorem run_load (usable : checkVmName key.vm = .ok ()) (holds : r.Holds key text fs)
    (decoded : Decode.ofText decoder text = .ok a) :
    (r.load key decoder).run fs = (.ok (some a), fs) := by
  rw [load, usable]
  dsimp only
  rw [FileProgram.run_ask, FileRequest.perform, holds.read]
  dsimp only
  rw [FileProgram.run_done, interpret, decoded]

/-- A record that is not there is told as such. -/
theorem run_load_missing (usable : checkVmName key.vm = .ok ())
    (missing : fs.read (r.path key) = .error .notFound) :
    (r.load key decoder).run fs = (.ok none, fs) := by
  rw [load, usable]
  dsimp only
  rw [FileProgram.run_ask, FileRequest.perform, missing]
  rfl

end

/-- Whoever can read a record reports what stands there. -/
theorem run_reportMigration (usable : checkVmName vm = .ok ())
    (holds : r.Holds (.migration vm) text fs)
    (decoded : Decode.ofText MigrationStat.ofDraft text = .ok stat) :
    ((r.reportMigration vm).run fs).1 = .ok stat := by
  have told : (r.loadMigration vm).run fs = (.ok (some stat), fs) := run_load usable holds decoded
  rw [reportMigration, FileProgram.run_bind, told]
  rfl

end Records

end VmControl
