import VmControl.Proofs.Codec.Kept
import VmControl.Proofs.Store.Saving

/-!
# What a store of records holds

The store is a directory, and a record is found by the name of its file. What is loaded is what was
saved last under that name (`Records.Filled.loads`).

The names of the records of migrations tell the machines apart, and no record of a copy has such a
name. The name of the record of a copy joins the name of the machine and the path of the disk, and a
separator in the path is written like an underscore. So copies of different disks may share a
record, and even copies of disks of different machines. `RecordKey.Shares` says which, and
`RecordKey.copying_fileName_eq_iff` that it is these.

* `FileProgram.run_keeps`: what every request of a program keeps.
* `Records.Keeps` is the invariant: what a save leaves for each record, whichever it is.
-/

namespace VmControl

/-! ## Programs that run to their end -/

/-- What every request of a program keeps is so when it has run. -/
theorem FileProgram.run_keeps {α : Type} {P : FileProgram α → FileSystem → Prop}
    (keeps : ∀ program fs next fs', P program fs → program.advance? fs = some (next, fs') →
      P next fs')
    {program : FileProgram α} {fs : FileSystem} (holds : P program fs) :
    P (.done (program.run fs).1) (program.run fs).2 := by
  induction program generalizing fs with
  | done => exact holds
  | ask request next ih => exact ih _ (keeps _ _ _ _ holds rfl)

namespace Records

variable {r : Records} {key key' : RecordKey} {text : String} {value : Json}
  {fs fs' fs'' : FileSystem}

theorem Spares.trans (first : r.Spares key fs fs') (second : r.Spares key fs' fs'') :
    r.Spares key fs fs'' where
  record := second.record.trans first.record
  temporary := second.temporary.trans first.temporary
  dirs q before here := second.dirs q before (first.dirs q before here)

/-- A save spares every other record. -/
theorem spares_run_save (apart : key.fileName ≠ key'.fileName) (value : Json) (fs : FileSystem) :
    r.Spares key fs ((r.save key' value).run fs).2 := by
  have begun : r.Stage key' value.layout (r.save key' value) ∧ r.Spares key fs fs :=
    ⟨r.stage_save key' value, .refl r key fs⟩
  have ended := FileProgram.run_keeps
    (P := fun program now => r.Stage key' value.layout program ∧ r.Spares key fs now)
    (fun _ _ _ _ holds advanced =>
      have advance := holds.1.advance advanced
      ⟨advance.stage, holds.2.trans (advance.spares apart)⟩) begun
  exact ended.2

/-- A save that succeeds puts its text in place. -/
theorem holds_run_save (free : r.Undisturbed key fs)
    (ran : (r.save key value).run fs = (.ok (), fs')) :
    r.Holds key value.layout fs' ∧ r.Undisturbed key fs' := by
  have begun : r.Saving key value.layout fs (r.save key value) ∧ r.Undisturbed key fs :=
    ⟨r.saving_save key value fs, free⟩
  have ended := FileProgram.run_keeps
    (P := fun program now => r.Saving key value.layout now program ∧ r.Undisturbed key now)
    (fun _ _ _ _ holds advanced =>
      have advance := holds.1.advance holds.2 advanced
      ⟨advance.1, advance.2.1⟩) begun
  rw [ran] at ended
  exact ⟨ended.1.holds, ended.2⟩

/-- Records of one name are one record. -/
theorem Holds.congr (holds : r.Holds key text fs) (same : key.fileName = key'.fileName) :
    r.Holds key' text fs where
  leads := same ▸ holds.leads
  there := by
    rw [path, ← same]
    exact holds.there

theorem Undisturbed.congr (free : r.Undisturbed key fs) (same : key.fileName = key'.fileName) :
    r.Undisturbed key' fs := by
  rw [Undisturbed, temporary, RecordKey.temporaryName, ← same]
  exact free

end Records

/-! ## Names of records -/

namespace RecordKey

/-- Two characters are written alike in the name of a record. -/
def Interchangeable (a b : Char) : Prop :=
  a = b ∨ a ∈ ['/', '\\', '\x00', '_'] ∧ b ∈ ['/', '\\', '\x00', '_']

/-- Two disks are written alike: apart from separators at the ends, their paths have the same
characters or such as are written alike. -/
def DisksAlike (disk disk' : String) : Prop :=
  List.Forall₂ Interchangeable (trimEnds '/' disk.toList) (trimEnds '/' disk'.toList)

/-- The copies of two disks share a record. The disks of one machine are written alike, or the name
of one machine goes on where the name of the other ends, in what is written first of the other's
disk. -/
inductive Shares (vm disk vm' disk' : String) : Prop
  | disks (machine : vm' = vm) (alike : DisksAlike disk disk')
  | longer {rest : String} (machine : vm' = vm ++ "." ++ rest)
      (parts : diskPart disk = rest ++ "." ++ diskPart disk')
  | shorter {rest : String} (machine : vm = vm' ++ "." ++ rest)
      (parts : diskPart disk' = rest ++ "." ++ diskPart disk)

theorem interchangeable_iff {a b : Char} : Interchangeable a b ↔
    (if a = '/' || a = '\\' || a = '\x00' then '_' else a) =
      (if b = '/' || b = '\\' || b = '\x00' then '_' else b) := by
  simp only [Interchangeable, List.mem_cons, List.not_mem_nil, or_false]
  grind

theorem diskPart_eq_iff {disk disk' : String} :
    diskPart disk = diskPart disk' ↔ DisksAlike disk disk' := by
  rw [diskPart, diskPart, String.ofList_inj, ← List.forall₂_eq_eq_eq, List.forall₂_map_left_iff,
    List.forall₂_map_right_iff]
  constructor
  · exact List.Forall₂.imp fun _ _ same => interchangeable_iff.mpr same
  · exact List.Forall₂.imp fun _ _ alike => interchangeable_iff.mp alike

/-- What stands before the end of the names of the records decides. -/
theorem copying_fileName_eq {vm disk vm' disk' : String} :
    (copying vm disk).fileName = (copying vm' disk').fileName ↔
      vm.toList ++ '.' :: (diskPart disk).toList =
        vm'.toList ++ '.' :: (diskPart disk').toList := by
  have start (vm disk : String) : (vm ++ "." ++ diskPart disk).toList =
      vm.toList ++ '.' :: (diskPart disk).toList := by simp
  rw [fileName, fileName, ← start, ← start, String.toList_inj]
  exact ⟨append_inj, fun same => by rw [same]⟩

/-- One name of a machine is longer than the other, or they are the same. -/
theorem split_of_append {vm vm' part part' : String} {more : List Char}
    (machine : vm'.toList = vm.toList ++ more)
    (parts : '.' :: part.toList = more ++ '.' :: part'.toList) :
    vm' = vm ∧ part = part' ∨ ∃ rest, vm' = vm ++ "." ++ rest ∧ part = rest ++ "." ++ part' := by
  cases more with
  | nil =>
    rw [List.append_nil] at machine
    exact Or.inl ⟨String.toList_inj.mp machine, String.toList_inj.mp (List.cons.inj parts).2⟩
  | cons c rest =>
    rw [List.cons_append] at parts
    obtain ⟨rfl, tail⟩ := List.cons.inj parts
    refine Or.inr ⟨String.ofList rest, String.toList_inj.mp ?_, String.toList_inj.mp ?_⟩
    · simp [machine]
    · simp [tail]

theorem copying_fileName_eq_iff {vm disk vm' disk' : String} :
    (copying vm disk).fileName = (copying vm' disk').fileName ↔ Shares vm disk vm' disk' := by
  rw [copying_fileName_eq]
  constructor
  · intro same
    rcases List.append_eq_append_iff.mp same with ⟨more, machine, parts⟩ | ⟨more, machine, parts⟩
    · rcases split_of_append machine parts with ⟨same, alike⟩ | ⟨rest, longer, parts⟩
      · exact .disks same (diskPart_eq_iff.mp alike)
      · exact .longer longer parts
    · rcases split_of_append machine parts with ⟨same, alike⟩ | ⟨rest, longer, parts⟩
      · exact .disks same.symm (diskPart_eq_iff.mp alike.symm)
      · exact .shorter longer parts
  · rintro (⟨rfl, alike⟩ | ⟨rfl, parts⟩ | ⟨rfl, parts⟩)
    · rw [diskPart_eq_iff.mpr alike]
    · simp [parts]
    · simp [parts]

theorem Shares.refl (vm disk : String) : Shares vm disk vm disk := copying_fileName_eq_iff.mp rfl

instance (vm disk vm' disk' : String) : Decidable (Shares vm disk vm' disk') :=
  decidable_of_iff _ copying_fileName_eq_iff

example : Shares "web" "a.b" "web.a" "b" := by decide +kernel

end RecordKey

/-! ## Saves in a row -/

/-- Statistics that are saved. -/
inductive SavedStat where
  | migration (vm : String) (stat : MigrationStat)
  | copying (vm : String) (stat : CopyStat)

namespace SavedStat

/-- The record in which they are kept. -/
def key : SavedStat → RecordKey
  | .migration vm _ => .migration vm
  | .copying vm stat => .copying vm stat.disk

def json : SavedStat → Json
  | .migration _ stat => stat.toJson
  | .copying _ stat => stat.toJson

def save (r : Records) : SavedStat → FileProgram (Except ControlError Unit)
  | .migration vm stat => r.saveMigration vm stat
  | .copying vm stat => r.saveCopying vm stat

/-- Their points in time are such as a clock can show. -/
def Dated : SavedStat → Prop
  | .migration _ stat => stat.Dated
  | .copying _ stat => stat.Dated

/-- The statistics of the migration of a machine. -/
def ofMigration? (vm : String) : SavedStat → Option MigrationStat
  | .migration vm' stat => if vm' = vm then some stat else none
  | .copying .. => none

/-- The statistics of the copy of a disk of a machine. -/
def ofCopy? (vm disk : String) : SavedStat → Option CopyStat
  | .migration .. => none
  | .copying vm' stat => if vm' = vm ∧ stat.disk = disk then some stat else none

/-- The statistics of a copy that shares the record of a disk of a machine. -/
def ofRecord? (vm disk : String) : SavedStat → Option CopyStat
  | .migration .. => none
  | .copying vm' stat => if RecordKey.Shares vm' stat.disk vm disk then some stat else none

theorem fileName_eq_migration_iff {vm : String} {kept : SavedStat} :
    kept.key.fileName = (RecordKey.migration vm).fileName ↔
      (kept.ofMigration? vm).isSome = true := by
  cases kept with
  | migration vm' stat =>
    rw [ofMigration?]
    constructor
    · intro same
      rw [if_pos (RecordKey.migration_fileName_inj same)]
      rfl
    · intro own
      split at own
      · next same =>
        subst same
        rfl
      · cases own
  | copying vm' stat =>
    exact iff_of_false (RecordKey.migration_fileName_ne_copying vm vm' stat.disk).symm
      Bool.false_ne_true

theorem fileName_eq_copying_iff {vm disk : String} {kept : SavedStat} :
    kept.key.fileName = (RecordKey.copying vm disk).fileName ↔
      (kept.ofRecord? vm disk).isSome = true := by
  cases kept with
  | migration vm' stat =>
    exact iff_of_false (RecordKey.migration_fileName_ne_copying vm' vm disk) Bool.false_ne_true
  | copying vm' stat =>
    rw [ofRecord?, key, RecordKey.copying_fileName_eq_iff]
    split <;> simp_all

theorem decodes_migration {vm : String} {kept : SavedStat} {stat : MigrationStat}
    (dated : kept.Dated) (own : kept.ofMigration? vm = some stat) :
    Decode.ofText MigrationStat.ofDraft kept.json.layout = .ok stat := by
  cases kept with
  | migration vm' stat' =>
    rw [ofMigration?] at own
    split at own
    · cases own
      exact (MigrationStat.survives dated).lines
    · cases own
  | copying => cases own

theorem decodes_copying {vm disk : String} {kept : SavedStat} {stat : CopyStat} (dated : kept.Dated)
    (own : kept.ofRecord? vm disk = some stat) :
    Decode.ofText CopyStat.ofDraft kept.json.layout = .ok stat := by
  cases kept with
  | migration => cases own
  | copying vm' stat' =>
    rw [ofRecord?] at own
    split at own
    · cases own
      exact (CopyStat.survives dated).lines
    · cases own

/-- Where nobody else's copy shares the record, what is in it is the disk's own. -/
theorem ofRecord?_eq_ofCopy? {vm disk : String} {kept : SavedStat}
    (alone : ∀ vm' stat, kept = .copying vm' stat → RecordKey.Shares vm' stat.disk vm disk →
      vm' = vm ∧ stat.disk = disk) : kept.ofRecord? vm disk = kept.ofCopy? vm disk := by
  cases kept with
  | migration => rfl
  | copying vm' stat =>
    have own : RecordKey.Shares vm' stat.disk vm disk ↔ vm' = vm ∧ stat.disk = disk :=
      ⟨alone vm' stat rfl, fun ⟨machine, disk⟩ => machine ▸ disk ▸ .refl _ _⟩
    rw [ofRecord?, ofCopy?]
    simp only [own]

theorem save_eq (r : Records) (kept : SavedStat) : kept.save r = r.save kept.key kept.json := by
  cases kept <;> rfl

end SavedStat

namespace Records

variable {r : Records} {key : RecordKey} {fs fs₀ fs' : FileSystem} {log : List SavedStat}
  {kept : SavedStat}

/-- Saves that have succeeded one after the other, the last one first. -/
inductive Filled (r : Records) (fs₀ : FileSystem) : List SavedStat → FileSystem → Prop
  | start : Filled r fs₀ [] fs₀
  | save {log : List SavedStat} {fs fs' : FileSystem} (kept : SavedStat) :
      Filled r fs₀ log fs → (kept.save r).run fs = (.ok (), fs') → Filled r fs₀ (kept :: log) fs'

/-- The file system after saves one after the other, the last one first, if all of them succeed. -/
def fill? (r : Records) (fs₀ : FileSystem) : List SavedStat → Option FileSystem
  | [] => some fs₀
  | kept :: log => do
    let fs ← fill? r fs₀ log
    match (kept.save r).run fs with
    | (.ok (), fs') => some fs'
    | (.error _, _) => none

theorem Filled.of_fill? (filled : r.fill? fs₀ log = some fs) : r.Filled fs₀ log fs := by
  induction log generalizing fs with
  | nil =>
    cases filled
    exact .start
  | cons kept log ih =>
    rw [fill?, Option.bind_eq_bind, Option.bind_eq_some_iff] at filled
    obtain ⟨before, first, saved⟩ := filled
    split at saved
    · next ran =>
      cases saved
      exact .save kept (ih first) ran
    · cases saved

/-- There is no record yet, and the directory of the records is there or can be made. -/
structure Fresh (r : Records) (fs : FileSystem) : Prop where
  absent : ∀ key, fs.find? (r.path key) = none
  undisturbed : ∀ key, r.Undisturbed key fs
  passable : ∀ q, q <+: r.dirPath → fs.find? q = some .dir ∨ fs.find? q = none
  short : ∀ c ∈ r.dirPath, c.utf8ByteSize ≤ FileSystem.nameLimit

/-- What was saved last under the name of a record. -/
def last? (log : List SavedStat) (key : RecordKey) : Option SavedStat :=
  log.find? fun kept => kept.key.fileName = key.fileName

/-- Each record holds what was saved last under its name. -/
structure Keeps (r : Records) (log : List SavedStat) (fs : FileSystem) : Prop where
  held : ∀ key kept, last? log key = some kept → r.Holds key kept.json.layout fs
  missing : ∀ key, last? log key = none → fs.find? (r.path key) = none
  undisturbed : ∀ key, r.Undisturbed key fs
  passable : ∀ q, q <+: r.dirPath → fs.find? q = some .dir ∨ fs.find? q = none
  short : ∀ c ∈ r.dirPath, c.utf8ByteSize ≤ FileSystem.nameLimit

theorem Keeps.start (fresh : r.Fresh fs) : r.Keeps [] fs where
  held _ _ saved := nomatch saved
  missing key _ := fresh.absent key
  undisturbed := fresh.undisturbed
  passable := fresh.passable
  short := fresh.short

/-- In a file system without any file. -/
theorem Fresh.empty {mayMakeNodes : Bool}
    (short : ∀ c ∈ r.dirPath, c.utf8ByteSize ≤ FileSystem.nameLimit) :
    r.Fresh ⟨[], mayMakeNodes⟩ where
  absent key := if_neg (List.append_ne_nil_of_right_ne_nil _ (List.cons_ne_nil _ _))
  undisturbed key number mode uid gid device := by
    rw [FileSystem.find?] at device
    split at device <;> cases device
  passable q _ := by
    rw [FileSystem.find?]
    split
    · exact Or.inl rfl
    · exact Or.inr rfl
  short := short

theorem last?_cons (log : List SavedStat) (kept : SavedStat) (key : RecordKey) :
    last? (kept :: log) key =
      if kept.key.fileName = key.fileName then some kept else last? log key := by
  rw [last?, List.find?_cons, last?]
  split <;> simp_all

theorem named_of_last? {key : RecordKey} (last : last? log key = some kept) :
    kept ∈ log ∧ kept.key.fileName = key.fileName := by
  rw [last?] at last
  have named := List.find?_some last
  exact ⟨List.mem_of_find?_eq_some last, of_decide_eq_true named⟩

/-- A save that succeeds changes its own record and no other one. -/
theorem Keeps.save (keeps : r.Keeps log fs) (ran : (kept.save r).run fs = (.ok (), fs')) :
    r.Keeps (kept :: log) fs' := by
  rw [SavedStat.save_eq] at ran
  obtain ⟨holds, free⟩ := holds_run_save (keeps.undisturbed kept.key) ran
  have spares {key : RecordKey} (apart : kept.key.fileName ≠ key.fileName) :
      r.Spares key fs fs' := by
    have spares := spares_run_save (r := r) (Ne.symm apart) kept.json fs
    rwa [ran] at spares
  refine ⟨fun key other last => ?_, fun key none => ?_, fun key => ?_,
    fun q before => ?_, keeps.short⟩
  · rw [last?_cons] at last
    split at last
    · next same =>
      cases last
      exact holds.congr same
    · next apart => exact (keeps.held key other last).spares (spares apart)
  · rw [last?_cons] at none
    split at none
    · cases none
    · next apart => rw [(spares apart).record, keeps.missing key none]
  · by_cases same : kept.key.fileName = key.fileName
    · exact free.congr same
    · exact (keeps.undisturbed key).spares (spares same)
  · exact Or.inl (holds.leads.dirs q before)

theorem Filled.keeps (filled : r.Filled fs₀ log fs) (fresh : r.Fresh fs₀) : r.Keeps log fs := by
  induction filled with
  | start => exact .start fresh
  | save kept _ ran ih => exact ih.save ran

/-- What is loaded is what was saved last under the name of the record, if it can be read back. -/
theorem Keeps.load {α : Type} {decoder : Decoder α} {of? : SavedStat → Option α}
    (keeps : r.Keeps log fs) (usable : checkVmName key.vm = .ok ())
    (short : key.fileName.utf8ByteSize ≤ FileSystem.nameLimit)
    (own : ∀ kept, kept.key.fileName = key.fileName ↔ (of? kept).isSome = true)
    (decodes : ∀ kept ∈ log, ∀ a, of? kept = some a →
      Decode.ofText decoder kept.json.layout = .ok a) :
    ((r.load key decoder).run fs).1 = .ok (log.findSome? of?) := by
  have same : log.findSome? of? = (last? log key).bind of? := by
    clear keeps decodes
    induction log with
    | nil => rfl
    | cons kept log ih =>
      rw [last?_cons, List.findSome?_cons]
      cases found : of? kept with
      | some a =>
        rw [if_pos ((own kept).mpr (by rw [found]; rfl))]
        exact found.symm
      | none =>
        rw [if_neg fun named => by simpa [found] using (own kept).mp named]
        exact ih
  rw [same]
  cases last : last? log key with
  | some kept =>
    obtain ⟨listed, named⟩ := named_of_last? last
    obtain ⟨a, found⟩ := Option.isSome_iff_exists.mp ((own kept).mp named)
    rw [run_load usable (keeps.held key kept last) (decodes kept listed a found)]
    exact congrArg Except.ok found.symm
  | none =>
    have names : ∀ c ∈ r.dirPath ++ [key.fileName], c.utf8ByteSize ≤ FileSystem.nameLimit :=
      List.forall_mem_append.mpr ⟨keeps.short, List.forall_mem_singleton.mpr short⟩
    rw [run_load_missing usable
      (FileSystem.read_missing keeps.passable names (keeps.missing key last))]
    rfl

/-- What is loaded of the migration of a machine is what was saved last of it. -/
theorem Filled.loads_migration {vm : String} (filled : r.Filled fs₀ log fs) (fresh : r.Fresh fs₀)
    (dated : ∀ kept ∈ log, kept.Dated) (usable : checkVmName vm = .ok ())
    (short : (RecordKey.migration vm).fileName.utf8ByteSize ≤ FileSystem.nameLimit) :
    ((r.loadMigration vm).run fs).1 = .ok (log.findSome? (SavedStat.ofMigration? vm)) :=
  (filled.keeps fresh).load usable short (fun _ => SavedStat.fileName_eq_migration_iff)
    fun kept listed _ own => SavedStat.decodes_migration (dated kept listed) own

/-- What is loaded of the copy of a disk is what was saved last of a copy that shares its record. -/
theorem Filled.loads_copying {vm disk : String} (filled : r.Filled fs₀ log fs) (fresh : r.Fresh fs₀)
    (dated : ∀ kept ∈ log, kept.Dated) (usable : checkVmName vm = .ok ())
    (short : (RecordKey.copying vm disk).fileName.utf8ByteSize ≤ FileSystem.nameLimit) :
    ((r.loadCopying vm disk).run fs).1 = .ok (log.findSome? (SavedStat.ofRecord? vm disk)) :=
  (filled.keeps fresh).load usable short (fun _ => SavedStat.fileName_eq_copying_iff)
    fun kept listed _ own => SavedStat.decodes_copying (dated kept listed) own

/-- What is loaded of a migration is what was saved last of it. What is loaded of a copy is what was
saved last of a copy that shares its record; if only its own does, it is what was saved last of
it. -/
theorem Filled.loads (filled : r.Filled fs₀ log fs) (fresh : r.Fresh fs₀)
    (dated : ∀ kept ∈ log, kept.Dated) {vm : String} (usable : checkVmName vm = .ok ()) :
    ((RecordKey.migration vm).fileName.utf8ByteSize ≤ FileSystem.nameLimit →
      ((r.loadMigration vm).run fs).1 = .ok (log.findSome? (SavedStat.ofMigration? vm))) ∧
    ∀ disk, (RecordKey.copying vm disk).fileName.utf8ByteSize ≤ FileSystem.nameLimit →
      ((r.loadCopying vm disk).run fs).1 = .ok (log.findSome? (SavedStat.ofRecord? vm disk)) ∧
      ((∀ vm' stat, .copying vm' stat ∈ log → RecordKey.Shares vm' stat.disk vm disk →
          vm' = vm ∧ stat.disk = disk) →
        ((r.loadCopying vm disk).run fs).1 = .ok (log.findSome? (SavedStat.ofCopy? vm disk))) := by
  refine ⟨filled.loads_migration fresh dated usable, fun disk short => ?_⟩
  have loads := filled.loads_copying fresh dated usable short
  refine ⟨loads, fun alone => ?_⟩
  have same : log.map (SavedStat.ofRecord? vm disk) = log.map (SavedStat.ofCopy? vm disk) :=
    List.map_congr_left fun kept listed => SavedStat.ofRecord?_eq_ofCopy? fun vm' stat is shares =>
      alone vm' stat (is ▸ listed) shares
  have found := congrArg (List.findSome? id) same
  rw [List.findSome?_map, List.findSome?_map] at found
  exact loads.trans (congrArg Except.ok found)

end Records

namespace Sample

/-- The records of a host. -/
def hostRecords : Records := ⟨Config.default.stateDir⟩

/-- The first report of a copy. -/
def copyOf (disk : String) : CopyStat := .start disk "/backup/disk.raw" ⟨100, 0⟩

/-- A migration and copies of two disks are saved. -/
def twoDisks : List SavedStat :=
  [.copying "alice" (copyOf "/dev/vg/b"),
    .migration "alice" (.start "host2" ["/dev/vg/a"] ⟨100, 0⟩),
    .copying "alice" (copyOf "/dev/vg/a")]

theorem valid_of_began : ∀ t : Timestamp, some ⟨100, 0⟩ = some t → t.Valid := by
  rintro _ ⟨⟩
  exact ⟨rfl, Or.inl (by decide)⟩

theorem copyOf_dated (disk : String) : (copyOf disk).Dated where
  started := valid_of_began
  finished _ is := nomatch is

theorem hostRecords_fresh : hostRecords.Fresh ⟨[], false⟩ := .empty (by decide +kernel)

theorem twoDisks_dated : ∀ kept ∈ twoDisks, kept.Dated := by
  have dated : MigrationStat.Dated (.start "host2" ["/dev/vg/a"] ⟨100, 0⟩) :=
    ⟨valid_of_began, fun _ is => nomatch is⟩
  simp only [twoDisks, List.forall_mem_cons]
  exact ⟨copyOf_dated _, dated, copyOf_dated _, List.forall_mem_nil _⟩

/-- No copy of another disk shares the record. -/
theorem twoDisks_alone (vm : String) (stat : CopyStat) (listed : .copying vm stat ∈ twoDisks)
    (shares : RecordKey.Shares vm stat.disk "alice" "/dev/vg/a") :
    vm = "alice" ∧ stat.disk = "/dev/vg/a" := by
  simp only [twoDisks, List.mem_cons, SavedStat.copying.injEq, reduceCtorEq,
    List.not_mem_nil, or_false, false_or] at listed
  rcases listed with ⟨rfl, rfl⟩ | ⟨rfl, rfl⟩
  · exact absurd shares (by decide +kernel)
  · exact ⟨rfl, rfl⟩

theorem twoDisks_fill : (hostRecords.fill? ⟨[], false⟩ twoDisks).isSome := by decide +kernel

theorem twoDisks_loaded : ∃ fs, hostRecords.Filled ⟨[], false⟩ twoDisks fs ∧
    hostRecords.Fresh ⟨[], false⟩ ∧ (∀ kept ∈ twoDisks, kept.Dated) ∧
    checkVmName "alice" = .ok () ∧
    ((hostRecords.loadMigration "alice").run fs).1 =
      .ok (some (.start "host2" ["/dev/vg/a"] ⟨100, 0⟩)) ∧
    ((hostRecords.loadCopying "alice" "/dev/vg/a").run fs).1 = .ok (some (copyOf "/dev/vg/a")) ∧
    ((hostRecords.loadCopying "alice" "/dev/vg/c").run fs).1 = .ok none := by
  obtain ⟨fs, fill⟩ := Option.isSome_iff_exists.mp twoDisks_fill
  have filled := Records.Filled.of_fill? fill
  have usable : checkVmName "alice" = .ok () := by decide +kernel
  obtain ⟨migration, copying⟩ := filled.loads hostRecords_fresh twoDisks_dated usable
  refine ⟨fs, filled, hostRecords_fresh, twoDisks_dated, usable, ?_, ?_, ?_⟩
  · rw [migration (by decide +kernel)]
    decide +kernel
  · rw [(copying "/dev/vg/a" (by decide +kernel)).2 twoDisks_alone]
    decide +kernel
  · rw [(copying "/dev/vg/c" (by decide +kernel)).1]
    decide +kernel

/-- A copy of one disk is saved. -/
def oneDisk : List SavedStat := [.copying "alice" (copyOf "/dev/a_b")]

theorem oneDisk_fill : (hostRecords.fill? ⟨[], false⟩ oneDisk).isSome := by decide +kernel

/-- The record of one disk is taken for the one of another disk. -/
theorem oneDisk_mistaken : ¬ ∀ (r : Records) (fs₀ fs : FileSystem) (log : List SavedStat),
    r.Filled fs₀ log fs → r.Fresh fs₀ → (∀ kept ∈ log, kept.Dated) →
    ∀ vm disk, checkVmName vm = .ok () →
      (RecordKey.copying vm disk).fileName.utf8ByteSize ≤ FileSystem.nameLimit →
      ((r.loadCopying vm disk).run fs).1 = .ok (log.findSome? (SavedStat.ofCopy? vm disk)) := by
  intro exact
  obtain ⟨fs, fill⟩ := Option.isSome_iff_exists.mp oneDisk_fill
  have filled := Records.Filled.of_fill? fill
  have dated : ∀ kept ∈ oneDisk, kept.Dated := List.forall_mem_singleton.mpr (copyOf_dated _)
  have usable : checkVmName "alice" = .ok () := by decide +kernel
  have short : (RecordKey.copying "alice" "/dev/a/b").fileName.utf8ByteSize ≤
      FileSystem.nameLimit := by
    decide +kernel
  have told := filled.loads_copying hostRecords_fresh dated usable short
  have claimed := exact _ _ _ _ filled hostRecords_fresh dated "alice" "/dev/a/b" usable short
  rw [told] at claimed
  have differ : oneDisk.findSome? (SavedStat.ofRecord? "alice" "/dev/a/b") ≠
      oneDisk.findSome? (SavedStat.ofCopy? "alice" "/dev/a/b") := by
    decide +kernel
  exact differ (Except.ok.inj claimed)

end Sample

end VmControl
