import VmControl.Codec.Stat
import VmControl.Json.Render
import VmControl.Options
import VmControl.Store.Access

/-!
The store of final statistics: one record file per migrated machine and per copied disk.

A record is replaced by writing a temporary file beside it and renaming that, so a reader sees the
old record or the new one. Main statement:

- `RecordKey.temporaryName_eq`: how the temporary file of a record is called.
-/

namespace VmControl

/-- The store of final statistics in one directory. -/
structure Records where
  dir : String
deriving DecidableEq

/-- What a record is about. -/
inductive RecordKey where
  /-- The migration of a machine. -/
  | migration (vm : String)
  /-- The copy of a disk of a machine. -/
  | copying (vm disk : String)
deriving DecidableEq

namespace RecordKey

def vm : RecordKey → String
  | .migration vm => vm
  | .copying vm _ => vm

/-- A text without the given character at either end. -/
def trimEnds (c : Char) (s : List Char) : List Char :=
  ((s.dropWhile (· = c)).reverse.dropWhile (· = c)).reverse

/-- The part of a file name that stands for a disk: separators at the ends are dropped, others
replaced. -/
def diskPart (disk : String) : String :=
  String.ofList ((trimEnds '/' disk.toList).map fun c =>
    if c = '/' || c = '\\' || c = '\x00' then '_' else c)

/-- The name of the file that holds the record. -/
def fileName : RecordKey → String
  | .migration vm => vm ++ ".migration.json"
  | .copying vm disk => vm ++ "." ++ diskPart disk ++ ".copying.json"

/-- What stands in front of the extension of a file name. A dot in front of everything begins
none. -/
def stem (name : List Char) : List Char :=
  match Text.splitLast? '.' name with
  | some (c :: before, _) => c :: before
  | _ => name

/-- A file name with another extension. -/
def withExtension (name extension : String) : String :=
  String.ofList (stem name.toList) ++ "." ++ extension

/-- The name of the file through which the record is replaced. -/
def temporaryName (key : RecordKey) : String := withExtension key.fileName "json.tmp"

/-- Only what stands behind the last dot is replaced. -/
theorem withExtension_append {base old : String} (named : base ≠ "") (plain : '.' ∉ old.toList)
    (new : String) : withExtension (base ++ "." ++ old) new = base ++ "." ++ new := by
  have split : Text.splitLast? '.' (base ++ "." ++ old).toList =
      some (base.toList, old.toList) := by
    refine Text.splitLast?_eq_some_iff.mpr ⟨?_, plain⟩
    simp
  have stem : stem (base ++ "." ++ old).toList = base.toList := by
    obtain ⟨c, before, start⟩ := List.exists_cons_of_ne_nil (mt String.toList_eq_nil_iff.mp named)
    rw [RecordKey.stem, split, start]
  rw [withExtension, stem, String.ofList_toList]

/-- The name of a record with `.tmp` behind it. -/
theorem temporaryName_eq (key : RecordKey) : key.temporaryName = key.fileName ++ ".tmp" := by
  have ending (base : String) (named : base ≠ "") (whole : key.fileName = base ++ "." ++ "json") :
      key.temporaryName = key.fileName ++ ".tmp" := by
    rw [temporaryName, whole, withExtension_append named (by decide)]
    exact String.toList_inj.mp (by simp)
  cases key with
  | migration vm =>
    exact ending (vm ++ ".migration") (by simp) (String.toList_inj.mp (by simp [fileName]))
  | copying vm disk =>
    exact ending (vm ++ "." ++ diskPart disk ++ ".copying") (by simp)
      (String.toList_inj.mp (by simp [fileName]))

end RecordKey

namespace Records

/-- The directory as a path. -/
def dirPath (r : Records) : Path := Path.ofText r.dir

/-- The path of a record. -/
def path (r : Records) (key : RecordKey) : Path := r.dirPath ++ [key.fileName]

/-- The path of the temporary file of a record. -/
def temporary (r : Records) (key : RecordKey) : Path := r.dirPath ++ [key.temporaryName]

/-- The text that shows where a record is. -/
def shownPath (r : Records) (key : RecordKey) : String := r.dir ++ "/" ++ key.fileName

/-- The failure to keep a record. -/
def failure (r : Records) (key : RecordKey) (reason : String) : ControlError :=
  .persist (r.shownPath key ++ ": " ++ reason)

/-- Replaces a record by a value. -/
def save (r : Records) (key : RecordKey) (value : Json) : FileProgram (Except ControlError Unit) :=
  match checkVmName key.vm with
  | .error e => .done (.error (.invalidOptions e))
  | .ok () =>
    let failed (e : OsError) := r.failure key e.message
    .attempt (.makeDirs r.dirPath) failed fun _ =>
    .attempt (.write (r.temporary key) value.layout) failed fun _ =>
    .attempt (.rename (r.temporary key) (r.path key)) failed fun _ =>
    .done (.ok ())

/-- Interprets the text of a record. -/
def interpret {α : Type} (r : Records) (key : RecordKey) (decoder : Decoder α) (text : String) :
    Except ControlError (Option α) :=
  match Decode.ofText decoder text with
  | .ok a => .ok (some a)
  | .error _ => .error (r.failure key "not a record")

/-- Reads a record, if there is one. -/
def load {α : Type} (r : Records) (key : RecordKey) (decoder : Decoder α) :
    FileProgram (Except ControlError (Option α)) :=
  match checkVmName key.vm with
  | .error e => .done (.error (.invalidOptions e))
  | .ok () =>
    .ask (.read (r.path key)) fun answer =>
      match answer with
      | .ok text => .done (r.interpret key decoder text)
      | .error .notFound => .done (.ok none)
      | .error e => .done (.error (r.failure key e.message))

/-- Keeps the statistics of a migration. -/
def saveMigration (r : Records) (vm : String) (s : MigrationStat) :
    FileProgram (Except ControlError Unit) :=
  r.save (.migration vm) s.toJson

/-- Keeps the statistics of a copy, under the disk that they name. -/
def saveCopying (r : Records) (vm : String) (s : CopyStat) :
    FileProgram (Except ControlError Unit) :=
  r.save (.copying vm s.disk) s.toJson

/-- The kept statistics of a migration. -/
def loadMigration (r : Records) (vm : String) :
    FileProgram (Except ControlError (Option MigrationStat)) :=
  r.load (.migration vm) MigrationStat.ofDraft

/-- The kept statistics of a copy. -/
def loadCopying (r : Records) (vm disk : String) :
    FileProgram (Except ControlError (Option CopyStat)) :=
  r.load (.copying vm disk) CopyStat.ofDraft

end Records

end VmControl
