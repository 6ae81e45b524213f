import VmControl.Proofs.Options
import VmControl.Store.Records

/-!
# Where the operations of the store go

What an operation asks of the file system may depend on what it is answered, so this is about every
request that it may come to, whatever the answers are (`FileProgram.Asks`). A save asks for three
things and a load for one (`Records.asks_save`, `Records.asks_load`).

The names of a record and of its temporary file are plain names if the name of the machine is one,
whatever the disk is called (`RecordKey.fileName_plain`, `RecordKey.temporaryName_plain`). So an
operation is refused before it asks for anything, or it stays in the directory of the records
(`Records.Confined`).
-/

namespace VmControl

/-! ## What a program asks for -/

namespace FileProgram

variable {α : Type}

/-- A program may come to make a request. -/
inductive Asks : FileProgram α → FileRequest → Prop
  | now (request : FileRequest) (next : Except OsError String → FileProgram α) :
      Asks (.ask request next) request
  | later {first request : FileRequest} {next : Except OsError String → FileProgram α}
      (answer : Except OsError String) (asks : (next answer).Asks request) :
      Asks (.ask first next) request

variable {request first : FileRequest}

theorem not_asks_done {a : α} : ¬ (done a).Asks request := nofun

/-- A program that gives up when a request is refused asks for nothing more then. -/
theorem asks_attempt {ε : Type} {failure : OsError → ε} {next : String → FileProgram (Except ε α)}
    (asks : (attempt first failure next).Asks request) :
    request = first ∨ ∃ text, (next text).Asks request := by
  cases asks with
  | now => exact Or.inl rfl
  | later answer asks =>
    cases answer with
    | ok text => exact Or.inr ⟨text, asks⟩
    | error e => exact absurd asks not_asks_done

end FileProgram

/-- A request that stays in a directory: it makes the directory, or it is about files that are
entries of it. -/
inductive FileRequest.Below (dir : Path) : FileRequest → Prop
  | makeDirs : Below dir (.makeDirs dir)
  | write {name : String} (text : String) (plain : IsPlainName name) :
      Below dir (.write (dir ++ [name]) text)
  | rename {source target : String} (plain : IsPlainName source) (plain' : IsPlainName target) :
      Below dir (.rename (dir ++ [source]) (dir ++ [target]))
  | read {name : String} (plain : IsPlainName name) : Below dir (.read (dir ++ [name]))

/-! ## Names of files -/

/-- A text without what separates names from each other. -/
def Unseparated (s : String) : Prop := ∀ c ∈ s.toList, c ≠ '/' ∧ c ≠ '\\' ∧ c ≠ '\x00'

-- the characters of the text are looked at, and not all that there are
instance (s : String) : Decidable (Unseparated s) := List.decidableBAll _ s.toList

theorem Unseparated.append {s t : String} (left : Unseparated s) (right : Unseparated t) :
    Unseparated (s ++ t) := by
  rw [Unseparated, String.toList_append]
  exact List.forall_mem_append.mpr ⟨left, right⟩

/-- A text is a plain name if it is longer than the names of the directory entries that stand in
every directory. -/
theorem isPlainName_of_long {name : String} (long : 2 < name.length)
    (unseparated : Unseparated name) :
    IsPlainName name where
  nonempty empty := by
    rw [empty] at long
    exact absurd long (by decide)
  entry := by
    refine ⟨fun dot => ?_, fun dots => ?_⟩
    · rw [dot] at long
      exact absurd long (by decide)
    · rw [dots] at long
      exact absurd long (by decide)
  unseparated := unseparated

/-- What is behind the name of a machine in the name of a file is longer than that. -/
theorem isPlainName_append {base ending : String} (long : 2 < ending.length)
    (left : Unseparated base) (right : Unseparated ending) : IsPlainName (base ++ ending) := by
  refine isPlainName_of_long ?_ (left.append right)
  rw [String.length_append]
  exact Nat.lt_add_left _ long

namespace RecordKey

/-- No separator is left of a disk. -/
theorem diskPart_unseparated (disk : String) : Unseparated (diskPart disk) := by
  intro c inside
  rw [diskPart, String.toList_ofList, List.mem_map] at inside
  obtain ⟨written, -, rfl⟩ := inside
  split
  · decide
  · next kept => simpa [not_or, and_assoc] using kept

theorem fileName_plain {key : RecordKey} (plain : IsPlainName key.vm) :
    IsPlainName key.fileName := by
  have machine : Unseparated key.vm := plain.unseparated
  cases key with
  | migration vm => exact isPlainName_append (by decide) machine (by decide +kernel)
  | copying vm disk =>
    have dotted : Unseparated (vm ++ ".") := machine.append (by decide +kernel)
    exact isPlainName_append (by decide) (dotted.append (diskPart_unseparated disk))
      (by decide +kernel)

theorem temporaryName_plain {key : RecordKey} (plain : IsPlainName key.vm) :
    IsPlainName key.temporaryName := by
  rw [temporaryName_eq]
  exact isPlainName_append (by decide) (fileName_plain plain).unseparated (by decide +kernel)

end RecordKey

namespace Records

variable {r : Records} {key : RecordKey} {request : FileRequest}

/-! ## What the operations ask for -/

theorem asks_save {value : Json} (asks : (r.save key value).Asks request) :
    request = .makeDirs r.dirPath ∨ request = .write (r.temporary key) value.layout ∨
      request = .rename (r.temporary key) (r.path key) := by
  unfold save at asks
  split at asks
  · exact absurd asks FileProgram.not_asks_done
  · rcases FileProgram.asks_attempt asks with makes | ⟨_, asks⟩
    · exact Or.inl makes
    rcases FileProgram.asks_attempt asks with writes | ⟨_, asks⟩
    · exact Or.inr (Or.inl writes)
    rcases FileProgram.asks_attempt asks with renames | ⟨_, asks⟩
    · exact Or.inr (Or.inr renames)
    · exact absurd asks FileProgram.not_asks_done

theorem asks_load {α : Type} {decoder : Decoder α} (asks : (r.load key decoder).Asks request) :
    request = .read (r.path key) := by
  unfold load at asks
  split at asks
  · exact absurd asks FileProgram.not_asks_done
  · cases asks with
    | now => rfl
    | later answer asks =>
      dsimp only at asks
      split at asks <;> exact absurd asks FileProgram.not_asks_done

/-- An operation for a machine is refused for its name and asks for nothing, or it stays in the
directory of the records whatever it is answered. -/
inductive Confined {α : Type} (r : Records) (vm : String) :
    FileProgram (Except ControlError α) → Prop
  | refused {e : OptionError} (unusable : checkVmName vm = .error e) :
      Confined r vm (.done (.error (.invalidOptions e)))
  | inside {program : FileProgram (Except ControlError α)} (usable : IsPlainName vm)
      (below : ∀ request, program.Asks request → request.Below r.dirPath) : Confined r vm program

theorem Confined.of_asks {α : Type} {vm : String} {program : FileProgram (Except ControlError α)}
    (refusal : ∀ e, checkVmName vm = .error e → program = .done (.error (.invalidOptions e)))
    (below : IsPlainName vm → ∀ request, program.Asks request → request.Below r.dirPath) :
    r.Confined vm program := by
  cases checked : checkVmName vm with
  | error e =>
    rw [refusal e checked]
    exact .refused checked
  | ok =>
    have plain := checkVmName_eq_ok_iff.mp checked
    exact .inside plain (below plain)

theorem confined_save (r : Records) (key : RecordKey) (value : Json) :
    r.Confined key.vm (r.save key value) := by
  refine .of_asks (fun e refused => by rw [save, refused]) fun plain request asks => ?_
  rcases asks_save asks with rfl | rfl | rfl
  · exact .makeDirs
  · exact .write _ (RecordKey.temporaryName_plain plain)
  · exact .rename (RecordKey.temporaryName_plain plain) (RecordKey.fileName_plain plain)

theorem confined_load {α : Type} (r : Records) (key : RecordKey) (decoder : Decoder α) :
    r.Confined key.vm (r.load key decoder) := by
  refine .of_asks (fun e refused => by rw [load, refused]) fun plain request asks => ?_
  rw [asks_load asks]
  exact .read (RecordKey.fileName_plain plain)

end Records

end VmControl
