import VmControl.Pool.Job
import VmControl.Pool.Table
import VmControl.Store.Records
import VmControl.Text.Quoted

/-!
The tasks of a host: which are registered, which may start, and what is known of them.

A migration claims its whole machine, a copy claims one disk. A task that has ended stays registered
until it is cancelled away or another one takes its identifier; only tasks in progress stand in the
way of others. Main statements:

- `Pool.conflict?_inProgress`: what stands in the way is registered and in progress;
- `Pool.find?_start`: a task that was started is found under its identifier.
-/

namespace VmControl

/-- The tasks of a host. -/
structure Pool where
  config : Config
  /-- All tasks that were ever started, by number. -/
  jobs : List Job
  /-- The tasks that are registered. -/
  table : TaskTable

namespace Pool

/-- No task was ever started. -/
def new (config : Config) : Pool := ⟨config, [], .empty⟩

/-- The records of the final statistics. -/
def records (p : Pool) : Records := ⟨p.config.stateDir⟩

/-- Forgets what is registered; tasks in progress go on. -/
def restart (p : Pool) : Pool := { p with table := .empty }

/-- Whether the task with a number is in progress. -/
def isBusy (p : Pool) (number : Nat) : Bool := (p.jobs[number]?).any (·.inProgress)

/-- The registered task under an identifier. -/
def find? (p : Pool) (id : TaskId) : Option (Nat × Job) :=
  match p.table.get? id with
  | some number => (p.jobs[number]?).map (number, ·)
  | none => none

/-! ## Admission -/

/-- A registered task in progress that stands in the way. -/
def conflict? (p : Pool) (inTheWay : TaskId → Bool) : Option TaskId :=
  (p.table.entries.find? fun entry => inTheWay entry.1 && p.isBusy entry.2).map (·.1)

/-- Whether something may start, given what would stand in its way. -/
def admission (p : Pool) (inTheWay : TaskId → Bool) : Except ControlError Unit :=
  match p.conflict? inTheWay with
  | some id => .error (.alreadyRunning id.kind id.object id.owner)
  | none => .ok ()

/-- Whether a task stands in the way of the migration of a machine. -/
def blocksMigration (vm : String) (id : TaskId) : Bool := id.involves vm

/-- Whether a task stands in the way of the copy of a disk of a machine. -/
def blocksCopying (disk vm : String) (id : TaskId) : Bool :=
  match id.kind with
  | .migration => id.object = vm
  | .diskCopying => id.object = disk

/-! ## Starting and going on -/

/-- Starts and registers a task. -/
def start (p : Pool) (j : Job) : Pool :=
  { p with jobs := p.jobs ++ [j], table := p.table.insert j.id p.jobs.length }

/-- Starts a copy of a disk, if it may start. -/
def startCopying (p : Pool) (s : Surroundings) (o : CopyOptions) :
    Except ControlError Unit × Pool :=
  match s.registry.get? o.vmName with
  | none => (.error (.notRunning o.vmName), p)
  | some _ =>
    match p.admission (blocksCopying o.disk.path o.vmName) with
    | .error e => (.error e, p)
    | .ok () => (.ok (), p.start (.copying o p.config s.stamp))

/-- Changes the task with a number. -/
def setJob (p : Pool) (number : Nat) (j : Job) : Pool := { p with jobs := p.jobs.set number j }

/-- What comes of something that happens to the task with a number, if it can happen now. -/
def step? (p : Pool) (s : Surroundings) (number : Nat) (x : JobStimulus) :
    Option (Pool × List Effect) :=
  match p.jobs[number]? with
  | some j => (j.step? s x).map fun (j, effects) => (p.setJob number j, effects)
  | none => none

/-! ## What is known -/

/-- Whether each registered task is in progress, by the text of its identifier. -/
def flags (p : Pool) : OrderedMap Bool :=
  OrderedMap.ofList (p.table.entries.map fun entry => (entry.1.text, p.isBusy entry.2))

/-- The text that shows the tasks to a developer. -/
def debugText (p : Pool) : String :=
  "TaskPool \x7b tasks: \x7b"
    ++ ", ".intercalate (p.flags.entries.map fun entry =>
      Text.quoted entry.1 ++ ": " ++ if entry.2 then "true" else "false")
    ++ "\x7d, .. \x7d"

/-- The statistics of the registered migration of a machine. -/
def migrationStat? (p : Pool) (vm : String) : Option MigrationStat :=
  match p.find? (.migration vm) with
  | some (_, ⟨_, _, .migration r⟩) => some r.account.stat
  | _ => none

/-- The statistics of the registered copy of a disk of a machine. -/
def copyStat? (p : Pool) (vm disk : String) : Option CopyStat :=
  match p.find? (.diskCopying disk vm) with
  | some (_, ⟨_, _, .copying r⟩) => some r.account.stat
  | _ => none

/-- The statistics of the migration of a machine: of the registered task, or as they were kept, or
those of a machine that was never migrated. -/
def migrationStat (p : Pool) (vm : String) : FileProgram (Except ControlError MigrationStat) :=
  match p.migrationStat? vm with
  | some stat => .done (.ok stat)
  | none => (p.records.loadMigration vm).bind fun kept => .done (kept.map (·.getD .none))

/-- The statistics of the copy of a disk of a machine, found in the same way. -/
def copyStat (p : Pool) (vm disk : String) : FileProgram (Except ControlError CopyStat) :=
  match p.copyStat? vm disk with
  | some stat => .done (.ok stat)
  | none => (p.records.loadCopying vm disk).bind fun kept => .done (kept.map (·.getD .none))

/-- What stands in the way is registered, in progress, and really in the way. -/
theorem conflict?_inProgress {p : Pool} {inTheWay : TaskId → Bool} {id : TaskId}
    (h : p.conflict? inTheWay = some id) :
    ∃ number, (id, number) ∈ p.table.entries ∧ p.isBusy number = true ∧ inTheWay id = true := by
  rw [conflict?, Option.map_eq_some_iff] at h
  obtain ⟨⟨found, number⟩, first, rfl⟩ := h
  have holds := List.find?_some first
  simp only [Bool.and_eq_true] at holds
  exact ⟨number, List.mem_of_find?_eq_some first, holds.2, holds.1⟩

/-- A task that was started is found under its identifier. -/
theorem find?_start (p : Pool) (j : Job) : (p.start j).find? j.id = some (p.jobs.length, j) := by
  simp [find?, start, TaskTable.get?_insert]

end Pool

end VmControl
