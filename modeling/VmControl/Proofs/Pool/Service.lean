import VmControl.Proofs.Pool.Moves
import VmControl.Proofs.Store.Saving

/-!
# A host with its files, and those who ask

Final statistics are saved while the calls, the other tasks and the other saves go on, and whoever
asks for the statistics of a migration reads the record if no task is registered. A `Service` is a
host with the saves and the polls that were begun. Each of them makes one request to the file system
at a time, so a run of moves interleaves all of them in any order (`Service.step?`).

* A task goes on from keeping its statistics only when its save is over, however it has ended.
* `Service.Fair`: clocks show points in time, and nobody else touches the directory of the records.
* `Service.Sound` is the invariant. A save belongs to a task whose statistics are final, and is made
  from them; and a task that has ended has a save that is over.
-/

namespace VmControl

namespace Effect

/-- The save that an effect begins. -/
def save? (r : Records) : Effect → Option (FileProgram (Except ControlError Unit))
  | .keepMigration vm stat => some (r.saveMigration vm stat)
  | .keepCopying vm stat => some (r.saveCopying vm stat)
  | _ => none

end Effect

namespace FileProgram

variable {α : Type}

def isDone : FileProgram α → Bool
  | .done _ => true
  | .ask .. => false

/-- Whether a program has come to a failure. -/
def hasFailed {ε : Type} : FileProgram (Except ε α) → Bool
  | .done (.error _) => true
  | _ => false

end FileProgram

namespace Work

variable {w : Work}

/-- The record of a run. -/
def key : Work → RecordKey
  | .migration r => .migration r.vm
  | .copying r => .copying r.vm r.account.stat.disk

/-- The statistics of a run, as they are kept. -/
def json : Work → Json
  | .migration r => r.account.stat.toJson
  | .copying r => r.account.stat.toJson

/-- The text that is kept of a run. -/
def text (w : Work) : String := w.json.layout

@[simp] theorem key_close (e : Ending) : (w.close e).key = w.key := by cases w <;> rfl

@[simp] theorem text_close (e : Ending) : (w.close e).text = w.text := by cases w <;> rfl

theorem save?_record (r : Records) (w : Work) : w.record.save? r = some (r.save w.key w.json) := by
  cases w <;> rfl

theorem save?_of_not_isKeep {e : Effect} (quiet : e.isKeep = false) (r : Records) :
    e.save? r = none := by
  cases e <;> cases quiet <;> rfl

/-- Only migrations of a machine are kept as such. -/
theorem key_of_fileName {vm : String} (same : w.key.fileName = (RecordKey.migration vm).fileName) :
    w.key = .migration vm ∧ w.id = .migration vm := by
  cases w with
  | migration r =>
    obtain rfl := RecordKey.migration_fileName_inj same
    exact ⟨rfl, rfl⟩
  | copying r => exact absurd same.symm (RecordKey.migration_fileName_ne_copying _ _ _)

theorem eq_migration_of_id {vm : String} (named : w.id = .migration vm) :
    ∃ r, w = .migration r ∧ r.vm = vm := by
  cases w with
  | migration r => exact ⟨r, rfl, congrArg TaskId.object named⟩
  | copying r => cases congrArg TaskId.kind named

end Work

/-- Whoever asks is told the statistics of the registered task, or else has to look at the
record. -/
theorem Pool.Sound.migrationStat_cases {p : Pool} (sound : p.Sound) (vm : String) :
    (∃ number j r, p.table.get? (.migration vm) = some number ∧ p.jobs[number]? = some j ∧
      j.work = .migration r ∧ p.migrationStat vm = .done (.ok r.account.stat)) ∨
      p.table.get? (.migration vm) = none ∧ p.migrationStat vm = p.records.reportMigration vm := by
  cases found : p.table.get? (.migration vm) with
  | none =>
    have nobody : p.migrationStat? vm = none := by rw [Pool.migrationStat?, Pool.find?, found]
    exact Or.inr ⟨rfl, by rw [Pool.migrationStat, nobody, Records.reportMigration]⟩
  | some number =>
    obtain ⟨j, here, named⟩ := sound.entered (.migration vm, number) (TaskTable.mem_of_get? found)
    have own := (sound.jobs number j here).own
    obtain ⟨r, work, -⟩ := Work.eq_migration_of_id (own.symm.trans named)
    refine Or.inl ⟨number, j, r, rfl, here, work, ?_⟩
    obtain ⟨id, task, w⟩ := j
    obtain rfl : w = .migration r := work
    have told : p.migrationStat? vm = some r.account.stat := by
      rw [Pool.migrationStat?, Pool.find?, found]
      dsimp only
      rw [here]
      rfl
    rw [Pool.migrationStat, told]

/-- A poll of the statistics of the migration of a machine, with what is still to be done for an
answer. -/
structure Poll where
  vm : String
  program : FileProgram (Except ControlError MigrationStat)

/-- A host with its file system. -/
structure Service where
  host : Host
  files : FileSystem
  /-- The saves by the numbers of their tasks, with what was still to be done at each point, the
  last point first. -/
  saves : List (Nat × FileProgram (Except ControlError Unit))
  /-- The polls that were begun, oldest first. -/
  polls : List Poll

namespace Service

/-- What can happen to a service. -/
inductive Move where
  | host (move : Host.Move)
  /-- The save for the task with a number makes its next request. -/
  | save (number : Nat)
  /-- The statistics of the migration of a machine are asked for. -/
  | ask (vm : String)
  /-- The poll with a number makes its next request. -/
  | read (poll : Nat)
  /-- Others have changed the file system. -/
  | outside (files : FileSystem)

/-- A host to which no call was made, on a file system. -/
def new (config : Config) (files : FileSystem) : Service := ⟨.new config, files, [], []⟩

def records (v : Service) : Records := v.host.pool.records

/-- The save for a task. -/
def save? (v : Service) (number : Nat) : Option (FileProgram (Except ControlError Unit)) :=
  v.saves.lookup number

/-- Whether a move has to wait for the save of a task. -/
def awaitsSave (v : Service) : Host.Move → Bool
  | .task number _ (.work .kept) => !(v.save? number).any (·.isDone)
  | _ => false

/-- The saves that errands begin. -/
def begunSaves (r : Records) (errands : List Host.Errand) :
    List (Nat × FileProgram (Except ControlError Unit)) :=
  errands.filterMap fun
    | .ofTask number e => (e.save? r).map (number, ·)
    | .ofCall .. => none

/-- The service after a move, if it can be made now. -/
def step? (v : Service) : Move → Option Service
  | .host move =>
    if v.awaitsSave move then none
    else (v.host.step? move).map fun (h, errands) =>
      { v with host := h, saves := begunSaves v.records errands ++ v.saves }
  | .save number =>
    match v.save? number with
    | none => none
    | some program => (program.advance? v.files).map fun (next, files) =>
        { v with files := files, saves := (number, next) :: v.saves }
  | .ask vm => some { v with polls := v.polls ++ [⟨vm, v.host.pool.migrationStat vm⟩] }
  | .read poll =>
    match v.polls[poll]? with
    | none => none
    | some p => (p.program.advance? v.files).map fun (next, files) =>
        { v with files := files, polls := v.polls.set poll { p with program := next } }
  | .outside files => some { v with files := files }

/-- Clocks show points in time, and nobody else touches what is in the directory of the records or
leads there. -/
def Fair (v : Service) : Move → Prop
  | .host move => move.surroundings.stamp.Valid
  | .outside files => ∀ path, path <+: v.records.dirPath ∨ v.records.dirPath <+: path →
      files.find? path = v.files.find? path
  | .save _ | .ask _ | .read _ => True

/-- Moves have led from one service to another. -/
inductive Leads (u : Service) : Service → Prop
  | refl : Leads u u
  | step {v w : Service} {move : Move} :
      Leads u v → v.Fair move → v.step? move = some w → Leads u w

/-- A moment of a service. -/
structure Moment where
  /-- The service before the move. -/
  before : Service
  move : Move

/-- Leads a service through moves. -/
def replay? (v : Service) (moves : List Move) : Option (List Moment × Service) :=
  VmControl.replay? step? id (fun v move _ => [⟨v, move⟩]) v moves

/-- No save has failed. -/
def Saved (v : Service) : Prop := ∀ entry ∈ v.saves, entry.2.hasFailed = false

/-! ## Moves -/

variable {u v w : Service} {config : Config} {files : FileSystem} {number : Nat}
  {program next : FileProgram (Except ControlError Unit)} {move : Move}

/-- The moves of a service: what each of them finds and leaves. -/
inductive Step (v : Service) : Move → Service → Prop
  | host {move : Host.Move} {h : Host} {errands : List Host.Errand}
      (waits : v.awaitsSave move = false) (moved : v.host.step? move = some (h, errands)) :
      Step v (.host move)
        { v with host := h, saves := begunSaves v.records errands ++ v.saves }
  | save {number : Nat} {program next : FileProgram (Except ControlError Unit)} {files : FileSystem}
      (here : v.save? number = some program)
      (advanced : program.advance? v.files = some (next, files)) :
      Step v (.save number) { v with files := files, saves := (number, next) :: v.saves }
  | ask (vm : String) :
      Step v (.ask vm) { v with polls := v.polls ++ [⟨vm, v.host.pool.migrationStat vm⟩] }
  | read {poll : Nat} {p : Poll} {next : FileProgram (Except ControlError MigrationStat)}
      {files : FileSystem} (here : v.polls[poll]? = some p)
      (advanced : p.program.advance? v.files = some (next, files)) :
      Step v (.read poll)
        { v with files := files, polls := v.polls.set poll { p with program := next } }
  | outside (files : FileSystem) : Step v (.outside files) { v with files := files }

theorem step?_cases (h : v.step? move = some w) : v.Step move w := by
  cases move with
  | host move =>
    simp only [step?] at h
    split at h
    · cases h
    · next waits =>
      obtain ⟨⟨host, errands⟩, moved, same⟩ := Option.map_eq_some_iff.mp h
      cases same
      exact .host (Bool.eq_false_iff.mpr waits) moved
  | save number =>
    simp only [step?] at h
    split at h
    · cases h
    · next program here =>
      obtain ⟨⟨next, files⟩, advanced, same⟩ := Option.map_eq_some_iff.mp h
      cases same
      exact .save here advanced
  | ask vm =>
    cases h
    exact .ask vm
  | read poll =>
    simp only [step?] at h
    split at h
    · cases h
    · next p here =>
      obtain ⟨⟨next, files⟩, advanced, same⟩ := Option.map_eq_some_iff.mp h
      cases same
      exact .read here advanced
  | outside files =>
    cases h
    exact .outside files

theorem save?_cons (v : Service) (number other : Nat)
    (next : FileProgram (Except ControlError Unit)) :
    ((number, next) :: v.saves).lookup other =
      if other = number then some next else v.save? other := by
  by_cases same : other = number
  · rw [if_pos same, same, List.lookup_cons_self]
  · have apart : (other == number) = false := beq_eq_false_iff_ne.mpr same
    rw [if_neg same, List.lookup_cons, apart]
    rfl

/-- A service has been led through moves that are fair wherever they are made. -/
theorem Leads.of_replay? {moves : List Move} (fair : ∀ move ∈ moves, ∀ v : Service, v.Fair move)
    (replayable : (u.replay? moves).isSome) : u.Leads (Option.get _ replayable).2 := by
  refine holds_of_replay? (R := fun _ v => u.Leads v) .refl ?_ replayable
  intro move listed _ v _ leads stepped
  exact leads.step (fair move listed v) stepped

/-- The points of saves are remembered. -/
theorem Step.saves (step : v.Step move w) : ∃ more, w.saves = more ++ v.saves := by
  cases step with
  | host => exact ⟨_, rfl⟩
  | save => exact ⟨[_], rfl⟩
  | ask | read | outside => exact ⟨[], rfl⟩

theorem Saved.of_step (saved : w.Saved) (step : v.Step move w) : v.Saved := by
  obtain ⟨more, same⟩ := step.saves
  intro entry listed
  refine saved entry ?_
  rw [same]
  exact List.mem_append_right _ listed

/-- A save that is over has succeeded. -/
theorem Saved.done {outcome : Except ControlError Unit} (saved : v.Saved)
    (ended : v.save? number = some (.done outcome)) : outcome = .ok () := by
  obtain ⟨before, after, split, -⟩ := List.lookup_eq_some_iff.mp ended
  have listed : (number, FileProgram.done outcome) ∈ v.saves := by
    rw [split]
    exact List.mem_append_right _ List.mem_cons_self
  have fine := saved _ listed
  cases outcome with
  | ok => rfl
  | error => cases fine

/-! ## What is saved -/

theorem begunSaves_ofTask (r : Records) (number : Nat) (effects : List Effect) :
    begunSaves r (effects.map (.ofTask number)) =
      effects.filterMap fun e => (e.save? r).map (number, ·) := by
  rw [begunSaves, List.filterMap_map]
  rfl

theorem begunSaves_ofCall (r : Records) (call : Nat) (effects : List CallEffect) :
    begunSaves r (effects.map (.ofCall call)) = [] := by
  rw [begunSaves, List.filterMap_map]
  exact List.filterMap_eq_nil_iff.mpr fun _ _ => rfl

theorem begunSaves_quiet {r : Records} {effects : List Effect} (number : Nat)
    (quiet : ∀ e ∈ effects, e.isKeep = false) :
    begunSaves r (effects.map (.ofTask number)) = [] := by
  rw [begunSaves_ofTask]
  refine List.filterMap_eq_nil_iff.mpr fun e wanted => ?_
  rw [Work.save?_of_not_isKeep (quiet e wanted)]
  rfl

theorem begunSaves_record (r : Records) (number : Nat) (w : Work) :
    begunSaves r ([w.record].map (.ofTask number)) = [(number, r.save w.key w.json)] := by
  rw [begunSaves_ofTask, List.filterMap_cons_some (by rw [Work.save?_record]; rfl),
    List.filterMap_nil]

variable {h h' : Host} {past : List Host.Moment} {errands : List Host.Errand} {j k : Job}
  {r : Records} {m : Host.Move}

/-- What becomes of a task whose final statistics are not yet handed over, and the save that a move
begins for it. -/
theorem begunSaves_of_does (does : m.Does errands number j k) :
    k.work.isHanded = j.work.isHanded ∨
      j.work.isHanded = false ∧ (∃ outcome, k.work.ending? = some (.keeping outcome)) ∧
        begunSaves r errands = [(number, r.save k.work.key k.work.json)] := by
  cases does with
  | nothing same => exact Or.inl (by rw [same])
  | step own busy step wants =>
    rcases step.hands with ⟨same, -⟩ | ⟨before, keeping, keeps⟩
    · exact Or.inl same
    · rw [wants, keeps]
      exact Or.inr ⟨before, keeping, begunSaves_record r number k.work⟩

/-- A move begins at most one save, for the task whose statistics it hands over. -/
theorem begunSaves_cases (step : h.Step m h' errands) (r : Records) :
    begunSaves r errands = [] ∨ ∃ number j k, h.pool.jobs[number]? = some j ∧
      h'.pool.jobs[number]? = some k ∧ j.work.isHanded = false ∧
      (∃ outcome, k.work.ending? = some (.keeping outcome)) ∧
      begunSaves r errands = [(number, r.save k.work.key k.work.json)] := by
  have step' := step
  cases step with
  | call => exact Or.inl (begunSaves_ofCall ..)
  | goOn => exact Or.inl (begunSaves_ofCall ..)
  | @task number s x j k effects here stepped =>
    rcases Job.step?_cases stepped with ⟨_, w, rfl, -, ran, rfl⟩ | ⟨_, -, -, -, -, rfl⟩
      | ⟨-, -, -, rfl⟩
    · rcases (Work.step?_cases ran).hands with ⟨-, quiet⟩ | ⟨before, keeping, rfl⟩
      · exact Or.inl (begunSaves_quiet number quiet)
      · obtain ⟨bound, -⟩ := List.getElem?_eq_some_iff.mp here
        exact Or.inr ⟨number, j, _, here, List.getElem?_set_self bound, before, keeping,
          begunSaves_record r number w⟩
    · exact Or.inl rfl
    · exact Or.inl rfl

/-- What was handed over to be kept stays as it is. -/
theorem handed_of_does (run : Host.Run config past h) (here : h.pool.jobs[number]? = some j)
    (handed : j.work.isHanded = true) (does : m.Does errands number j k) :
    k.work.isHanded = true ∧ k.work.key = j.work.key ∧ k.work.text = j.work.text := by
  cases does with
  | nothing same =>
    rw [same]
    exact ⟨handed, rfl, rfl⟩
  | step own busy step wants =>
    obtain ⟨-, -, outcome, same⟩ := step.of_isHanded (run.left_of_isHanded here handed) handed
    rw [same, Work.key_close, Work.text_close]
    exact ⟨Work.isHanded_of_ended Work.ending?_close, rfl, rfl⟩

theorem isHanded_of_life (begun : Job.Life [] k) : k.work.isHanded = false := by
  generalize nothing : ([] : List Job.Moment) = past at begun
  cases begun with
  | migration | copying => rfl
  | move => cases List.append_ne_nil_of_right_ne_nil _ (List.cons_ne_nil _ _) nothing.symm

/-- Saves are made of final statistics, for tasks that wait until they are over. Polls that have no
answer yet look at the record. -/
structure Sound (config : Config) (v : Service) : Prop where
  run : ∃ past, Host.Run config past v.host ∧ ∀ m ∈ past, m.move.surroundings.stamp.Valid
  begun : ∀ number program, v.save? number = some program →
    ∃ j, v.host.pool.jobs[number]? = some j ∧ j.work.isHanded = true ∧
      v.records.Stage j.work.key j.work.text program
  handed : ∀ (number : Nat) (j : Job), v.host.pool.jobs[number]? = some j → j.work.isHanded = true →
    ∃ program, v.save? number = some program
  settled : ∀ (number : Nat) (j : Job) outcome, v.host.pool.jobs[number]? = some j →
    j.work.ending? = some (.ended outcome) → ∃ x, v.save? number = some (.done x)
  asked : ∀ p ∈ v.polls, p.program = v.records.reportMigration p.vm ∨
    ∃ outcome, p.program = .done outcome

theorem Sound.new (config : Config) (files : FileSystem) : (new config files).Sound config where
  run := ⟨[], .new, List.forall_mem_nil _⟩
  begun _ _ none := nomatch none
  handed _ _ none := nomatch none
  settled _ _ _ none := nomatch none
  asked := List.forall_mem_nil _

/-- A save that is looked up after a move of the host was there before, or the move has begun it. -/
theorem Sound.save?_host (sound : v.Sound config) (step : v.host.Step m h errands)
    (here : h.pool.jobs[number]? = some k) :
    ((begunSaves v.records errands ++ v.saves).lookup number = v.save? number) ∨
      v.save? number = none ∧ k.work.isHanded = true ∧
      (∃ outcome, k.work.ending? = some (.keeping outcome)) ∧
      (begunSaves v.records errands ++ v.saves).lookup number =
        some (v.records.save k.work.key k.work.json) := by
  rcases begunSaves_cases step v.records with none | ⟨own, j, l, before, after, free,
    keeping, begun⟩
  · rw [none]
    exact Or.inl rfl
  · rw [begun, List.singleton_append, save?_cons]
    split
    · next same =>
      subst same
      rw [here] at after
      cases after
      refine Or.inr ⟨?_, ?_, keeping, rfl⟩
      · cases saved : v.save? number with
        | none => rfl
        | some program =>
          obtain ⟨j', before', handed, -⟩ := sound.begun number program saved
          rw [before] at before'
          cases before'
          rw [free] at handed
          cases handed
      · obtain ⟨outcome, keeping⟩ := keeping
        rw [Work.isHanded, keeping]
    · exact Or.inl rfl

theorem records_host (step : v.host.Step m h errands)
    (saves : List (Nat × FileProgram (Except ControlError Unit))) :
    Service.records { v with host := h, saves := saves } = v.records := by
  rw [Service.records, Pool.records, step.config_eq]
  rfl

/-- A task whose statistics were handed over was there before the move. -/
theorem job_of_handed (step : v.host.Step m h errands) (there : h.pool.jobs[number]? = some k)
    (handed : k.work.isHanded = true) :
    ∃ j, v.host.pool.jobs[number]? = some j ∧ k.id = j.id ∧ m.Does errands number j k := by
  rcases step.fresh there with ⟨j, here⟩ | begun
  · obtain ⟨l, same, named, does⟩ := step.does here
    rw [there] at same
    cases same
    exact ⟨j, here, named, does⟩
  · rw [isHanded_of_life begun] at handed
    cases handed

/-- A save that was there is of a task that stays as it is, and a new one is of final statistics. -/
theorem Sound.begun_host (sound : v.Sound config) (step : v.host.Step m h errands)
    (saved : (begunSaves v.records errands ++ v.saves).lookup number = some program) :
    ∃ k, h.pool.jobs[number]? = some k ∧ k.work.isHanded = true ∧
      v.records.Stage k.work.key k.work.text program := by
  obtain ⟨past, run, -⟩ := sound.run
  have old (saved : v.save? number = some program) : ∃ k, h.pool.jobs[number]? = some k ∧
      k.work.isHanded = true ∧ v.records.Stage k.work.key k.work.text program := by
    obtain ⟨j, here, handed, stage⟩ := sound.begun number program saved
    obtain ⟨k, there, -, does⟩ := step.does here
    obtain ⟨still, key, text⟩ := handed_of_does run here handed does
    exact ⟨k, there, still, by rwa [key, text]⟩
  rcases begunSaves_cases step v.records with
    none | ⟨own, j, k, -, after, -, ⟨outcome, keeping⟩, begun⟩
  · rw [none] at saved
    exact old saved
  · rw [begun, List.singleton_append, save?_cons] at saved
    split at saved
    · next same =>
      subst same
      cases saved
      exact ⟨k, after, by rw [Work.isHanded, keeping], Records.stage_save v.records _ _⟩
    · exact old saved

/-- A task that hands over its statistics has them saved. -/
theorem Sound.handed_host (sound : v.Sound config) (step : v.host.Step m h errands)
    (there : h.pool.jobs[number]? = some k) (handed : k.work.isHanded = true) :
    ∃ program, (begunSaves v.records errands ++ v.saves).lookup number = some program := by
  obtain ⟨j, here, -, does⟩ := job_of_handed step there handed
  rcases sound.save?_host step there with same | ⟨-, -, -, begun⟩
  · rcases begunSaves_of_does does with before | ⟨-, -, begun⟩
    · obtain ⟨program, saved⟩ := sound.handed number j here (by rw [← before, handed])
      exact ⟨program, same.trans saved⟩
    · exact ⟨_, by rw [begun, List.singleton_append, save?_cons, if_pos rfl]⟩
  · exact ⟨_, begun⟩

/-- A task that ends has waited for its save. -/
theorem Sound.settled_host {outcome : Except ControlError Unit} (sound : v.Sound config)
    (waits : v.awaitsSave m = false) (step : v.host.Step m h errands)
    (there : h.pool.jobs[number]? = some k) (ended : k.work.ending? = some (.ended outcome)) :
    ∃ x, (begunSaves v.records errands ++ v.saves).lookup number = some (.done x) := by
  obtain ⟨past, run, -⟩ := sound.run
  have handed := Work.isHanded_of_ended ended
  obtain ⟨j, here, -, does⟩ := job_of_handed step there handed
  have before : j.work.isHanded = true := by
    rcases begunSaves_of_does (r := v.records) does with same | ⟨-, ⟨_, keeping⟩, -⟩
    · rw [← same, handed]
    · rw [ended] at keeping
      cases keeping
  have finished : ∃ x, v.save? number = some (.done x) := by
    cases does with
    | nothing same => exact sound.settled number j outcome here (by rw [← same, ended])
    | step own busy stepped wants =>
      obtain ⟨rfl, -, -⟩ := stepped.of_isHanded (run.left_of_isHanded here before) before
      rw [own, awaitsSave, Bool.not_eq_false', Option.any_eq_true] at waits
      obtain ⟨program, saved, done⟩ := waits
      cases program with
      | done x => exact ⟨x, saved⟩
      | ask => cases done
  obtain ⟨x, saved⟩ := finished
  rcases sound.save?_host step there with same | ⟨none, -⟩
  · exact ⟨x, same.trans saved⟩
  · rw [saved] at none
    cases none

theorem Sound.host (sound : v.Sound config) (waits : v.awaitsSave m = false)
    (valid : m.surroundings.stamp.Valid) (moved : v.host.step? m = some (h, errands)) :
    Sound config { v with host := h, saves := begunSaves v.records errands ++ v.saves } := by
  obtain ⟨past, run, dates⟩ := sound.run
  have step := Host.step?_cases moved
  refine ⟨⟨_, run.step moved, forall_mem_concat.mpr ⟨dates, valid⟩⟩, fun number program saved => ?_,
    fun number k there handed => sound.handed_host step there handed,
    fun number k outcome there ended => sound.settled_host waits step there ended, ?_⟩
  · rw [records_host step]
    exact sound.begun_host step saved
  · rw [records_host step]
    exact sound.asked

theorem Sound.save (sound : v.Sound config) (here : v.save? number = some program)
    (advanced : program.advance? v.files = some (next, files)) :
    Sound config { v with files := files, saves := (number, next) :: v.saves } := by
  refine ⟨sound.run, fun other further saved => ?_, fun other j there handed => ?_,
    fun other j outcome there ended => ?_, sound.asked⟩
  · rw [save?, save?_cons] at saved
    split at saved
    · next same =>
      subst same
      cases saved
      obtain ⟨j, there, handed, stage⟩ := sound.begun other program here
      exact ⟨j, there, handed, (stage.advance advanced).stage⟩
    · exact sound.begun other further saved
  · rw [save?, save?_cons]
    split
    · exact ⟨next, rfl⟩
    · exact sound.handed other j there handed
  · obtain ⟨x, saved⟩ := sound.settled other j outcome there ended
    rw [save?, save?_cons]
    split
    · next same =>
      subst same
      rw [here] at saved
      cases saved
      cases advanced
    · exact ⟨x, saved⟩

theorem Sound.ask (sound : v.Sound config) (vm : String) :
    Sound config { v with polls := v.polls ++ [⟨vm, v.host.pool.migrationStat vm⟩] } := by
  refine ⟨sound.run, sound.begun, sound.handed, sound.settled, fun p listed => ?_⟩
  rcases List.mem_append.mp listed with before | new
  · exact sound.asked p before
  · obtain rfl := List.mem_singleton.mp new
    obtain ⟨_, run, -⟩ := sound.run
    rcases run.sound.pool.migrationStat_cases vm with ⟨_, _, _, -, -, -, told⟩ | ⟨-, looks⟩
    · exact Or.inr ⟨_, told⟩
    · exact Or.inl looks

theorem Sound.read {poll : Nat} {p : Poll} {next : FileProgram (Except ControlError MigrationStat)}
    (sound : v.Sound config) (here : v.polls[poll]? = some p)
    (advanced : p.program.advance? v.files = some (next, files)) :
    files = v.files ∧
      Sound config
        { v with files := files, polls := v.polls.set poll { p with program := next } } := by
  have looks : p.program = v.records.reportMigration p.vm := by
    rcases sound.asked p (List.mem_of_getElem? here) with looks | ⟨outcome, told⟩
    · exact looks
    · rw [told] at advanced
      cases advanced
  rw [looks] at advanced
  obtain ⟨same, outcome, told, -⟩ := Records.advance?_reportMigration advanced
  refine ⟨same, sound.run, sound.begun, sound.handed, sound.settled, fun q listed => ?_⟩
  rcases List.mem_or_eq_of_mem_set listed with before | rfl
  · exact sound.asked q before
  · exact Or.inr ⟨outcome, told⟩

theorem Sound.step (sound : v.Sound config) (fair : v.Fair move) (step : v.Step move w) :
    w.Sound config := by
  cases step with
  | host waits moved => exact sound.host waits fair moved
  | save here advanced => exact sound.save here advanced
  | ask vm => exact sound.ask vm
  | read here advanced => exact (sound.read here advanced).2
  | outside => exact ⟨sound.run, sound.begun, sound.handed, sound.settled, sound.asked⟩

/-- What every fair move keeps lasts. -/
theorem Leads.preserves {P : Service → Prop} (leads : u.Leads v) (start : P u)
    (keeps : ∀ {v w : Service} {move : Move}, u.Leads v → v.Fair move → v.Step move w → P v → P w) :
    P v := by
  induction leads with
  | refl => exact start
  | step before fair moved ih => exact keeps before fair (step?_cases moved) ih

theorem Leads.sound (leads : u.Leads v) (sound : u.Sound config) : v.Sound config :=
  leads.preserves sound fun _ fair step sound => sound.step fair step

end Service

end VmControl
