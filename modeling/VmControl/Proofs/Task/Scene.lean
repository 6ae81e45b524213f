import Mathlib.Logic.Function.Basic
import VmControl.Proofs.Copy.Backlog
import VmControl.Proofs.Migration.Backlog
import VmControl.Proofs.Task.Snapshots

/-!
# A task among what surrounds it

A scene is a task with its clocks, its connections and their logs. It changes with what befalls the
task and with what happens around it: events come, logs are closed, time passes, machines come and
go.

* `Scene.step?`: one move. The clock never goes backwards.
* `Scene.Echoes`: a scene with older events in its logs, next to the scene without them. Both take
  the same moves, and remain so (`Scene.Echoes.step?`).
* `Opening.backlog_without_effect`: nothing that was recorded before a task was started changes what
  can be seen of the task.
-/

namespace VmControl

/-! ## Tasks over older events -/

namespace Work

/-- The same run over logs that have changed more often. -/
def shift (more : Nat → Nat) : Work → Work
  | .migration r => .migration (r.shift more)
  | .copying r => .copying (r.shift more)

/-- A run looks for nothing that is older than a moment. -/
def Since (start : Timestamp) : Work → Prop
  | .migration r => r.Since start
  | .copying r => r.Since start

variable {start : Timestamp} {more : Nat → Nat} {s : Surroundings} {logs : Nat → EventLog}
  {cancelled : Bool} {w : Work}

theorem shift_snapshot : (w.shift more).snapshot = w.snapshot := by
  cases w <;> rfl

theorem shift_outcome? : (w.shift more).outcome? = w.outcome? := by
  cases w with
  | migration r => exact r.shift_outcome?
  | copying r => exact r.shift_outcome?

/-- A run of either kind takes the same steps over older events. -/
theorem step?_over (overlain : s.Overlain start more logs) (since : w.Since start) (x : Stimulus) :
    Option.Rel (fun full bare => full = (bare.1.shift more, bare.2) ∧ bare.1.Since start)
      ((w.shift more).step? (s.over logs) cancelled x) (w.step? s cancelled x) := by
  cases w with
  | migration r =>
    refine rel_map (r.step?_over overlain since x) fun _ next echoes => ?_
    obtain ⟨rfl, young⟩ := echoes
    exact ⟨rfl, young⟩
  | copying r =>
    refine rel_map (r.step?_over overlain since x) fun _ next echoes => ?_
    obtain ⟨rfl, young⟩ := echoes
    exact ⟨rfl, young⟩

end Work

namespace Job

/-- The same task over logs that have changed more often. -/
def shift (more : Nat → Nat) (j : Job) : Job := { j with work := j.work.shift more }

variable {start : Timestamp} {more : Nat → Nat} {s : Surroundings} {logs : Nat → EventLog} {j : Job}

/-- A task takes the same steps over older events. -/
theorem step?_over (overlain : s.Overlain start more logs) (since : j.work.Since start)
    (x : JobStimulus) :
    Option.Rel (fun full bare => full = (bare.1.shift more, bare.2) ∧ bare.1.work.Since start)
      ((j.shift more).step? (s.over logs) x) (j.step? s x) := by
  have busy : (j.shift more).inProgress = j.inProgress := rfl
  have free : (j.shift more).isReleased = j.isReleased := rfl
  cases x with
  | work x =>
    simp only [step?, busy]
    split
    · refine rel_map (j.work.step?_over overlain since x) fun _ next echoes => ?_
      obtain ⟨rfl, young⟩ := echoes
      exact ⟨rfl, young⟩
    · exact .none
  | finish =>
    have outcome : (j.shift more).work.outcome? = j.work.outcome? := Work.shift_outcome?
    simp only [step?, busy, outcome]
    cases j.work.outcome? with
    | none => exact .none
    | some outcome =>
      dsimp only
      split
      · exact .some ⟨rfl, since⟩
      · exact .none
  | release =>
    simp only [step?, busy, free]
    split
    · exact .some ⟨rfl, since⟩
    · exact .none

end Job

/-! ## Scenes -/

namespace Surroundings

variable {start : Timestamp} {more : Nat → Nat} {s : Surroundings} {logs : Nat → EventLog}

/-- The moment after a change of one log. -/
def changeLog (s : Surroundings) (connection : Nat) (change : EventLog → EventLog) : Surroundings :=
  { s with log := Function.update s.log connection (change (s.log connection)) }

/-- The moment after some milliseconds, with the clock at a stamp. The clock never goes
backwards. -/
def pass? (s : Surroundings) (ms : Nat) (stamp : Timestamp) : Option Surroundings :=
  if s.stamp ≤ stamp then some { s with now := s.now + ms, stamp := stamp } else none

/-- The moment with other connections. -/
def connect (s : Surroundings) (registry : Registry) : Surroundings :=
  { s with registry := registry }

theorem Overlain.changeLog {change : EventLog → EventLog} (overlain : s.Overlain start more logs)
    (connection : Nat) (keeps : ∀ {m : Nat} {full bare : EventLog}, full.Overlies start m bare →
      (change full).Overlies start m (change bare)) :
    (s.changeLog connection change).Overlain start more
      (Function.update logs connection (change (logs connection))) := by
  refine ⟨overlain.young, fun other => ?_⟩
  simp only [Surroundings.changeLog]
  by_cases same : other = connection
  · cases same
    rw [Function.update_self, Function.update_self]
    exact keeps (overlain.logs connection)
  · rw [Function.update_of_ne same, Function.update_of_ne same]
    exact overlain.logs other

theorem Overlain.pass? {ms : Nat} {stamp : Timestamp} (overlain : s.Overlain start more logs) :
    Option.Rel (fun full bare => full = bare.over logs ∧ bare.Overlain start more logs)
      ((s.over logs).pass? ms stamp) (s.pass? ms stamp) := by
  rw [Surroundings.pass?, Surroundings.pass?, over_stamp]
  split
  · next later => exact .some ⟨rfl, Timestamp.le_trans overlain.young later, overlain.logs⟩
  · exact .none

theorem Overlain.connect {registry : Registry} (overlain : s.Overlain start more logs) :
    (s.connect registry).Overlain start more logs :=
  ⟨overlain.young, overlain.logs⟩

end Surroundings

/-- A task and what surrounds it. -/
structure Scene where
  job : Job
  around : Surroundings

/-- What can be seen of a task after a move. -/
structure Glimpse where
  /-- What the move wants done. -/
  effects : List Effect
  snapshot : Snapshot
  /-- The outcome of the run, if it has ended. -/
  outcome? : Option (Except ControlError Unit)
  task : Task

namespace Scene

inductive Move where
  /-- The operator cancels the task. -/
  | cancel
  | act (x : JobStimulus)
  /-- A connection has told of an event. -/
  | hear (connection : Nat) (e : Event)
  /-- A connection is lost. -/
  | lose (connection : Nat)
  | pass (ms : Nat) (stamp : Timestamp)
  | register (vm : String) (connection : Nat)
  | unregister (vm : String)

/-- The scene after a move and what the task wants done, if the move can be made now. -/
def step? (c : Scene) : Move → Option (Scene × List Effect)
  | .cancel => (c.job.move? .cancel).map fun (job, effects) => (⟨job, c.around⟩, effects)
  | .act x => (c.job.move? (.step c.around x)).map fun (job, effects) => (⟨job, c.around⟩, effects)
  | .hear connection e => some (⟨c.job, c.around.changeLog connection (·.push e)⟩, [])
  | .lose connection => some (⟨c.job, c.around.changeLog connection (·.close)⟩, [])
  | .pass ms stamp => (c.around.pass? ms stamp).map fun around => (⟨c.job, around⟩, [])
  | .register vm connection =>
    some (⟨c.job, c.around.connect (c.around.registry.register vm connection)⟩, [])
  | .unregister vm => some (⟨c.job, c.around.connect (c.around.registry.unregister vm)⟩, [])

def glimpse (c : Scene) (effects : List Effect) : Glimpse :=
  ⟨effects, c.job.work.snapshot, c.job.work.outcome?, c.job.task⟩

/-- What can be seen of a task that is led through moves, if all of them can be made. -/
def watch? (c : Scene) : List Move → Option (List Glimpse)
  | [] => some []
  | move :: rest =>
    match c.step? move with
    | none => none
    | some (next, effects) => (next.watch? rest).map (next.glimpse effects :: ·)

/-- A scene with older events in its logs, next to the scene without them. -/
inductive Echoes (start : Timestamp) (more : Nat → Nat) : Scene → Scene → Prop
  | intro {j : Job} {s : Surroundings} {logs : Nat → EventLog}
      (overlain : s.Overlain start more logs)
      (since : j.work.Since start) : Echoes start more ⟨j.shift more, s.over logs⟩ ⟨j, s⟩

namespace Echoes

variable {start : Timestamp} {more : Nat → Nat} {full bare : Scene}

/-- Both scenes take the same moves. -/
theorem step? (echoes : Echoes start more full bare) (move : Move) :
    Option.Rel (fun full bare => Echoes start more full.1 bare.1 ∧ full.2 = bare.2)
      (full.step? move) (bare.step? move) := by
  obtain @⟨j, s, logs, overlain, since⟩ := echoes
  cases move with
  | cancel =>
    simp only [Scene.step?, Job.move?, Option.map_map]
    refine rel_map rel_eq fun task _ same => ?_
    cases same
    exact ⟨.intro (j := { j with task := task }) overlain since, rfl⟩
  | act x =>
    refine rel_map (j.step?_over overlain since x) fun _ next same => ?_
    obtain ⟨rfl, young⟩ := same
    exact ⟨.intro (j := next.1) overlain young, rfl⟩
  | hear connection e =>
    have next := Echoes.intro (overlain.changeLog connection fun overlies => overlies.push e) since
    exact .some ⟨next, rfl⟩
  | lose connection =>
    have next := Echoes.intro (overlain.changeLog connection fun overlies => overlies.close) since
    exact .some ⟨next, rfl⟩
  | pass ms stamp =>
    refine rel_map overlain.pass? fun _ next same => ?_
    obtain ⟨rfl, later⟩ := same
    exact ⟨.intro later since, rfl⟩
  | register vm connection => exact .some ⟨.intro overlain.connect since, rfl⟩
  | unregister vm => exact .some ⟨.intro overlain.connect since, rfl⟩

theorem glimpse (echoes : Echoes start more full bare) (effects : List Effect) :
    full.glimpse effects = bare.glimpse effects := by
  cases echoes
  simp only [Scene.glimpse, Job.shift, Work.shift_snapshot, Work.shift_outcome?]

theorem watch? {moves : List Move} : ∀ {full bare : Scene}, Echoes start more full bare →
    full.watch? moves = bare.watch? moves := by
  induction moves with
  | nil => exact fun _ => rfl
  | cons move rest ih =>
    intro full bare echoes
    rw [Scene.watch?, Scene.watch?]
    -- either neither scene can make the move, or both go on alike
    have stepped := echoes.step? move
    generalize full.step? move = fullStep at stepped
    generalize bare.step? move = bareStep at stepped
    cases stepped with
    | none => rfl
    | some same =>
      obtain ⟨next, effects⟩ := same
      simp only [effects, ih next, next.glimpse]

end Echoes

end Scene

/-! ## The start of a task -/

/-- What a task is to do. -/
inductive Assignment where
  | migration (o : MigrationOptions)
  | copying (o : CopyOptions)

def Assignment.job (config : Config) (stamp : Timestamp) : Assignment → Job
  | .migration o => .migration o config stamp
  | .copying o => .copying o config stamp

/-- The moment at which a task is started. -/
structure Opening where
  now : Nat
  stamp : Timestamp
  registry : Registry
  /-- What the log of each connection has seen before. -/
  backlog : Nat → Backlog

namespace Opening

def around (o : Opening) : Surroundings :=
  ⟨o.now, o.stamp, o.registry, fun connection => (o.backlog connection).log⟩

def scene (o : Opening) (config : Config) (a : Assignment) : Scene :=
  ⟨a.job config o.stamp, o.around⟩

/-- The same moment with empty logs. -/
def cleared (o : Opening) : Opening :=
  { o with backlog := fun connection => (o.backlog connection).cleared }

variable {o : Opening}

theorem echoes {config : Config} {a : Assignment}
    (stale : ∀ connection, ∀ e ∈ (o.backlog connection).events, e.timestamp < o.stamp) :
    Scene.Echoes o.stamp (fun connection => (o.backlog connection).events.length) (o.scene config a)
      (o.cleared.scene config a) := by
  have overlain : o.cleared.around.Overlain o.stamp
      (fun connection => (o.backlog connection).events.length)
      fun connection => (o.backlog connection).log :=
    ⟨Timestamp.le_refl, fun connection => Backlog.overlies (stale connection)⟩
  cases a with
  | migration options => exact .intro (j := .migration options config o.stamp) overlain trivial
  | copying options => exact .intro (j := .copying options config o.stamp) overlain trivial

/-- Whatever the logs have seen before a task is started, and however few events they keep: what the
task wants done, its statistics, its outcome and its life are the same as with empty logs. -/
theorem backlog_without_effect (config : Config) (a : Assignment)
    (stale : ∀ connection, ∀ e ∈ (o.backlog connection).events, e.timestamp < o.stamp)
    (moves : List Scene.Move) :
    (o.scene config a).watch? moves = (o.cleared.scene config a).watch? moves :=
  (echoes stale).watch?

end Opening

namespace Sample

/-- What is told of the job of an earlier copy, which ran and failed. -/
def earlierEvents : List Event :=
  [⟨Event.jobStatusChange, .obj [("id", .str disk.copyJob), ("status", .str "running")], ⟨50, 0⟩⟩,
    ⟨Event.blockJobError, .obj [("device", .str disk.copyJob), ("operation", .str "write")],
      ⟨60, 0⟩⟩,
    ⟨Event.blockJobCompleted, .obj [("device", .str disk.copyJob), ("error", .str "no space")],
      ⟨99, 0⟩⟩]

/-- The log of the machine keeps two events and has seen those of the earlier copy. -/
def secondCopy : Opening where
  now := 0
  stamp := ⟨100, 0⟩
  registry := Registry.empty.register "web" 0
  backlog _ := ⟨2, earlierEvents, false⟩

/-- The job of the second copy is told to run, and is gone when it is first asked for. -/
def secondCopyMoves : List Scene.Move :=
  [.act (.work (.act .course .enter)),
    .act (.work (.act .course (.prepared (.ok ⟨"/backup/root", false, none⟩)))),
    .pass 10 ⟨100, 10⟩,
    .act (.work (.act .course (.reply (.ok .null)))),
    .hear 0 ⟨Event.jobStatusChange, .obj [("id", .str disk.copyJob), ("status", .str "running")],
      ⟨100, 20⟩⟩,
    .act (.work (.act .course (.wake .notice))),
    .act (.work (.act .course (.reply (.ok (.arr []))))),
    .act (.work .fold), .act (.work .fold), .act (.work .fold), .act (.work .persist),
    .act (.work .kept), .act .finish]

theorem earlierEvents_stale : ∀ e ∈ earlierEvents, e.timestamp < secondCopy.stamp := by
  decide

/-- The second copy succeeds, whatever is still in the log of the earlier one. -/
theorem secondCopy_succeeds :
    (((secondCopy.scene .default (.copying copying)).watch? secondCopyMoves).bind
      (·.getLast?)).map (fun last => (last.outcome?, last.snapshot.status, last.task.inProgress)) =
        some (some (.ok ()), .completed, false) ∧
    (secondCopy.scene .default (.copying copying)).watch? secondCopyMoves =
      (secondCopy.cleared.scene .default (.copying copying)).watch? secondCopyMoves :=
  ⟨rfl, secondCopy.backlog_without_effect .default (.copying copying) (fun _ => earlierEvents_stale)
    secondCopyMoves⟩

end Sample

end VmControl
