import VmControl.Proofs.Migration.Course
import VmControl.Proofs.Replay

/-!
# Courses from given moments

A run may be led through given moments, with surroundings and something that happens for each of
them. If every one of them can happen, the result is a course (`Course.of_replay?`).
-/

namespace VmControl

/-- Leads a run through moments at which the operator has or has not cancelled. -/
def MigrationRun.replay? (r : MigrationRun) (cancelled : Bool)
    (moments : List (Surroundings × Stimulus)) : Option (History × MigrationRun) :=
  VmControl.replay? (fun r (s, x) => r.step? s cancelled x) Prod.fst
    (fun _ (s, x) (_, effects) => [⟨s, cancelled, x, effects⟩]) r moments

/-- A migration that can be led through moments from its beginning takes that course. -/
theorem Course.of_replay? {plan : MigrationPlan} {stamp : Timestamp}
    {moments : List (Surroundings × Stimulus)}
    (replayable : ((MigrationRun.new plan stamp).replay? false moments).isSome) :
    Course plan (Option.get _ replayable).1 false (Option.get _ replayable).2 := by
  refine holds_of_replay? (R := fun past r => Course plan past false r) ?_ ?_ replayable
  · exact .new stamp
  · intro _ _ _ _ _ course stepped
    exact course.step stepped

namespace Sample

def disk : Disk := ⟨"/dev/vg/root", "drive0", .localStorage, 4096, []⟩

/-- The migration of a machine with that disk. -/
def plan : MigrationPlan where
  options :=
    { vmName := "web"
      dstServer := "backup"
      dstAddrs := [.v4 10 0 0 2]
      manifest := []
      extraFiles := .empty
      disks := [disk]
      overrides := .none }
  config := .default

/-- The machine is on its first connection, which has told of the start and the end of the
mirror. -/
def surroundings (now : Nat) : Surroundings where
  now := now
  stamp := ⟨100, 0⟩
  registry := Registry.empty.register "web" 0
  log _ := ⟨16,
    [⟨Event.jobStatusChange, .obj [("id", .str disk.mirrorJob), ("status", .str "running")],
      ⟨100, 1⟩⟩,
     ⟨Event.blockJobCompleted, .obj [("device", .str disk.mirrorJob)], ⟨100, 2⟩⟩], false, 2⟩

/-- A listing in which the mirror is ready. -/
def listing : Json :=
  .arr [.obj [("device", .str disk.mirrorJob), ("len", .nat 4096), ("offset", .nat 4096),
    ("ready", .bool true), ("status", .str "ready")]]

/-- What happens in a migration in which everything goes well, up to the end of the machine here. -/
def moments : List (Surroundings × Stimulus) :=
  [(surroundings 0, .act .course .enter),
    (surroundings 0, .act .course (.answer (.ok (.port 4444)))),
    (surroundings 0, .act .course (.answer (.ok (.port 10809)))),
    (surroundings 0, .act (.leg 0) .enter),
    (surroundings 0, .act (.leg 0) (.reply (.ok .null))),
    (surroundings 0, .act (.leg 0) (.reply (.ok listing))),
    (surroundings 0, .act .transfer .enter),
    (surroundings 0, .act .watch (.reply (.ok listing))),
    (surroundings 0, .act .transfer (.reply (.ok .null))),
    (surroundings 0, .act .transfer (.reply (.ok .null))),
    (surroundings 0, .act .transfer (.reply (.ok .null))),
    (surroundings 5000, .act .transfer (.wake .elapse)),
    (surroundings 5000, .act .transfer (.reply (.ok (.obj [("status", .str "completed")])))),
    (surroundings 5000, .act .watch .enter),
    (surroundings 5000, .act (.leg 0) .enter),
    (surroundings 5000, .act (.leg 0) (.reply (.ok .null))),
    (surroundings 5000, .act .course (.answer (.ok .done))),
    (surroundings 5000, .act .course (.answer (.ok .done)))]

/-- The migration before it has begun. -/
def start : MigrationRun := .new plan ⟨100, 0⟩

theorem replayable : (start.replay? false moments).isSome = true := rfl

/-- The history of that migration and how far it has come. -/
def played : History × MigrationRun := (start.replay? false moments).get replayable

theorem course : Course plan played.1 false played.2 := .of_replay? replayable

end Sample

end VmControl
