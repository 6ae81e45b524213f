import VmControl.Pool.Cancel
import VmControl.Proofs.Migration.Course

/-!
# What a task keeps

Whatever happens to a task that was started, it keeps its identifier, it does not come back to
progress, and whoever was released stays released (`Job.Becomes`). In particular the identifier
names what its run works on, nobody is released before the run has left off, and the run leaves off
only with an outcome (`Job.Sound`).
-/

namespace VmControl

/-- The identifier that names what a run works on. -/
def Work.id : Work → TaskId
  | .migration r => .migration r.vm
  | .copying r => .diskCopying r.disk.path r.vm

/-! ## Runs -/

/-- A step of a migration does not change what is to be done. -/
theorem MigrationRun.plan_of_step? {r r' : MigrationRun} {s : Surroundings} {cancelled : Bool}
    {x : Stimulus} {effects : List Effect} (h : r.step? s cancelled x = some (r', effects)) :
    r'.plan = r.plan := by
  rcases step?_cases h with ⟨_, _, -, act⟩ | ⟨_, -, -, rfl, -⟩ | ⟨_, _, -, -, rfl, -, -⟩
  · exact act.plan
  · rfl
  · rfl

namespace CopyRun

variable {r r' : CopyRun} {s : Surroundings} {cancelled : Bool}

theorem onStarted_plan (j : CopyJob) (answer : Except ControlError Json) :
    (r.onStarted s cancelled j answer).1.plan = r.plan := by
  cases answer with
  | error e => rfl
  | ok reply =>
    simp only [onStarted]
    split
    · rfl
    · next outcome _ => cases outcome <;> rfl

theorem onListing_plan (j : CopyJob) (reply : Except ControlError Json) :
    (r.onListing s j reply).1.plan = r.plan := by
  unfold onListing
  split
  · rfl
  · split
    · split <;> rfl
    · rfl

theorem act?_plan {h : Happening} {st : CopyStep} (act : r.act? s cancelled h = some st) :
    st.1.plan = r.plan := by
  unfold act? at act
  split at act
  · obtain rfl := Option.some.inj act
    rfl
  · next answer _ =>
    obtain rfl := Option.some.inj act
    cases answer <;> rfl
  · obtain rfl := Option.some.inj act
    exact onStarted_plan _ _
  · obtain ⟨result, _, rfl⟩ := Option.map_eq_some_iff.mp act
    rcases result with a | outcome
    · rfl
    · cases outcome <;> rfl
  · obtain rfl := Option.some.inj act
    exact onListing_plan _ _
  · obtain ⟨outcome, _, rfl⟩ := Option.map_eq_some_iff.mp act
    cases outcome <;> rfl
  · obtain rfl := Option.some.inj act
    rfl
  · cases act

/-- A step of a copy does not change what is to be done. -/
theorem plan_of_step? {x : Stimulus} {effects : List Effect}
    (h : r.step? s cancelled x = some (r', effects)) : r'.plan = r.plan := by
  cases x with
  | act part happening =>
    cases part with
    | course => exact act?_plan h
    | leg | watch | transfer => cases h
  | fold =>
    obtain ⟨account, _, same⟩ := Option.map_eq_some_iff.mp h
    cases same
    rfl
  | persist | kept =>
    simp only [step?] at h
    split at h
    · obtain ⟨_, _, same⟩ := Option.map_eq_some_iff.mp h
      cases same
      rfl
    · cases h

end CopyRun

/-- A step of a run does not change what it works on. -/
theorem Work.id_of_step? {w w' : Work} {s : Surroundings} {cancelled : Bool} {x : Stimulus}
    {effects : List Effect} (h : w.step? s cancelled x = some (w', effects)) : w'.id = w.id := by
  cases w with
  | migration r =>
    obtain ⟨⟨r', _⟩, stepped, same⟩ := Option.map_eq_some_iff.mp h
    cases same
    simp only [id, MigrationRun.vm, MigrationRun.plan_of_step? stepped]
  | copying r =>
    obtain ⟨⟨r', _⟩, stepped, same⟩ := Option.map_eq_some_iff.mp h
    cases same
    simp only [id, CopyRun.vm, CopyRun.disk, CopyRun.plan_of_step? stepped]

/-! ## Tasks -/

namespace Job

variable {j k : Job}

/-- A task may have become another one. -/
structure Becomes (j k : Job) : Prop where
  id : k.id = j.id
  work : k.work.id = j.work.id
  inProgress : k.inProgress = true → j.inProgress = true
  released : j.isReleased = true → k.isReleased = true

/-- The identifier names the work, nobody is released while the task is in progress, and it leaves
off only with the outcome of its run. -/
structure Sound (j : Job) : Prop where
  own : j.id = j.work.id
  idle : j.isReleased = true → j.inProgress = false
  ended : j.inProgress = false → ∃ outcome, j.work.outcome? = some outcome

theorem Becomes.refl (j : Job) : j.Becomes j := ⟨rfl, rfl, fun busy => busy, fun out => out⟩

theorem isReleased_iff : j.isReleased = true ↔ onlyRun ∈ j.task.released := by
  simp [isReleased, Task.isReleased, onlyRun]

/-- What a step makes of a task: its run goes on, it leaves off, or its waiters are released. -/
theorem step?_cases {s : Surroundings} {x : JobStimulus} {effects : List Effect}
    (h : j.step? s x = some (k, effects)) :
    (∃ y work, x = .work y ∧ j.inProgress = true ∧
      j.work.step? s j.task.isCancelled y = some (work, effects) ∧ k = { j with work := work }) ∨
    (∃ outcome, x = .finish ∧ j.work.outcome? = some outcome ∧ j.inProgress = true ∧
      k = { j with task := j.task.finish (failure? outcome) } ∧ effects = []) ∨
    (x = .release ∧ j.inProgress = false ∧ k = { j with task := j.task.release onlyRun } ∧
      effects = []) := by
  cases x with
  | work y =>
    simp only [step?] at h
    split at h
    · next busy =>
      obtain ⟨⟨work, _⟩, stepped, same⟩ := Option.map_eq_some_iff.mp h
      cases same
      exact Or.inl ⟨y, work, rfl, busy, stepped, rfl⟩
    · cases h
  | finish =>
    simp only [step?] at h
    split at h
    · next outcome ended =>
      split at h
      · next busy =>
        cases h
        exact Or.inr (Or.inl ⟨outcome, rfl, ended, busy, rfl, rfl⟩)
      · cases h
    · cases h
  | release =>
    simp only [step?] at h
    split at h
    · next free =>
      cases h
      simp only [Bool.and_eq_true, Bool.not_eq_true'] at free
      exact Or.inr (Or.inr ⟨rfl, free.1, rfl, rfl⟩)
    · cases h

theorem Becomes.of_step? {s : Surroundings} {x : JobStimulus} {effects : List Effect}
    (h : j.step? s x = some (k, effects)) : j.Becomes k := by
  rcases step?_cases h with ⟨_, _, -, -, stepped, rfl⟩ | ⟨_, -, -, busy, rfl, -⟩ | ⟨-, -, rfl, -⟩
  · exact ⟨rfl, Work.id_of_step? stepped, fun busy => busy, fun out => out⟩
  · exact ⟨rfl, rfl, fun _ => busy, fun out => out⟩
  · refine ⟨rfl, rfl, fun busy => busy, fun out => isReleased_iff.mpr ?_⟩
    exact List.mem_cons_of_mem _ (isReleased_iff.mp out)

theorem Sound.of_step? {s : Surroundings} {x : JobStimulus} {effects : List Effect}
    (sound : j.Sound) (h : j.step? s x = some (k, effects)) : k.Sound := by
  have becomes := Becomes.of_step? h
  refine ⟨by rw [becomes.id, becomes.work, sound.own], ?_, ?_⟩
  · rcases step?_cases h with ⟨_, _, -, -, -, rfl⟩ | ⟨_, -, -, -, rfl, -⟩ | ⟨-, free, rfl, -⟩
    · exact sound.idle
    · exact fun _ => rfl
    · exact fun _ => free
  · rcases step?_cases h with ⟨_, _, -, busy, -, rfl⟩ | ⟨_, -, ended, -, rfl, -⟩ | ⟨-, free, rfl, -⟩
    · intro free
      rw [inProgress] at busy free
      rw [busy] at free
      cases free
    · exact fun _ => ⟨_, ended⟩
    · exact fun _ => sound.ended free

/-- A task that is told to stop stays what it is. -/
theorem cancel?_eq_some {task : Task} (fired : j.task.cancel? = some task) :
    j.inProgress = true ∧ task = { j.task with token := some true } := by
  unfold Task.cancel? at fired
  split at fired
  · next token =>
    cases fired
    exact ⟨by simp [inProgress, Task.inProgress, token], rfl⟩
  · cases fired

theorem Becomes.of_cancel? {task : Task} (fired : j.task.cancel? = some task) :
    j.Becomes { j with task := task } := by
  obtain ⟨busy, rfl⟩ := cancel?_eq_some fired
  exact ⟨rfl, rfl, fun _ => busy, fun out => out⟩

theorem Sound.of_cancel? {task : Task} (sound : j.Sound) (fired : j.task.cancel? = some task) :
    Sound { j with task := task } := by
  obtain ⟨busy, rfl⟩ := cancel?_eq_some fired
  refine ⟨sound.own, fun out => ?_, nofun⟩
  have free : j.inProgress = false := sound.idle out
  rw [busy] at free
  cases free

theorem sound_migration (o : MigrationOptions) (config : Config) (stamp : Timestamp) :
    (migration o config stamp).Sound := ⟨rfl, nofun, nofun⟩

theorem sound_copying (o : CopyOptions) (config : Config) (stamp : Timestamp) :
    (copying o config stamp).Sound := ⟨rfl, nofun, nofun⟩

end Job

end VmControl
