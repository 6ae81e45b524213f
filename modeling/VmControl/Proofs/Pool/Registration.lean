import VmControl.Pool.Start
import VmControl.Proofs.Pool.Jobs

/-!
# Tasks in progress and the table

What stands in the way of a task is said by the identifiers alone (`TaskId.Conflicts`): of a
migration, every task whose object or owner is the machine; of a copy, the migration of its machine
and every copy of its disk.

* `Pool.Sound` is the invariant of the tasks of a host. It ties the table to the tasks in progress,
  so that a search of the table finds all of them, and it says that no task has started in spite of
  another one in progress.
* `Pool.Attempt` is what comes of an attempt to start a task: it is started exactly if nothing in
  progress stands in its way. `Pool.Sound.register` and `Pool.Sound.startCopying` show that the two
  operations are such attempts.
* `Pool.Sound.start`, `Pool.Sound.setJob` and `Pool.Sound.unregister`: what can be done to the tasks
  of a host keeps the invariant.
-/

namespace VmControl

/-- A task is about a machine, be it as the object or as the owner. -/
def TaskId.Involves (id : TaskId) (vm : String) : Prop := id.object = vm ∨ id.owner = some vm

theorem TaskId.involves_iff {id : TaskId} {vm : String} :
    id.involves vm = true ↔ id.Involves vm := by
  rw [involves, Bool.or_eq_true, decide_eq_true_eq, decide_eq_true_eq, Involves]

/-- A task, if it wanted to start, would find another one in its way. A migration finds whatever
involves its machine. -/
inductive TaskId.Conflicts : TaskId → TaskId → Prop
  | involved {vm : String} {id : TaskId} (involves : id.Involves vm) :
      Conflicts (.migration vm) id
  | migrated (disk vm : String) : Conflicts (.diskCopying disk vm) (.migration vm)
  | copied (disk vm vm' : String) : Conflicts (.diskCopying disk vm) (.diskCopying disk vm')

namespace TaskTable

variable {t : TaskTable} {id : TaskId} {number : Nat} {entry : TaskId × Nat}

theorem mem_of_get? (h : t.get? id = some number) : (id, number) ∈ t.entries := by
  obtain ⟨before, after, split, -⟩ := List.lookup_eq_some_iff.mp h
  rw [split]
  exact List.mem_append_right _ List.mem_cons_self

theorem mem_place {first : TaskId × Nat} {entries : List (TaskId × Nat)}
    (h : entry ∈ place first entries) : entry = first ∨ entry ∈ entries := by
  induction entries with
  | nil => exact Or.inl (List.mem_singleton.mp h)
  | cons other rest ih =>
    rw [place] at h
    split at h
    · exact List.mem_cons.mp h
    · rcases List.mem_cons.mp h with rfl | h
      · exact Or.inr List.mem_cons_self
      · exact (ih h).imp_right (List.mem_cons_of_mem _)

theorem mem_insert (h : entry ∈ (t.insert id number).entries) :
    entry = (id, number) ∨ entry ∈ t.entries :=
  (mem_place h).imp_right fun kept => (List.mem_filter.mp kept).1

theorem mem_release (h : entry ∈ (t.release id number).entries) : entry ∈ t.entries := by
  unfold release at h
  split at h
  · exact (List.mem_filter.mp h).1
  · exact h

end TaskTable

namespace Pool

/-! ## What stands in the way -/

theorem blocksMigration_iff {vm : String} {id : TaskId} :
    blocksMigration vm id = true ↔ (TaskId.migration vm).Conflicts id := by
  rw [blocksMigration, TaskId.involves_iff]
  constructor
  · exact TaskId.Conflicts.involved
  · intro conflicts
    cases conflicts with
    | involved involves => exact involves

theorem blocksCopying_iff {disk vm : String} {w : Work} :
    blocksCopying disk vm w.id = true ↔ (TaskId.diskCopying disk vm).Conflicts w.id := by
  constructor
  · intro blocks
    cases w with
    | migration r =>
      obtain rfl : r.vm = vm := of_decide_eq_true blocks
      exact .migrated disk r.vm
    | copying r =>
      obtain rfl : r.disk.path = disk := of_decide_eq_true blocks
      exact .copied r.disk.path vm r.vm
  · intro conflicts
    cases w <;> cases conflicts <;>
      simp [blocksCopying, Work.id, TaskId.migration, TaskId.diskCopying]

/-- A task stands in its own way. -/
theorem conflicts_self (w : Work) : w.id.Conflicts w.id := by
  cases w with
  | migration r => exact .involved (Or.inl rfl)
  | copying r => exact .copied _ _ _

variable {p q : Pool} {number : Nat} {j k : Job} {task : FoundTask}

/-- A task is in progress. -/
def AtWork (p : Pool) (number : Nat) (j : Job) : Prop :=
  p.jobs[number]? = some j ∧ j.inProgress = true

/-- A registered task is in progress and stands in the way of another one. -/
structure Blocks (p : Pool) (wanted : TaskId) (number : Nat) (j : Job) : Prop where
  found : p.find? j.id = some (number, j)
  inProgress : j.inProgress = true
  conflicts : wanted.Conflicts j.id

/-- What comes of an attempt to start a task: it is started if nothing in progress stands in its
way, and otherwise refused in the name of a registered task that is in progress and does. -/
inductive Attempt (p : Pool) (j : Job) : Except ControlError Unit → Pool → Prop
  | started (free : ∀ number k, p.AtWork number k → ¬ j.id.Conflicts k.id) :
      Attempt p j (.ok ()) (p.start j)
  | refused {number : Nat} {k : Job} (blocks : p.Blocks j.id number k) :
      Attempt p j (.error (.alreadyRunning k.id.kind k.id.object k.id.owner)) p

theorem isBusy_iff : p.isBusy number = true ↔ ∃ j, p.AtWork number j :=
  Option.any_eq_true ..

/-! ## Tasks are kept -/

/-- Every task is still there, and may have gone on. -/
def Grows (p q : Pool) : Prop :=
  ∀ (number : Nat) (j : Job), p.jobs[number]? = some j →
    ∃ k, q.jobs[number]? = some k ∧ j.Becomes k

/-- There is such a task. -/
def Holds (p : Pool) (task : FoundTask) : Prop :=
  ∃ j, p.jobs[task.2]? = some j ∧ j.id = task.1

theorem jobs_start_of_jobs (here : p.jobs[number]? = some k) :
    (p.start j).jobs[number]? = some k := by
  rw [start, List.getElem?_append_left (List.getElem?_eq_some_iff.mp here).1, here]

theorem jobs_of_jobs_start (here : (p.start j).jobs[number]? = some k) :
    p.jobs[number]? = some k ∨ number = p.jobs.length ∧ k = j := by
  rw [start, List.getElem?_append] at here
  split at here
  · exact Or.inl here
  · next high =>
    obtain ⟨low, same⟩ := List.getElem?_eq_some_iff.mp here
    rw [List.length_singleton] at low
    exact Or.inr ⟨by omega, by simpa using same.symm⟩

theorem Grows.refl (p : Pool) : p.Grows p := fun _ j here => ⟨j, here, .refl j⟩

theorem Grows.start (p : Pool) (j : Job) : p.Grows (p.start j) :=
  fun _ k here => ⟨k, jobs_start_of_jobs here, .refl k⟩

theorem Grows.setJob (here : p.jobs[number]? = some j) (becomes : j.Becomes k) :
    p.Grows (p.setJob number k) := by
  intro other l there
  by_cases same : other = number
  · subst same
    rw [here] at there
    cases there
    exact ⟨k, List.getElem?_set_self (List.getElem?_eq_some_iff.mp here).1, becomes⟩
  · exact ⟨l, (List.getElem?_set_ne (Ne.symm same)).trans there, .refl l⟩

theorem Holds.grow (holds : p.Holds task) (grows : p.Grows q) : q.Holds task := by
  obtain ⟨j, here, named⟩ := holds
  obtain ⟨k, there, becomes⟩ := grows task.2 j here
  exact ⟨k, there, becomes.id.trans named⟩

/-! ## The invariant -/

/-- The table holds what it should, above all every task in progress, and no task was started while
another one was in its way. -/
structure Sound (p : Pool) : Prop where
  jobs : ∀ (number : Nat) (j : Job), p.jobs[number]? = some j → j.Sound
  entered : ∀ task ∈ p.table.entries, p.Holds task
  registered : ∀ number j, p.AtWork number j → p.table.get? j.id = some number
  apart : ∀ first second j k, first < second → p.AtWork first j → p.AtWork second k →
    ¬ k.id.Conflicts j.id

theorem Sound.new (config : Config) : (new config).Sound where
  jobs _ _ here := by cases here
  entered _ listed := by cases listed
  registered _ _ work := by cases work.1
  apart _ _ _ _ _ work := by cases work.1

/-- A task in progress is found under its own identifier. -/
theorem Sound.find? (sound : p.Sound) (work : p.AtWork number j) :
    p.find? j.id = some (number, j) := by
  unfold Pool.find?
  rw [sound.registered number j work]
  dsimp only
  rw [work.1, Option.map_some]

/-! ## Admission -/

section

variable {wanted : TaskId} {inTheWay : TaskId → Bool}
  (means : ∀ w : Work, inTheWay w.id = true ↔ wanted.Conflicts w.id)

include means

/-- Where something is admitted, nothing in progress stands in its way, registered or not. -/
theorem Sound.admitted (sound : p.Sound) (admitted : p.admission inTheWay = .ok ())
    (work : p.AtWork number j) : ¬ wanted.Conflicts j.id := by
  intro conflicts
  have listed := TaskTable.mem_of_get? (sound.registered number j work)
  have busy : p.isBusy number = true := isBusy_iff.mpr ⟨j, work⟩
  have blocks : inTheWay j.id = true := by
    rw [(sound.jobs number j work.1).own] at conflicts ⊢
    exact (means j.work).mpr conflicts
  unfold admission at admitted
  split at admitted
  · cases admitted
  · next free =>
    have never := List.find?_eq_none.mp (Option.map_eq_none_iff.mp free) _ listed
    exact never (by rw [blocks, busy]; rfl)

/-- A refusal names what stands in the way. -/
theorem Sound.rejected (sound : p.Sound) {e : ControlError}
    (rejected : p.admission inTheWay = .error e) : ∃ number j, p.Blocks wanted number j ∧
      e = .alreadyRunning j.id.kind j.id.object j.id.owner := by
  unfold admission at rejected
  split at rejected
  · next id conflict =>
    cases rejected
    obtain ⟨number, listed, busy, blocks⟩ := conflict?_inProgress conflict
    obtain ⟨j, here, rfl⟩ := sound.entered (id, number) listed
    obtain ⟨k, there, inProgress⟩ := isBusy_iff.mp busy
    rw [here] at there
    cases there
    have conflicts : wanted.Conflicts j.id := by
      rw [(sound.jobs number j here).own] at blocks ⊢
      exact (means j.work).mp blocks
    exact ⟨number, j, ⟨sound.find? ⟨here, inProgress⟩, inProgress, conflicts⟩, rfl⟩
  · cases rejected

end

/-- The last step of the start of a migration is an attempt to start its task. -/
theorem Sound.register (sound : p.Sound) (s : Surroundings) (c : StartCall) :
    ∃ outcome, (c.register p s).2 = .over outcome ∧
      p.Attempt (.migration c.options p.config s.stamp) outcome (c.register p s).1 := by
  have means (w : Work) : blocksMigration c.options.vmName w.id = true ↔
      (TaskId.migration c.options.vmName).Conflicts w.id := blocksMigration_iff
  unfold StartCall.register
  split
  · next e refused =>
    obtain ⟨number, k, blocks, rfl⟩ := sound.rejected means refused
    exact ⟨_, rfl, .refused blocks⟩
  · next admitted =>
    exact ⟨_, rfl, .started fun number k work => sound.admitted means admitted work⟩

/-- The start of a copy of a machine with a monitor is an attempt to start its task. -/
theorem Sound.startCopying (sound : p.Sound) {s : Surroundings} {o : CopyOptions}
    (running : s.registry.get? o.vmName ≠ none) :
    p.Attempt (.copying o p.config s.stamp) (p.startCopying s o).1 (p.startCopying s o).2 := by
  have means (w : Work) : blocksCopying o.disk.path o.vmName w.id = true ↔
      (TaskId.diskCopying o.disk.path o.vmName).Conflicts w.id := blocksCopying_iff
  unfold Pool.startCopying
  split
  · next none => exact absurd none running
  · split
    · next e refused =>
      obtain ⟨number, k, blocks, rfl⟩ := sound.rejected means refused
      exact .refused blocks
    · next admitted =>
      exact .started fun number k work => sound.admitted means admitted work

/-! ## What keeps it -/

theorem atWork_of_start (work : (p.start j).AtWork number k) :
    p.AtWork number k ∨ number = p.jobs.length ∧ k = j :=
  (jobs_of_jobs_start work.1).imp_left fun here => ⟨here, work.2⟩

/-- A task that has nothing in its way may be started. -/
theorem Sound.start (sound : p.Sound) (started : j.Sound)
    (free : ∀ number k, p.AtWork number k → ¬ j.id.Conflicts k.id) : (p.start j).Sound where
  jobs number k here := by
    rcases jobs_of_jobs_start here with here | ⟨-, rfl⟩
    · exact sound.jobs number k here
    · exact started
  entered task listed := by
    rcases TaskTable.mem_insert listed with rfl | listed
    · exact ⟨j, List.getElem?_concat_length, rfl⟩
    · exact (sound.entered task listed).grow (.start p j)
  registered number k work := by
    rw [Pool.start, TaskTable.get?_insert]
    rcases atWork_of_start work with work | ⟨rfl, rfl⟩
    · rw [if_neg, sound.registered number k work]
      -- an entry in progress would stand in the way of its namesake
      intro same
      refine free number k work ?_
      rw [same, started.own]
      exact conflicts_self j.work
    · rw [if_pos rfl]
  apart first second k l lower work later := by
    rcases atWork_of_start work with first' | ⟨rfl, -⟩
    · rcases atWork_of_start later with second' | ⟨-, rfl⟩
      · exact sound.apart first second k l lower first' second'
      · exact free first k first'
    · have bound := (List.getElem?_eq_some_iff.mp later.1).1
      rw [Pool.start, List.length_append, List.length_singleton] at bound
      omega

theorem jobs_setJob (here : p.jobs[number]? = some j) {other : Nat} {l : Job}
    (there : (p.setJob number k).jobs[other]? = some l) :
    p.jobs[other]? = some l ∨ other = number ∧ l = k := by
  rw [setJob, List.getElem?_set] at there
  split at there
  · next same =>
    rw [if_pos (List.getElem?_eq_some_iff.mp here).1] at there
    cases there
    exact Or.inr ⟨same.symm, rfl⟩
  · exact Or.inl there

/-- A task in progress was so before another one changed, under the same identifier. -/
theorem atWork_of_setJob (here : p.jobs[number]? = some j) (becomes : j.Becomes k) {other : Nat}
    {l : Job} (work : (p.setJob number k).AtWork other l) :
    ∃ l₀, p.AtWork other l₀ ∧ l.id = l₀.id := by
  rcases jobs_setJob here work.1 with there | ⟨rfl, rfl⟩
  · exact ⟨l, ⟨there, work.2⟩, rfl⟩
  · exact ⟨j, ⟨here, becomes.inProgress work.2⟩, becomes.id⟩

/-- A task may go on. -/
theorem Sound.setJob (sound : p.Sound) (here : p.jobs[number]? = some j) (becomes : j.Becomes k)
    (changed : k.Sound) : (p.setJob number k).Sound where
  jobs other l there := by
    rcases jobs_setJob here there with there | ⟨-, rfl⟩
    · exact sound.jobs other l there
    · exact changed
  entered task listed := (sound.entered task listed).grow (.setJob here becomes)
  registered other l work := by
    obtain ⟨l₀, before, named⟩ := atWork_of_setJob here becomes work
    rw [named]
    exact sound.registered other l₀ before
  apart first second l m lower work later := by
    obtain ⟨l₀, before, named⟩ := atWork_of_setJob here becomes work
    obtain ⟨m₀, before', named'⟩ := atWork_of_setJob here becomes later
    rw [named, named']
    exact sound.apart first second l₀ m₀ lower before before'

/-- A task that is not in progress may be unregistered. -/
theorem Sound.unregister (sound : p.Sound) (idle : p.isBusy task.2 = false) :
    (p.unregister task).Sound where
  jobs := sound.jobs
  entered other listed := sound.entered other (TaskTable.mem_release listed)
  registered other l work := by
    have found := sound.registered other l work
    rw [Pool.unregister, TaskTable.get?_release, if_neg, found]
    rintro ⟨same, taken⟩
    rw [← same, found] at taken
    obtain rfl := Option.some.inj taken
    have busy : p.isBusy task.2 = true := isBusy_iff.mpr ⟨l, work⟩
    rw [idle] at busy
    cases busy
  apart := sound.apart

end Pool

end VmControl
