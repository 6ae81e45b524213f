import VmControl.Proofs.Pool.Host
import VmControl.Proofs.Pool.Registration

/-!
# What calls do to the tasks of a host

A call that has found a task goes on to rely on it, while other calls and the task itself go on too.
Tasks are never forgotten (`Pool.Grows`), so what a call has found is still there (`Pool.Holds`),
and what was awaited to its end stays at its end (`Pool.Settled`).

* `Pool.Change` lists what a step does to the tasks of a host; every change keeps `Pool.Sound`.
* `Host.Operation.Returns` lists what a call comes to.
* `CancelCall.step?_spec`, `CancelAllCall.step?_spec` and `StartCall.step?_spec` say what one step
  of each call does.
-/

namespace VmControl

namespace Pool

variable {p q : Pool} {number : Nat} {j k : Job} {task : FoundTask}

/-- There is such a task, and everyone who waits for it has been released. -/
def Settled (p : Pool) (task : FoundTask) : Prop :=
  ∃ j, p.jobs[task.2]? = some j ∧ j.id = task.1 ∧ j.isReleased = true

theorem Settled.grow (settled : p.Settled task) (grows : p.Grows q) : q.Settled task := by
  obtain ⟨j, here, named, out⟩ := settled
  obtain ⟨k, there, becomes⟩ := grows task.2 j here
  exact ⟨k, there, becomes.id.trans named, becomes.released out⟩

theorem Holds.settled (holds : p.Holds task) (released : p.isReleased task.2 = true) :
    p.Settled task := by
  obtain ⟨j, here, named⟩ := holds
  unfold isReleased at released
  rw [here] at released
  exact ⟨j, here, named, released⟩

/-- A task that has come to its end is not in progress. -/
theorem Sound.idle (sound : p.Sound) (settled : p.Settled task) : p.isBusy task.2 = false := by
  obtain ⟨j, here, -, out⟩ := settled
  have free := (sound.jobs task.2 j here).idle out
  rw [isBusy, here]
  exact free

/-- What a step may do to the tasks of a host. -/
inductive Change (p : Pool) : Pool → Prop
  | nothing : Change p p
  | start {j : Job} (started : j.Sound)
      (free : ∀ number k, p.AtWork number k → ¬ j.id.Conflicts k.id) : Change p (p.start j)
  | setJob {number : Nat} {j k : Job} (here : p.jobs[number]? = some j) (becomes : j.Becomes k)
      (changed : j.Sound → k.Sound) : Change p (p.setJob number k)
  | unregister {task : FoundTask} (settled : p.Settled task) : Change p (p.unregister task)

theorem Change.grows (change : p.Change q) : p.Grows q := by
  cases change with
  | nothing | unregister => exact .refl p
  | start => exact .start p _
  | setJob here becomes => exact .setJob here becomes

theorem Sound.change (sound : p.Sound) (change : p.Change q) : q.Sound := by
  cases change with
  | nothing => exact sound
  | start started free => exact sound.start started free
  | setJob here becomes changed => exact sound.setJob here becomes (changed (sound.jobs _ _ here))
  | unregister settled => exact sound.unregister (sound.idle settled)

theorem Attempt.change {outcome : Except ControlError Unit} (attempt : p.Attempt j outcome q)
    (started : j.Sound) : p.Change q := by
  cases attempt with
  | started free => exact .start started free
  | refused => exact .nothing

theorem Change.of_fire? (fired : p.fire? number = some q) : p.Change q := by
  unfold fire? at fired
  split at fired
  · next j here =>
    obtain ⟨task, token, rfl⟩ := Option.map_eq_some_iff.mp fired
    exact .setJob here (.of_cancel? token) fun sound => sound.of_cancel? token
  · cases fired

end Pool

open Pool

/-! ## Cancellations -/

/-- What a cancellation relies on. -/
def CancelCall.Sound (p : Pool) : CancelCall → Prop
  | .found task | .awaiting task => p.Holds task
  | .ended task => p.Settled task

/-- What the cancellation of all tasks of a machine relies on. -/
def CancelAllCall.Sound (p : Pool) : CancelAllCall → Prop
  | .firing left all => (∀ task ∈ left, p.Holds task) ∧ ∀ task ∈ all, p.Holds task
  | .awaiting all => ∀ task ∈ all, p.Holds task
  | .unregistering left => ∀ task ∈ left, p.Settled task

variable {p q : Pool}

theorem CancelCall.Sound.grow {c : CancelCall} (sound : c.Sound p) (grows : p.Grows q) :
    c.Sound q := by
  cases c with
  | found | awaiting => exact Holds.grow sound grows
  | ended => exact Settled.grow sound grows

theorem CancelAllCall.Sound.grow {c : CancelAllCall} (sound : c.Sound p) (grows : p.Grows q) :
    c.Sound q := by
  cases c with
  | firing left all =>
    exact ⟨fun task here => (sound.1 task here).grow grows,
      fun task here => (sound.2 task here).grow grows⟩
  | awaiting all => exact fun task here => (sound task here).grow grows
  | unregistering left => exact fun task here => (sound task here).grow grows

/-- A step of a cancellation finds what it relies on, and does no more than its part. -/
theorem CancelCall.step?_spec {c : CancelCall}
    {turn : CallTurn CancelCall (Except ControlError Unit)} (sound : c.Sound p)
    (h : c.step? p = some (q, turn)) :
    p.Change q ∧ ((∃ d, turn = .goesOn d [] ∧ d.Sound q) ∨
      (turn = .over (.error .taskNotRunning) ∧ q = p) ∨ turn = .over (.ok ())) := by
  cases c with
  | found task =>
    simp only [step?] at h
    split at h
    · cases h
      exact ⟨.nothing, Or.inr (Or.inl ⟨rfl, rfl⟩)⟩
    · next fired =>
      cases h
      have change := Change.of_fire? fired
      exact ⟨change, Or.inl ⟨.awaiting task, rfl, Holds.grow sound change.grows⟩⟩
  | awaiting task =>
    simp only [step?] at h
    split at h
    · next released =>
      cases h
      exact ⟨.nothing, Or.inl ⟨.ended task, rfl, Holds.settled sound released⟩⟩
    · cases h
  | ended task =>
    cases h
    -- another task may have been registered meanwhile, but none that is unregistered here is at
    -- work
    exact ⟨.unregister sound, Or.inr (Or.inr rfl)⟩

/-- A step of the cancellation of all tasks of a machine does the same for one of them. -/
theorem CancelAllCall.step?_spec {c : CancelAllCall} {turn : CallTurn CancelAllCall Unit}
    (sound : c.Sound p) (h : c.step? p = some (q, turn)) :
    p.Change q ∧ ((∃ d, turn = .goesOn d [] ∧ d.Sound q) ∨ turn = .over ()) := by
  unfold step? at h
  split at h
  · next task left all =>
    cases h
    have change : p.Change ((p.fire? task.2).getD p) := by
      cases fired : p.fire? task.2 with
      | none => exact .nothing
      | some q => exact .of_fire? fired
    have kept := CancelAllCall.Sound.grow sound change.grows
    exact ⟨change, Or.inl ⟨.firing left all, rfl, fun other here =>
      kept.1 other (List.mem_cons_of_mem _ here), kept.2⟩⟩
  · next all =>
    cases h
    exact ⟨.nothing, Or.inl ⟨.awaiting all, rfl, sound.2⟩⟩
  · next all =>
    split at h
    · next released =>
      cases h
      refine ⟨.nothing, Or.inl ⟨.unregistering all, rfl, fun task here => ?_⟩⟩
      exact (sound task here).settled (List.all_eq_true.mp released task here)
    · cases h
  · next task left =>
    cases h
    have change : p.Change (p.unregister task) := .unregister (sound task List.mem_cons_self)
    refine ⟨change, Or.inl ⟨.unregistering left, rfl, fun other here => ?_⟩⟩
    exact (sound other (List.mem_cons_of_mem _ here)).grow change.grows
  · cases h
    exact ⟨.nothing, Or.inr rfl⟩

/-! ## Starts -/

namespace Host

/-- The task that an operation is to start. -/
def Operation.wanted? : Operation → Option TaskId
  | .startMigration o => some (.migration o.vmName)
  | .startCopying o => some (.diskCopying o.disk.path o.vmName)
  | .cancel _ | .cancelAll _ => none

/-- What a call comes to. A start is accepted if nothing in progress stands in its way, and said to
be blocked only in the name of what does, unless the receiving host itself has `said` so. -/
inductive Operation.Returns (o : Operation) (p : Pool) (said : ControlError → Prop) :
    Except ControlError Unit → Pool → Prop
  | started {j : Job} (wanted : o.wanted? = some j.id) (busy : j.inProgress = true)
      (free : ∀ number k, p.AtWork number k → ¬ j.id.Conflicts k.id) :
      Returns o p said (.ok ()) (p.start j)
  | blocked {id : TaskId} {number : Nat} {k : Job} (wanted : o.wanted? = some id)
      (blocks : p.Blocks id number k) :
      Returns o p said (.error (.alreadyRunning k.id.kind k.id.object k.id.owner)) p
  | failed {e : ControlError}
      (other : ∀ kind object owner, e = .alreadyRunning kind object owner → said e) :
      Returns o p said (.error e) p
  | done {q : Pool} (none : o.wanted? = none) : Returns o p said (.ok ()) q

theorem Operation.Returns.mono {o : Operation} {said said' : ControlError → Prop}
    {outcome : Except ControlError Unit} (weaker : ∀ e, said e → said' e)
    (returns : o.Returns p said outcome q) : o.Returns p said' outcome q := by
  cases returns with
  | started wanted busy free => exact .started wanted busy free
  | blocked wanted blocks => exact .blocked wanted blocks
  | failed other =>
    exact .failed fun kind object owner same => weaker _ (other kind object owner same)
  | done none => exact .done none

theorem Operation.Returns.of_attempt {o : Operation} {said : ControlError → Prop} {j : Job}
    {outcome : Except ControlError Unit} (wanted : o.wanted? = some j.id)
    (busy : j.inProgress = true) (attempt : p.Attempt j outcome q) :
    o.Returns p said outcome q := by
  cases attempt with
  | started free => exact .started wanted busy free
  | refused blocks => exact .blocked wanted blocks

/-- The request that is under way has failed, by its answer or because its time has run out. -/
theorem Operation.Returns.of_resolve? {o : Operation} {b : Bound} {s : Surroundings} {x : Happening}
    {e : ControlError} (resolved : b.resolve? s false x = some (.error e)) :
    o.Returns p (fun e => x = .answer (.error e)) (.error e) p := by
  refine .failed fun kind object owner same => ?_
  rcases Bound.resolve?_error resolved with answered | rfl
  · exact answered
  · cases same

end Host

open Host

theorem StartCall.begin_spec (sound : p.Sound) (s : Surroundings) (o : MigrationOptions) :
    (∃ c effects, (begin p s o).2 = .goesOn c effects ∧ c.options = o) ∨
    ∃ e, (begin p s o).2 = .over (.error e) ∧
      (Operation.startMigration o).Returns p (fun _ => False) (.error e) p := by
  unfold begin
  split
  · exact Or.inr ⟨_, rfl, .failed nofun⟩
  · split
    · exact Or.inr ⟨_, rfl, .failed nofun⟩
    · split
      · next e refused =>
        obtain ⟨number, k, blocks, rfl⟩ := sound.rejected (fun w => blocksMigration_iff) refused
        exact Or.inr ⟨_, rfl, .blocked rfl blocks⟩
      · exact Or.inl ⟨_, _, rfl, rfl⟩

/-- The last step of the start of a migration either starts it or tells what stands in its way. -/
theorem StartCall.register_spec {c : StartCall} {s : Surroundings} {said : ControlError → Prop}
    {turn : CallTurn StartCall (Except ControlError Unit)} (sound : p.Sound)
    (h : c.register p s = (q, turn)) :
    p.Change q ∧ ∃ outcome, turn = .over outcome ∧
      (Operation.startMigration c.options).Returns p said outcome q := by
  obtain ⟨outcome, ends, attempt⟩ := sound.register s c
  rw [h] at ends attempt
  exact ⟨attempt.change (Job.sound_migration ..), outcome, ends, .of_attempt rfl rfl attempt⟩

/-- A step of the start of a migration asks for something more, or the call is over. -/
theorem StartCall.step?_spec {c : StartCall} {s : Surroundings} {x : Happening}
    {turn : CallTurn StartCall (Except ControlError Unit)} (sound : p.Sound)
    (h : c.step? p s x = some (q, turn)) :
    p.Change q ∧ ((∃ d effects, turn = .goesOn d effects ∧ d.options = c.options) ∨
      ∃ outcome, turn = .over outcome ∧ (Operation.startMigration c.options).Returns p
        (fun e => x = .answer (.error e)) outcome q) := by
  unfold step? at h
  split at h
  · split at h
    · cases h
      exact ⟨.nothing, Or.inl ⟨_, _, rfl, rfl⟩⟩
    · next e =>
      cases h
      exact ⟨.nothing, Or.inr ⟨_, rfl, .failed fun _ _ _ same => by rw [same]⟩⟩
    · cases h
  · next b _ =>
    obtain ⟨answer, resolved, came⟩ := Option.map_eq_some_iff.mp h
    cases answer with
    | error e =>
      cases came
      exact ⟨.nothing, Or.inr ⟨_, rfl, .of_resolve? resolved⟩⟩
    | ok answer =>
      unfold onName at came
      dsimp only at came
      split at came
      · cases came
        exact ⟨.nothing, Or.inr ⟨_, rfl, .failed nofun⟩⟩
      · split at came
        · exact (register_spec sound came).imp_right Or.inr
        · cases came
          exact ⟨.nothing, Or.inl ⟨_, _, rfl, rfl⟩⟩
  · obtain ⟨answer, resolved, came⟩ := Option.map_eq_some_iff.mp h
    cases answer with
    | error e =>
      cases came
      exact ⟨.nothing, Or.inr ⟨_, rfl, .of_resolve? resolved⟩⟩
    | ok answer => exact (register_spec sound came).imp_right Or.inr

end VmControl
