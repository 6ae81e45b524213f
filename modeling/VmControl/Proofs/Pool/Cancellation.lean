import VmControl.Proofs.Pool.Lives
import VmControl.Proofs.Pool.Overlap
import VmControl.Proofs.Task.Outcome

/-!
# What a cancellation leaves behind

A call that cancels a task finds it under its identifier, tells it to stop, waits until it has come
to its end, and unregisters it. Between any two of these steps the task may end by itself, another
one may take its place, and other calls may cancel it too.

* `Pool.Spares`: every task but one stays as it is. All that a cancellation does spares the tasks
  that it has not found.
* `Pool.RegisteredFrom`: nobody who was started before is registered under an identifier.
* `Host.Cancelling` is the invariant of the call: one constructor for each point at which it can be.
* `Host.Run.cancelled_for_good`: what is so when the call has succeeded, and ever after.
-/

namespace VmControl

namespace Pool

variable {p q : Pool} {number low : Nat} {task : FoundTask} {id : TaskId}

/-- Every task but one stays as it is, and is registered as it was. -/
def Spares (p : Pool) (number : Nat) (q : Pool) : Prop :=
  ∀ other, other ≠ number → q.jobs[other]? = p.jobs[other]? ∧
    ∀ id, q.table.get? id = some other ↔ p.table.get? id = some other

theorem Spares.refl (p : Pool) (number : Nat) : p.Spares number p := fun _ _ => ⟨rfl, fun _ => .rfl⟩

theorem Spares.of_fire? (fired : p.fire? number = some q) : p.Spares number q := by
  obtain ⟨j, task, -, -, rfl⟩ := fire?_eq_some fired
  intro other apart
  exact ⟨List.getElem?_set_ne apart.symm, fun _ => .rfl⟩

theorem Spares.unregister (p : Pool) (task : FoundTask) : p.Spares task.2 (p.unregister task) := by
  intro other apart
  refine ⟨rfl, fun id => ?_⟩
  rw [Pool.unregister, TaskTable.get?_release]
  split
  · next own =>
    -- the task itself was registered here, so nobody else was
    have same : p.table.get? id = some task.2 := by rw [own.1, own.2]
    have unlike : p.table.get? id ≠ some other := by
      rw [same]
      exact fun taken => apart (Option.some.inj taken).symm
    exact iff_of_false (Option.some_ne_none other).symm unlike
  · exact .rfl

/-- Whoever is registered under an identifier has at least the given number. -/
def RegisteredFrom (p : Pool) (id : TaskId) (low : Nat) : Prop :=
  ∀ number, p.table.get? id = some number → low ≤ number

theorem RegisteredFrom.change (registered : p.RegisteredFrom id low) (bound : low ≤ p.jobs.length)
    (change : p.Change q) : q.RegisteredFrom id low := by
  cases change with
  | nothing | setJob => exact registered
  | start =>
    intro number found
    rw [Pool.start, TaskTable.get?_insert] at found
    split at found
    · cases found
      exact bound
    · exact registered number found
  | unregister =>
    intro number found
    rw [Pool.unregister, TaskTable.get?_release] at found
    split at found
    · cases found
    · exact registered number found

/-- Once a task is unregistered, only later ones are left. -/
theorem RegisteredFrom.unregister (registered : p.RegisteredFrom task.1 task.2) :
    (p.unregister task).RegisteredFrom task.1 (task.2 + 1) := by
  intro number found
  rw [Pool.unregister, TaskTable.get?_release] at found
  split at found
  · cases found
  · next other =>
    have later := registered number found
    have apart : number ≠ task.2 := fun same => other ⟨rfl, by rw [found, same]⟩
    omega

theorem Holds.lt (holds : p.Holds task) : task.2 < p.jobs.length := by
  obtain ⟨j, here, -⟩ := holds
  exact (List.getElem?_eq_some_iff.mp here).1

theorem Settled.holds (settled : p.Settled task) : p.Holds task := by
  obtain ⟨j, here, named, -⟩ := settled
  exact ⟨j, here, named⟩

end Pool

open Pool

namespace Host

variable {config : Config} {past : List Moment} {h h' : Host} {move : Move} {errands : List Errand}
  {call : Nat} {id : TaskId} {task : FoundTask} {state : CallState}

/-! ## Moments of a call -/

/-- The call that makes a move. -/
def Moment.call? (m : Moment) : Option Nat :=
  match m.move with
  | .call .. => some m.before.calls.length
  | .goOn number .. => some number
  | .task .. => none

/-- The call to cancel a task is made, and the task is registered. -/
structure Moment.Finds (m : Moment) (call : Nat) (task : FoundTask) : Prop where
  call : m.call? = some call
  asks : ∃ s, m.move = .call s (.cancel task.1)
  registered : m.before.pool.table.get? task.1 = some task.2

/-- A call tells a task to stop. -/
structure Moment.Stops (m : Moment) (call number : Nat) : Prop where
  call : m.call? = some call
  fires : ∃ after, m.before.step? m.move = some (after, m.errands) ∧
    m.before.pool.fire? number = some after.pool

/-- A move does nothing to any task but one. -/
def Moment.Spares (m : Moment) (number : Nat) : Prop :=
  ∃ after, m.before.step? m.move = some (after, m.errands) ∧ m.before.pool.Spares number after.pool

/-- A move wants nothing done on behalf of a task. -/
def Moment.Silent (m : Moment) (number : Nat) : Prop := ∀ e, Errand.ofTask number e ∉ m.errands

theorem Step.calls (step : h.Step move h' errands)
    (other : Moment.call? ⟨h, move, errands⟩ ≠ some call) (bound : call < h'.calls.length) :
    h'.calls[call]? = h.calls[call]? := by
  cases step with
  | call =>
    have apart : h.calls.length ≠ call := fun same => other (congrArg some same)
    rw [List.length_append, List.length_singleton] at bound
    exact List.getElem?_append_left (by omega)
  | goOn => exact List.getElem?_set_ne fun same => other (congrArg some same)
  | task => rfl

theorem Step.call_lt (step : h.Step move h' errands)
    (own : Moment.call? ⟨h, move, errands⟩ = some call) : call < h'.calls.length := by
  cases step with
  | call =>
    cases own
    rw [List.length_append, List.length_singleton]
    exact Nat.lt_succ_self _
  | goOn here =>
    cases own
    rw [List.length_set]
    exact (List.getElem?_eq_some_iff.mp here).1
  | task => cases own

theorem Step.calls_length_le (step : h.Step move h' errands) :
    h.calls.length ≤ h'.calls.length := by
  cases step with
  | call =>
    rw [List.length_append]
    exact Nat.le_add_right ..
  | goOn => exact Nat.le_of_eq (List.length_set ..).symm
  | task => exact Nat.le_refl _

/-- A call that has made a move was made. -/
theorem Run.call_lt (run : Run config past h) :
    ∀ m ∈ past, m.call? = some call → call < h.calls.length := by
  induction run with
  | new => exact fun _ none => nomatch none
  | step _ moved ih =>
    have step := step?_cases moved
    refine forall_mem_concat.mpr ⟨fun m old own => ?_, step.call_lt⟩
    exact Nat.lt_of_lt_of_le (ih m old own) step.calls_length_le

theorem Step.returned {c : Call} {outcome : Except ControlError Unit}
    (step : h.Step move h' errands) (there : h.calls[call]? = some c)
    (final : c.state = .returned outcome) : h'.calls[call]? = some c := by
  by_cases own : Moment.call? ⟨h, move, errands⟩ = some call
  · cases step with
    | call =>
      cases own
      rw [List.getElem?_eq_none (Nat.le_refl _)] at there
      cases there
    | goOn here stepped =>
      cases own
      rw [there] at here
      cases here
      rw [final] at stepped
      cases stepped
    | task => cases own
  · have bound := (List.getElem?_eq_some_iff.mp there).1
    rw [step.calls own (Nat.lt_of_lt_of_le bound step.calls_length_le), there]

theorem Run.returned {c : Call} {outcome : Except ControlError Unit} (run : Run config past h)
    (final : c.state = .returned outcome) :
    ∀ m ∈ past, m.before.calls[call]? = some c → h.calls[call]? = some c := by
  induction run with
  | new => exact fun _ none => nomatch none
  | step _ moved ih =>
    have step := step?_cases moved
    refine forall_mem_concat.mpr ⟨fun m old there => ?_, fun there => step.returned there final⟩
    exact step.returned (ih m old there) final

/-- Nothing is done any more on behalf of a task that has left off. -/
theorem Step.silent_of_idle {number : Nat} {j : Job} (step : h.Step move h' errands)
    (here : h.pool.jobs[number]? = some j) (idle : j.inProgress = false) :
    Moment.Silent ⟨h, move, errands⟩ number := by
  intro e sent
  cases step with
  | call | goOn =>
    obtain ⟨_, -, same⟩ := List.mem_map.mp sent
    cases same
  | task there stepped =>
    obtain ⟨e', wanted, same⟩ := List.mem_map.mp sent
    cases same
    rw [there] at here
    cases here
    rcases Job.step?_cases stepped with ⟨_, _, -, busy, -, -⟩ | ⟨_, -, -, -, -, rfl⟩
      | ⟨-, -, -, rfl⟩
    · rw [idle] at busy
      cases busy
    · cases wanted
    · cases wanted

/-- Nothing is done any more on behalf of a task that has come to its end. -/
theorem Step.silent (sound : h.pool.Sound) (settled : h.pool.Settled task)
    (step : h.Step move h' errands) : Moment.Silent ⟨h, move, errands⟩ task.2 := by
  obtain ⟨j, here, -, out⟩ := settled
  exact step.silent_of_idle here ((sound.jobs _ j here).idle out)

/-! ## The invariant of a cancellation -/

/-- A call has found a task, and so far has done nothing to any other one. -/
structure Pursues (past : List Moment) (h : Host) (call : Nat) (task : FoundTask) : Prop where
  found : ∃ m ∈ past, m.Finds call task
  spares : ∀ m ∈ past, m.call? = some call → m.Spares task.2
  holds : h.pool.Holds task
  registered : h.pool.RegisteredFrom task.1 task.2

/-- A call has cancelled a task. -/
structure Cancelled (past : List Moment) (h : Host) (call : Nat) (task : FoundTask) : Prop where
  pursues : Pursues past h call task
  stopped : ∃ m ∈ past, m.Stops call task.2
  settled : h.pool.Settled task
  registered : h.pool.RegisteredFrom task.1 (task.2 + 1)
  silent : ∀ m ∈ past, m.before.calls[call]? = some ⟨.cancel task.1, .returned (.ok ())⟩ →
    m.Silent task.2

/-- How far the cancellation of whoever is registered under an identifier has come. -/
inductive Cancelling (past : List Moment) (h : Host) (call : Nat) (id : TaskId) : CallState → Prop
  | found {number : Nat} (pursues : Pursues past h call (id, number)) :
      Cancelling past h call id (.cancelling (.found (id, number)))
  | awaiting {number : Nat} (pursues : Pursues past h call (id, number))
      (stopped : ∃ m ∈ past, m.Stops call number) :
      Cancelling past h call id (.cancelling (.awaiting (id, number)))
  | ended {number : Nat} (pursues : Pursues past h call (id, number))
      (stopped : ∃ m ∈ past, m.Stops call number) (settled : h.pool.Settled (id, number)) :
      Cancelling past h call id (.cancelling (.ended (id, number)))
  | cancelled {number : Nat} (cancelled : Cancelled past h call (id, number)) :
      Cancelling past h call id (.returned (.ok ()))
  | refused (e : ControlError) : Cancelling past h call id (.returned (.error e))

theorem Pursues.step (pursues : Pursues past h call task) (change : h.pool.Change h'.pool)
    (spares : Moment.call? ⟨h, move, errands⟩ = some call →
      Moment.Spares ⟨h, move, errands⟩ task.2) :
    Pursues (past ++ [⟨h, move, errands⟩]) h' call task where
  found := exists_mem_concat pursues.found
  spares := forall_mem_concat.mpr ⟨pursues.spares, spares⟩
  holds := pursues.holds.grow change.grows
  registered := pursues.registered.change (Nat.le_of_lt pursues.holds.lt) change

/-- What a cancellation has done stays so, whatever the tasks and the other calls do. -/
theorem Cancelling.pass (cancelling : Cancelling past h call id state) (sound : h.Sound)
    (step : h.Step move h' errands) (other : Moment.call? ⟨h, move, errands⟩ ≠ some call) :
    Cancelling (past ++ [⟨h, move, errands⟩]) h' call id state := by
  have change := step.change sound
  have still {task : FoundTask} (pursues : Pursues past h call task) :
      Pursues (past ++ [⟨h, move, errands⟩]) h' call task :=
    pursues.step change fun own => absurd own other
  cases cancelling with
  | found pursues => exact .found (still pursues)
  | awaiting pursues stopped => exact .awaiting (still pursues) (exists_mem_concat stopped)
  | ended pursues stopped settled =>
    exact .ended (still pursues) (exists_mem_concat stopped) (settled.grow change.grows)
  | cancelled cancelled =>
    have silent : Moment.Silent ⟨h, move, errands⟩ _ := step.silent sound.pool cancelled.settled
    exact .cancelled ⟨still cancelled.pursues, exists_mem_concat cancelled.stopped,
      cancelled.settled.grow change.grows,
      cancelled.registered.change cancelled.settled.holds.lt change,
      forall_mem_concat.mpr ⟨cancelled.silent, fun _ => silent⟩⟩
  | refused e => exact .refused e

/-- The call is made: it finds who is registered. -/
theorem Cancelling.begin {s : Surroundings} {effects : List CallEffect} {p : Pool}
    (run : Run config past h) (moved : h.step? (.call s (.cancel id)) = some (h', errands))
    (begun : (Operation.cancel id).begin h.pool s = (p, state, effects)) (same : h'.pool = p) :
    Cancelling (past ++ [⟨h, .call s (.cancel id), errands⟩]) h' h.calls.length id state := by
  simp only [Operation.begin, CancelCall.begin] at begun
  split at begun
  · cases begun
    exact .refused _
  · next number found =>
    cases begun
    have holds : h.pool.Holds (id, number) :=
      run.sound.pool.entered (id, number) (TaskTable.mem_of_get? found)
    refine .found ⟨?_, ?_, by rwa [same], ?_⟩
    · exact ⟨_, List.mem_append_right _ List.mem_cons_self, rfl, ⟨s, rfl⟩, found⟩
    · refine forall_mem_concat.mpr ⟨fun m old own => ?_, fun _ => ⟨h', moved, ?_⟩⟩
      · -- the number of the call was not yet given to any
        exact absurd (run.call_lt m old own) (Nat.lt_irrefl _)
      · rw [same]
        exact .refl h.pool number
    · intro other there
      rw [same, found] at there
      exact Nat.le_of_eq (Option.some.inj there)

/-- The call goes on. -/
theorem Cancelling.goOn {s : Surroundings} {x : Happening} {next : CallState} {p : Pool}
    {effects : List CallEffect} (cancelling : Cancelling past h call id state)
    (run : Run config past h) (here : h.calls[call]? = some ⟨.cancel id, state⟩)
    (moved : h.step? (.goOn call s x) = some (h', errands))
    (stepped : state.step? h.pool s x = some (p, next, effects)) (same : h'.pool = p) :
    Cancelling (past ++ [⟨h, .goOn call s x, errands⟩]) h' call id next := by
  have change : h.pool.Change h'.pool := (step?_cases moved).change run.sound
  have spares {number : Nat} (spares : h.pool.Spares number p) :
      Moment.Spares ⟨h, .goOn call s x, errands⟩ number := ⟨h', moved, by rwa [same]⟩
  cases cancelling with
  | @found number pursues =>
    simp only [CallState.step?, CancelCall.step?] at stepped
    split at stepped
    · cases stepped
      exact .refused _
    · next fired =>
      cases stepped
      refine .awaiting (pursues.step change fun _ => spares (.of_fire? fired)) ?_
      refine ⟨_, List.mem_append_right _ List.mem_cons_self, rfl, h', moved, ?_⟩
      rw [same]
      exact fired
  | @awaiting number pursues stopped =>
    simp only [CallState.step?, CancelCall.step?] at stepped
    split at stepped
    · next released =>
      cases stepped
      refine .ended (pursues.step change fun _ => spares (.refl _ _)) (exists_mem_concat stopped) ?_
      rw [same]
      exact pursues.holds.settled released
    · cases stepped
  | @ended number pursues stopped settled =>
    cases stepped
    refine .cancelled ⟨pursues.step change fun _ => spares (.unregister _ _),
      exists_mem_concat stopped, settled.grow change.grows, ?_, ?_⟩
    · rw [same]
      exact pursues.registered.unregister
    · -- this is the move at which the call returns, so it had not returned at any moment before
      have fresh : h.calls[call]? ≠ some ⟨.cancel id, .returned (.ok ())⟩ := by
        rw [here]
        intro same
        cases same
      exact forall_mem_concat.mpr ⟨fun m old returned =>
        absurd (run.returned rfl m old returned) fresh, fun returned => absurd returned fresh⟩
  | cancelled => cases stepped
  | refused => cases stepped

/-- The invariant of a cancellation holds at every host that is reached. -/
theorem Run.cancelling (run : Run config past h)
    (made : h.calls[call]? = some ⟨.cancel id, state⟩) : Cancelling past h call id state := by
  induction run generalizing state with
  | new => cases made
  | @step past h h' move errands run moved ih =>
    have step := step?_cases moved
    by_cases own : Moment.call? ⟨h, move, errands⟩ = some call
    · cases step with
      | call begun =>
        cases own
        rw [List.getElem?_concat_length] at made
        cases made
        exact .begin run moved begun rfl
      | @goOn number s x c p next effects here stepped =>
        cases own
        rw [List.getElem?_set_self (List.getElem?_eq_some_iff.mp here).1] at made
        obtain ⟨operation, state⟩ := c
        cases made
        exact (ih here).goOn run here moved stepped rfl
      | task => cases own
    · have bound := (List.getElem?_eq_some_iff.mp made).1
      rw [step.calls own bound] at made
      exact (ih made).pass run.sound step own

/-- A task that has come to its end has left off with an outcome, and its status is final. -/
theorem Run.settled (run : Run config past h) (settled : h.pool.Settled task) :
    ∃ j, h.pool.jobs[task.2]? = some j ∧ j.id = task.1 ∧ j.inProgress = false ∧
      (∃ outcome, j.work.outcome? = some outcome) ∧ j.work.status.isTerminal = true := by
  obtain ⟨j, here, named, out⟩ := settled
  have sound := run.sound.pool.jobs task.2 j here
  have idle := sound.idle out
  obtain ⟨past, life⟩ := run.lives task.2 j here
  obtain ⟨outcome, -, -, tells⟩ := life.settling.tells idle
  have terminal := tells.agrees.1
  rw [Work.summary_eq] at terminal
  exact ⟨j, here, named, idle, sound.ended idle, terminal⟩

/-- Once a cancellation has succeeded, the task that was registered when it was asked for has come
to its end with a final status; nothing has been done on behalf of the task since; whoever is now
registered in its place was started later; and the call has done nothing to any other task. -/
theorem Run.cancelled_for_good (run : Run config past h)
    (succeeded : h.calls[call]? = some ⟨.cancel id, .returned (.ok ())⟩) :
    ∃ number, (∃ m ∈ past, m.Finds call (id, number)) ∧ (∃ m ∈ past, m.Stops call number) ∧
      (∃ j, h.pool.jobs[number]? = some j ∧ j.id = id ∧ j.inProgress = false ∧
        (∃ outcome, j.work.outcome? = some outcome) ∧ j.work.status.isTerminal = true) ∧
      (∀ m ∈ past, m.before.calls[call]? = some ⟨.cancel id, .returned (.ok ())⟩ →
        m.Silent number) ∧
      (∀ other, h.pool.table.get? id = some other → number < other) ∧
      ∀ m ∈ past, m.call? = some call → m.Spares number := by
  cases run.cancelling succeeded with
  | @cancelled number cancelled =>
    refine ⟨number, cancelled.pursues.found, cancelled.stopped, run.settled cancelled.settled,
      cancelled.silent, cancelled.registered, cancelled.pursues.spares⟩

end Host

namespace Sample

/-- The identifier of the copy of the disk. -/
def copyingId : TaskId := .diskCopying disk.path "web"

/-- The copy of the disk is cancelled while its job is expected to run. As soon as it has left off,
and before the call that has cancelled it goes on, another copy of the disk is started. -/
def replacingMoves : List Host.Move :=
  [.call (surroundings 0) (.startCopying copying)] ++
  ([.act .course .enter,
    .act .course (.prepared (.ok ⟨"/backup/root", false, none⟩)),
    .act .course (.reply (.ok .null))].map fun x => .task 0 (surroundings 0) (.work x)) ++
  [.call (surroundings 0) (.cancel copyingId), .goOn 1 (surroundings 0) .enter] ++
  ([.act .course (.wake .interrupt), .act .course (.reply (.ok .null)),
    .fold, .fold, .fold, .persist, .kept].map fun x => .task 0 (surroundings 0) (.work x)) ++
  [.task 0 (surroundings 0) .finish,
    .call (surroundings 0) (.startCopying copying),
    .task 0 (surroundings 0) .release,
    .goOn 1 (surroundings 0) .enter, .goOn 1 (surroundings 0) .enter,
    .task 1 (surroundings 0) (.work (.act .course .enter))]

theorem replacing_replayable : ((Host.new .default).replay? replacingMoves).isSome := rfl

def replaced : List Host.Moment × Host := Option.get _ replacing_replayable

theorem replaced_run : Host.Run .default replaced.1 replaced.2 := .of_replay? replacing_replayable

/-- The first copy is over and silent, and the second one is registered and at work. -/
theorem replaced_cancelled :
    (replaced.2.calls[1]? = some ⟨.cancel copyingId, .returned (.ok ())⟩) ∧
    replaced.2.pool.table.get? copyingId = some 1 ∧ replaced.2.pool.isBusy 1 = true ∧
    (∃ j, replaced.2.pool.jobs[0]? = some j ∧ j.id = copyingId ∧ j.inProgress = false ∧
      j.work.status.isTerminal = true) ∧
    ∀ m ∈ replaced.1, m.call? = some 1 → m.Spares 0 := by
  have succeeded : replaced.2.calls[1]? = some ⟨.cancel copyingId, .returned (.ok ())⟩ := rfl
  obtain ⟨number, -, -, ⟨j, here, named, idle, -, final⟩, -, later, spares⟩ :=
    replaced_run.cancelled_for_good succeeded
  have first : number < 1 := later 1 rfl
  obtain rfl : number = 0 := by omega
  exact ⟨succeeded, rfl, rfl, ⟨j, here, named, idle, final⟩, spares⟩

end Sample

end VmControl
