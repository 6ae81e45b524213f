import VmControl.Proofs.Codec.Kept
import VmControl.Proofs.Pool.Cancellation
import VmControl.Proofs.Pool.Courses
import VmControl.Proofs.Task.Snapshots

/-!
# What a move does to the tasks of a host

A move concerns one task at most. `Host.Move.Does` says what becomes of the work of a task: nothing,
or one step of its own (`Host.Step.does`). Whatever is not among the tasks before a move has only
just been started (`Host.Step.fresh`).

* `Pool.Newest`: the migration of a machine that was started last, if there is any. Whichever is
  registered is the newest one (`Host.Run.current`), and a newest one that is not registered has
  ended (`Host.Run.ended_of_unregistered`).
* `Host.Run.dated`: where every clock shows points in time, so do the statistics of all migrations.
-/

namespace VmControl

namespace Work

variable {w w' : Work} {s : Surroundings} {cancelled : Bool} {x : Stimulus} {effects : List Effect}

/-! ## Statistics that were handed over -/

/-- Whether the final statistics were handed over to be kept. -/
def isHanded (w : Work) : Bool :=
  match w.ending? with
  | some (.keeping _) | some (.ended _) => true
  | some (.draining _) | none => false

theorem isHanded_of_ended {outcome : Except ControlError Unit}
    (ended : w.ending? = some (.ended outcome)) : w.isHanded = true := by rw [isHanded, ended]

/-- Statistics that were handed over are final: no update is left, and the next step can only be the
last. -/
theorem Step.of_isHanded (step : Step s cancelled w x w' effects) (none : w.left = [])
    (handed : w.isHanded = true) :
    x = .kept ∧ effects = [] ∧ ∃ outcome, w' = w.close (.ended outcome) := by
  cases step with
  | @migrate r _ _ _ _ act =>
    have going : (Work.migration r).ending? = .none := (MigrationRun.act?_cases act).going
    rw [isHanded, going] at handed
    cases handed
  | @copy r _ _ _ act =>
    have going : (Work.copying r).ending? = .none := (CopyRun.act?_cases act).going
    rw [isHanded, going] at handed
    cases handed
  | fold folds => exact absurd none folds.left
  | persist ending =>
    rw [isHanded, ending] at handed
    cases handed
  | @kept _ outcome => exact ⟨rfl, rfl, outcome, rfl⟩

/-- The statistics are handed over by one step, which wants them kept. -/
theorem Step.hands (step : Step s cancelled w x w' effects) :
    (w'.isHanded = w.isHanded ∧ ∀ e ∈ effects, e.isKeep = false) ∨
      w.isHanded = false ∧ (∃ outcome, w'.ending? = some (.keeping outcome)) ∧
        effects = [w'.record] := by
  have acts {w : Work} (going : w.ending? = none)
      (drains : ∀ e, w'.ending? = some e → ∃ outcome, e = .draining outcome) :
      w'.isHanded = w.isHanded := by
    rw [isHanded, isHanded, going]
    cases ending : w'.ending? with
    | none => rfl
    | some e =>
      obtain ⟨outcome, rfl⟩ := drains e ending
      rfl
  cases step with
  | migrate act =>
    have act := MigrationRun.act?_cases act
    exact Or.inl ⟨acts act.going fun _ ending => act.drains ending, act.isKeep_eq_false⟩
  | copy act =>
    have act := CopyRun.act?_cases act
    exact Or.inl ⟨acts act.going fun _ ending => act.drains ending, act.isKeep_eq_false⟩
  | fold folds =>
    refine Or.inl ⟨?_, List.forall_mem_nil _⟩
    rw [isHanded, isHanded, folds.ending?]
  | persist ending =>
    refine Or.inr ⟨?_, ?_, ?_⟩
    · rw [isHanded, ending]
    · exact ⟨_, ending?_close⟩
    · rw [record_close]
  | kept ending =>
    refine Or.inl ⟨?_, List.forall_mem_nil _⟩
    rw [isHanded, isHanded, ending?_close, ending]

/-! ## Statistics that are seen -/

/-- What is seen to be final stays so. -/
theorem Step.frozen (step : Step s cancelled w x w' effects)
    (final : w.snapshot.status.isTerminal = true) : w'.snapshot = w.snapshot := by
  cases step.evolves with
  | sends seen => exact seen
  | folds seen => rw [seen, Snapshot.apply_of_terminal final]

/-- The points in time that a migration tells are such as a clock can show. -/
def Dated (w : Work) : Prop := ∀ r, w = .migration r → r.account.stat.Dated

theorem dated_apply {stat : MigrationStat} {now : Timestamp} (dated : stat.Dated)
    (valid : now.Valid) (u : StatUpdate) : (stat.apply now u).Dated := by
  rw [MigrationStat.apply]
  split
  · exact dated
  · cases u with
    | status status =>
      refine ⟨dated.started, fun t finished => ?_⟩
      simp only [MigrationStat.change] at finished
      split at finished
      · cases finished
        exact valid
      · exact dated.finished t finished
    | state | disk | error => exact ⟨dated.started, dated.finished⟩

theorem dated_copying (r : CopyRun) : (Work.copying r).Dated := by
  intro _ same
  cases same

theorem Step.dated (step : Step s cancelled w x w' effects) (valid : s.stamp.Valid)
    (dated : w.Dated) :
    w'.Dated := by
  cases step with
  | @migrate r r' _ _ _ act =>
    have seen : r'.account.stat = r.account.stat := (MigrationRun.act?_cases act).stat
    rintro _ ⟨⟩
    rw [seen]
    exact dated r rfl
  | copy => exact dated_copying _
  | fold folds =>
    cases folds with
    | @migration r account folded =>
      rintro _ ⟨⟩
      unfold Account.fold? at folded
      split at folded <;> cases folded
      exact dated_apply (dated r rfl) valid _
    | copying => exact dated_copying _
  | persist | kept =>
    cases w with
    | migration r =>
      rintro _ ⟨⟩
      exact dated r rfl
    | copying => exact dated_copying _

end Work

/-! ## Tasks -/

namespace Pool

variable {p q : Pool} {vm : String} {number : Nat} {j k : Job}

/-- The migration of a machine that was started last, or that none ever was. -/
def Newest (p : Pool) (vm : String) : Option Nat → Prop
  | none => ∀ (number : Nat) (j : Job), p.jobs[number]? = some j → j.id ≠ .migration vm
  | some newest => (∃ j, p.jobs[newest]? = some j ∧ j.id = .migration vm) ∧
      ∀ (number : Nat) (j : Job), p.jobs[number]? = some j → j.id = .migration vm → number ≤ newest

theorem Newest.unique {one other : Option Nat} (first : p.Newest vm one)
    (second : p.Newest vm other) : one = other := by
  cases one with
  | none =>
    cases other with
    | none => rfl
    | some other =>
      obtain ⟨⟨j, here, named⟩, -⟩ := second
      exact absurd named (first other j here)
  | some one =>
    obtain ⟨⟨j, here, named⟩, last⟩ := first
    cases other with
    | none => exact absurd named (second one j here)
    | some other =>
      obtain ⟨⟨k, there, named'⟩, last'⟩ := second
      exact congrArg some (Nat.le_antisymm (last' one j here named) (last other k there named'))

/-- Whatever is the newest once further tasks were started was so before, if it was there. -/
theorem Newest.of_grows {source : Option Nat} (newest : q.Newest vm source) (grows : p.Grows q)
    (there : ∀ number, source = some number → ∃ j, p.jobs[number]? = some j) :
    p.Newest vm source := by
  cases source with
  | none =>
    intro number j here named
    obtain ⟨k, later, becomes⟩ := grows number j here
    exact newest number k later (becomes.id.trans named)
  | some number =>
    obtain ⟨j, here⟩ := there number rfl
    refine ⟨⟨j, here, ?_⟩, fun other k here named => ?_⟩
    · obtain ⟨l, later, becomes⟩ := grows number j here
      obtain ⟨k, same, named⟩ := newest.1
      rw [later] at same
      cases same
      rw [← becomes.id, named]
    · obtain ⟨l, later, becomes⟩ := grows other k here
      exact newest.2 other l later (becomes.id.trans named)

/-- Nobody was started under an identifier after the task that is registered there. -/
def Current (p : Pool) : Prop :=
  ∀ id registered, p.table.get? id = some registered →
    ∀ (number : Nat) (j : Job), p.jobs[number]? = some j → j.id = id → number ≤ registered

theorem Current.change (current : p.Current) (change : p.Change q) : q.Current := by
  cases change with
  | nothing => exact current
  | @start j =>
    intro id registered found number k here named
    rw [Pool.start, TaskTable.get?_insert] at found
    rcases jobs_of_jobs_start here with before | ⟨rfl, rfl⟩
    · split at found
      · cases found
        exact Nat.le_of_lt (List.getElem?_eq_some_iff.mp before).1
      · exact current id registered found number k before named
    · rw [if_pos named.symm] at found
      cases found
      exact Nat.le_refl _
  | setJob here becomes =>
    intro id registered found number k there named
    rcases jobs_setJob here there with before | ⟨rfl, rfl⟩
    · exact current id registered found number k before named
    · exact current id registered found number _ here (becomes.id ▸ named)
  | @unregister task =>
    intro id registered found
    rw [Pool.unregister, TaskTable.get?_release] at found
    split at found
    · cases found
    · exact current id registered found

/-- The statistics of all migrations tell points in time that a clock can show. -/
def Dated (p : Pool) : Prop := ∀ (number : Nat) (j : Job), p.jobs[number]? = some j → j.work.Dated

theorem Dated.setJob (dated : p.Dated) (here : p.jobs[number]? = some j)
    (next : j.work.Dated → k.work.Dated) : (p.setJob number k).Dated := by
  intro other l there
  rcases jobs_setJob here there with before | ⟨-, rfl⟩
  · exact dated other l before
  · exact next (dated number j here)

theorem Dated.start (dated : p.Dated) (begun : j.work.Dated) : (p.start j).Dated := by
  intro number k here
  rcases jobs_of_jobs_start here with before | ⟨-, rfl⟩
  · exact dated number k before
  · exact begun

/-- A call that starts nothing changes no statistics. -/
theorem Dated.touch (dated : p.Dated) (touch : p.Touch q) (same : q.plans = p.plans) : q.Dated := by
  cases touch with
  | nothing => exact dated
  | start =>
    have length := congrArg List.length same
    rw [plans, plans, List.length_map, List.length_map, Pool.start, List.length_append] at length
    exact absurd length (Nat.succ_ne_self _)
  | fire fired =>
    obtain ⟨j, task, here, -, rfl⟩ := fire?_eq_some fired
    exact dated.setJob here id
  | unregister => exact dated

theorem config_touch (touch : p.Touch q) : q.config = p.config := by
  cases touch with
  | nothing | start | unregister => rfl
  | fire fired =>
    obtain ⟨j, task, -, -, rfl⟩ := fire?_eq_some fired
    rfl

end Pool

theorem Job.dated_migration (o : MigrationOptions) (config : Config) {stamp : Timestamp}
    (valid : stamp.Valid) : (Job.migration o config stamp).work.Dated := by
  rintro _ ⟨⟩
  refine ⟨fun t started => ?_, nofun⟩
  cases started
  exact valid

open Pool

namespace Host

variable {config : Config} {past : List Moment} {h h' : Host} {p q : Pool} {move : Move}
  {errands : List Errand} {number : Nat} {j k : Job} {vm : String} {s : Surroundings}
  {state next : CallState}

/-- The surroundings that a move finds. -/
def Move.surroundings : Move → Surroundings
  | .call s _ | .goOn _ s _ | .task _ s _ => s

/-- What a move makes of a task. -/
inductive Move.Does (move : Move) (errands : List Errand) (number : Nat) (j k : Job) : Prop
  | nothing (same : k.work = j.work)
  | step {s : Surroundings} {x : Stimulus} {effects : List Effect}
      (own : move = .task number s (.work x)) (busy : j.inProgress = true)
      (step : Work.Step s j.task.isCancelled j.work x k.work effects)
      (wants : errands = effects.map (.ofTask number))

theorem does_of_setTask {task : Task} {other : Nat} {l : Job} (here : p.jobs[number]? = some j)
    (there : p.jobs[other]? = some l) : ∃ k,
      (p.setJob other { l with task := task }).jobs[number]? = some k ∧ k.id = j.id ∧
        k.work = j.work := by
  by_cases own : number = other
  · subst own
    rw [here] at there
    cases there
    exact ⟨_, List.getElem?_set_self (List.getElem?_eq_some_iff.mp here).1, rfl, rfl⟩
  · exact ⟨j, (List.getElem?_set_ne (Ne.symm own)).trans here, rfl, rfl⟩

theorem does_of_touch (touch : p.Touch q) (here : p.jobs[number]? = some j) :
    ∃ k, q.jobs[number]? = some k ∧ k.id = j.id ∧ k.work = j.work := by
  cases touch with
  | nothing | unregister => exact ⟨j, here, rfl, rfl⟩
  | start => exact ⟨j, jobs_start_of_jobs here, rfl, rfl⟩
  | fire fired =>
    obtain ⟨l, task, there, -, rfl⟩ := fire?_eq_some fired
    exact does_of_setTask here there

/-- A task that is there stays there, and its work goes on by its own steps only. -/
theorem Step.does (step : h.Step move h' errands) (here : h.pool.jobs[number]? = some j) :
    ∃ k, h'.pool.jobs[number]? = some k ∧ k.id = j.id ∧ move.Does errands number j k := by
  cases step with
  | call begun =>
    obtain ⟨k, there, named, same⟩ := does_of_touch (Operation.begin_touch begun) here
    exact ⟨k, there, named, .nothing same⟩
  | goOn _ stepped =>
    obtain ⟨k, there, named, same⟩ := does_of_touch (CallState.step?_touch stepped) here
    exact ⟨k, there, named, .nothing same⟩
  | @task own s x l m effects there stepped =>
    by_cases same : number = own
    · subst same
      rw [here] at there
      cases there
      have found : (h.pool.setJob number m).jobs[number]? = some m :=
        List.getElem?_set_self (List.getElem?_eq_some_iff.mp here).1
      refine ⟨m, found, (Job.Becomes.of_step? stepped).id, ?_⟩
      rcases Job.step?_cases stepped with ⟨y, w, rfl, busy, ran, rfl⟩ | ⟨_, rfl, -, -, rfl, rfl⟩ |
        ⟨rfl, -, rfl, rfl⟩
      · exact .step rfl busy (Work.step?_cases ran) rfl
      · exact .nothing rfl
      · exact .nothing rfl
    · exact ⟨j, (List.getElem?_set_ne (Ne.symm same)).trans here, rfl, .nothing rfl⟩

/-- A task that is there after a move was there before, or has only just been started. -/
theorem Step.fresh (step : h.Step move h' errands) (there : h'.pool.jobs[number]? = some k) :
    (∃ j, h.pool.jobs[number]? = some j) ∨ Job.Life [] k := by
  have touched {q : Pool} (touch : h.pool.Touch q) (there : q.jobs[number]? = some k) :
      (∃ j, h.pool.jobs[number]? = some j) ∨ Job.Life [] k := by
    cases touch with
    | nothing | unregister => exact Or.inl ⟨k, there⟩
    | start begun =>
      rcases jobs_of_jobs_start there with before | ⟨-, rfl⟩
      · exact Or.inl ⟨k, before⟩
      · exact Or.inr begun
    | fire fired =>
      obtain ⟨l, task, here, -, rfl⟩ := fire?_eq_some fired
      rcases jobs_setJob here there with before | ⟨rfl, -⟩
      · exact Or.inl ⟨k, before⟩
      · exact Or.inl ⟨l, here⟩
  cases step with
  | call begun => exact touched (Operation.begin_touch begun) there
  | goOn _ stepped => exact touched (CallState.step?_touch stepped) there
  | task here =>
    rcases jobs_setJob here there with before | ⟨rfl, -⟩
    · exact Or.inl ⟨k, before⟩
    · exact Or.inl ⟨_, here⟩

theorem Step.config_eq (step : h.Step move h' errands) : h'.pool.config = h.pool.config := by
  cases step with
  | call begun => exact config_touch (Operation.begin_touch begun)
  | goOn _ stepped => exact config_touch (CallState.step?_touch stepped)
  | task => rfl

/-- Whoever is registered is the newest under its identifier. -/
theorem Run.current (run : Run config past h) : h.pool.Current := by
  induction run with
  | new => exact fun _ _ found => nomatch found
  | step run moved ih => exact ih.change ((step?_cases moved).change run.sound)

theorem Run.newest_of_registered (run : Run config past h)
    (registered : h.pool.table.get? (.migration vm) = some number) :
    h.pool.Newest vm (some number) := by
  obtain ⟨j, here, named⟩ := run.sound.pool.entered (.migration vm, number)
    (TaskTable.mem_of_get? registered)
  exact ⟨⟨j, here, named⟩, run.current _ number registered⟩

/-- A task that is not registered has come to the end of its run. -/
theorem Run.ended_of_unregistered (run : Run config past h) (here : h.pool.jobs[number]? = some j)
    (gone : h.pool.table.get? j.id ≠ some number) :
    ∃ outcome, j.work.ending? = some (.ended outcome) := by
  have idle : j.inProgress = false := by
    cases busy : j.inProgress with
    | false => rfl
    | true => exact absurd (run.sound.pool.registered number j ⟨here, busy⟩) gone
  obtain ⟨_, life⟩ := run.lives number j here
  obtain ⟨outcome, ended, -⟩ := life.settling.over idle
  exact ⟨outcome, ended⟩

theorem Run.left_of_isHanded (run : Run config past h) (here : h.pool.jobs[number]? = some j)
    (handed : j.work.isHanded = true) : j.work.left = [] := by
  obtain ⟨_, life⟩ := run.lives number j here
  have hands := life.settling.hands
  unfold Work.HandsOver at hands
  unfold Work.isHanded at handed
  split at hands
  · exact hands.1
  · exact hands.1
  · next draining => simp only [draining, Bool.false_eq_true] at handed
  · next none => simp only [none, Bool.false_eq_true] at handed

/-! ## Clocks -/

theorem Operation.begin_dated {o : Operation} {effects : List CallEffect} (dated : p.Dated)
    (begun : o.begin p s = (q, state, effects)) : q.Dated := by
  cases o with
  | startMigration o =>
    obtain ⟨rfl, -⟩ := Prod.mk.inj begun
    rw [StartCall.begin_fst]
    exact dated
  | startCopying o =>
    cases begun
    unfold Pool.startCopying
    split
    · exact dated
    · split
      · exact dated
      · exact dated.start (Work.dated_copying _)
  | cancel id =>
    simp only [begin, CancelCall.begin] at begun
    split at begun <;> cases begun <;> exact dated
  | cancelAll vm =>
    cases begun
    exact dated

theorem CallState.step?_dated {x : Happening} {effects : List CallEffect} (dated : p.Dated)
    (valid : s.stamp.Valid) (h : state.step? p s x = some (q, next, effects)) : q.Dated := by
  have touch := CallState.step?_touch h
  cases state with
  | starting c =>
    obtain ⟨⟨_, turn⟩, stepped, same⟩ := Option.map_eq_some_iff.mp h
    obtain ⟨rfl, -⟩ := Prod.mk.inj same
    rcases (StartCall.step?_starts stepped).1 with rfl | rfl
    · exact dated
    · exact dated.start (Job.dated_migration _ _ valid)
  | cancelling c =>
    obtain ⟨⟨_, turn⟩, stepped, same⟩ := Option.map_eq_some_iff.mp h
    obtain ⟨rfl, -⟩ := Prod.mk.inj same
    exact dated.touch touch (CancelCall.step?_plans stepped)
  | cancellingAll c =>
    obtain ⟨⟨_, turn⟩, stepped, same⟩ := Option.map_eq_some_iff.mp h
    obtain ⟨rfl, -⟩ := Prod.mk.inj same
    exact dated.touch touch (CancelAllCall.step?_plans stepped)
  | returned => cases h

theorem Step.dated (step : h.Step move h' errands) (valid : move.surroundings.stamp.Valid)
    (dated : h.pool.Dated) : h'.pool.Dated := by
  cases step with
  | call begun => exact Operation.begin_dated dated begun
  | goOn _ stepped => exact CallState.step?_dated dated valid stepped
  | task here stepped =>
    refine Pool.Dated.setJob dated here fun before => ?_
    rcases Job.step?_cases stepped with ⟨_, _, -, -, ran, rfl⟩ | ⟨_, -, -, -, rfl, -⟩
      | ⟨-, -, rfl, -⟩
    · exact (Work.step?_cases ran).dated valid before
    · exact before
    · exact before

/-- Where every clock shows points in time, the statistics of all migrations tell such. -/
theorem Run.dated (run : Run config past h)
    (valid : ∀ m ∈ past, m.move.surroundings.stamp.Valid) : h.pool.Dated := by
  induction run with
  | new => exact fun _ _ here => nomatch here
  | step _ moved ih =>
    obtain ⟨before, now⟩ := forall_mem_concat.mp valid
    exact (step?_cases moved).dated now (ih before)

end Host

end VmControl
