import VmControl.Proofs.Pool.Exclusion

/-!
# Starts of one machine that overlap

The start of a migration looks at the tasks twice, with questions to the receiving host in between.
What it has found before the questions is not looked up again, and the second look only sees tasks
in progress. Two starts for one machine can therefore both be accepted, even if each is made before
the other one has returned. It takes a migration that comes to its end within the other start:
whoever is accepted last finds it over (`Host.Run.starts_in_turn`).

* `Host.Overlap`: each of two calls is made before the other one has returned.
* `Moment.Starts`: a call is accepted and its task is started.
* `Host.InTurn`: the task that one call has started was over when the other call was accepted.
-/

namespace VmControl

namespace Pool

variable {p q : Pool} {number : Nat} {task : FoundTask}

/-- The task has come to an outcome and has left off. -/
def Over (p : Pool) (task : FoundTask) : Prop :=
  ∃ j outcome, p.jobs[task.2]? = some j ∧ j.id = task.1 ∧ j.inProgress = false ∧
    j.work.outcome? = some outcome

/-- Where nothing stands in the way of a migration, an earlier one of the same machine is over. -/
theorem Sound.isOver {j : Job} {vm : String} (sound : p.Sound) (named : j.id = .migration vm)
    (holds : p.Holds (.migration vm, number))
    (free : ∀ n k, p.AtWork n k → ¬ j.id.Conflicts k.id) : p.Over (.migration vm, number) := by
  obtain ⟨k, here, alike⟩ := holds
  have idle : k.inProgress = false := by
    by_contra busy
    rw [Bool.not_eq_false] at busy
    refine free number k ⟨here, busy⟩ ?_
    rw [named, alike]
    exact .involved (Or.inl rfl)
  obtain ⟨outcome, ended⟩ := (sound.jobs number k here).ended idle
  exact ⟨k, outcome, here, alike, idle, ended⟩

end Pool

namespace Host

variable {config : Config} {past : List Moment} {h h' : Host} {move : Move} {errands : List Errand}
  {one other : Nat}

/-- A call that was made and has not returned. -/
def UnderWay (h : Host) (number : Nat) : Prop :=
  ∃ c, h.calls[number]? = some c ∧ ∀ outcome, c.state ≠ .returned outcome

/-- The second call is made while the first one, which was made before, is under way. -/
def Overlap (past : List Moment) (first second : Nat) : Prop :=
  first < second ∧ Once (fun _ m => (∃ s o, m.move = .call s o) ∧ m.before.calls.length = second ∧
    m.before.UnderWay first) past

/-- At a moment a call is accepted, and with it its task is started. -/
structure Moment.Starts (m : Moment) (number : Nat) (task : FoundTask) : Prop where
  accepts : ∃ after o, m.before.step? m.move = some (after, m.errands) ∧
    m.before.Returns after number o (.ok ()) ∧ o.wanted? = some task.1 ∧ after.pool.Holds task
  fresh : m.before.pool.jobs.length = task.2

/-- A call had its migration started, and it was over when the other call was accepted. -/
def InTurn (vm : String) (past : List Moment) (first second : Nat) : Prop :=
  Once (fun earlier m => ∃ n n', Once (fun _ m => m.Starts first (.migration vm, n)) earlier ∧
    m.before.pool.Over (.migration vm, n) ∧ m.Starts second (.migration vm, n')) past

theorem Step.change (sound : h.Sound) (step : h.Step move h' errands) :
    h.pool.Change h'.pool := by
  cases step with
  | call begun => exact (Operation.begin_spec sound.pool begun).change
  | goOn here stepped =>
    have relied := sound.calls _ (List.mem_of_getElem? here)
    exact (CallState.step?_spec sound.pool relied stepped).change
  | task here stepped => exact .setJob here (.of_step? stepped) fun sound => sound.of_step? stepped

/-- A move concerns one call at most. -/
theorem Step.concerns (step : h.Step move h' errands) (first : h.calls[one]? ≠ h'.calls[one]?)
    (second : h.calls[other]? ≠ h'.calls[other]?)
    (there : h'.calls[one]? ≠ none) (there' : h'.calls[other]? ≠ none) : one = other := by
  have append (c : Call) {n : Nat} (new : h.calls[n]? ≠ (h.calls ++ [c])[n]?)
      (there : (h.calls ++ [c])[n]? ≠ none) : n = h.calls.length := by
    have bound : n < (h.calls ++ [c]).length := by
      by_contra above
      exact there (List.getElem?_eq_none (by omega))
    have high : ¬ n < h.calls.length := fun low => new (List.getElem?_append_left low).symm
    rw [List.length_append, List.length_singleton] at bound
    omega
  cases step with
  | call begun => exact (append _ first there).trans (append _ second there').symm
  | @goOn number s x c p state effects here stepped =>
    have set {n : Nat} (new : h.calls[n]? ≠ (h.calls.set number { c with state := state })[n]?) :
        number = n := by
      by_contra apart
      exact new (List.getElem?_set_ne apart).symm
    exact (set first).symm.trans (set second)
  | task => exact absurd rfl first

/-- An accepted start has started its task at the move at which it returned. -/
theorem Sound.starts {o : Operation} {id : TaskId} (sound : h.Sound)
    (moved : h.step? move = some (h', errands)) (returned : h.Returns h' one o (.ok ()))
    (wanted : o.wanted? = some id) :
    Moment.Starts ⟨h, move, errands⟩ one (id, h.pool.jobs.length) ∧
      h'.pool.Holds (id, h.pool.jobs.length) ∧
      ∃ j : Job, j.id = id ∧ ∀ n k, h.pool.AtWork n k → ¬ j.id.Conflicts k.id := by
  have returns := sound.returns (step?_cases moved) returned
  have there : ∃ j : Job, j.id = id ∧ h'.pool = h.pool.start j ∧
      ∀ n k, h.pool.AtWork n k → ¬ j.id.Conflicts k.id := by
    generalize h'.pool = q at returns ⊢
    cases returns with
    | @started j wants busy free => exact ⟨j, Option.some.inj (wants.symm.trans wanted), rfl, free⟩
    | done none =>
      rw [wanted] at none
      cases none
  obtain ⟨j, named, started, free⟩ := there
  have holds : h'.pool.Holds (id, h.pool.jobs.length) := by
    rw [started]
    exact ⟨j, List.getElem?_concat_length, named⟩
  exact ⟨⟨⟨h', o, moved, returned, wanted, holds⟩, rfl⟩, holds, j, named, free⟩

/-- A call that has returned has done so at the last move, or before it. -/
theorem returns_or_returned {o : Operation} {outcome : Except ControlError Unit}
    (there : h'.calls[one]? = some ⟨o, .returned outcome⟩) :
    h.Returns h' one o outcome ∨ h.calls[one]? = some ⟨o, .returned outcome⟩ := by
  by_cases same : h.calls[one]? = h'.calls[one]?
  · exact Or.inr (same.trans there)
  · exact Or.inl ⟨there, same⟩

/-- An accepted start has started its task at some moment, and the task is still there. -/
theorem Run.started {o : Operation} {id : TaskId} (run : Run config past h)
    (wanted : o.wanted? = some id) (accepted : h.calls[one]? = some ⟨o, .returned (.ok ())⟩) :
    ∃ n, Once (fun _ m => m.Starts one (id, n)) past ∧ h.pool.Holds (id, n) := by
  induction run with
  | new => cases accepted
  | @step past h h' move errands run moved ih =>
    rcases returns_or_returned (h := h) accepted with returned | before
    · obtain ⟨starts, holds, -⟩ := run.sound.starts moved returned wanted
      exact ⟨h.pool.jobs.length, .last starts, holds⟩
    · obtain ⟨n, once, holds⟩ := ih before
      have grows := (Step.change run.sound (step?_cases moved)).grows
      exact ⟨n, once.append _, holds.grow grows⟩

/-- Of a call that has been accepted and one that is being accepted, the first one's migration is
over. -/
theorem Run.inTurn {o o' : Operation} {vm : String} (run : Run config past h)
    (moved : h.step? move = some (h', errands)) (wanted : o.wanted? = some (.migration vm))
    (wanted' : o'.wanted? = some (.migration vm))
    (accepted : h.calls[one]? = some ⟨o, .returned (.ok ())⟩)
    (returned : h.Returns h' other o' (.ok ())) :
    InTurn vm (past ++ [⟨h, move, errands⟩]) one other := by
  obtain ⟨n, once, holds⟩ := run.started wanted accepted
  obtain ⟨starts, -, j, named, free⟩ := run.sound.starts moved returned wanted'
  exact .last ⟨n, h.pool.jobs.length, once, run.sound.pool.isOver named holds free, starts⟩

/-- If two starts for one machine are both accepted, the migration of one of them had come to its
end by the time at which the other one was accepted. -/
theorem Run.starts_in_turn {o o' : MigrationOptions} (run : Run config past h)
    (apart : one ≠ other) (alike : o.vmName = o'.vmName)
    (accepted : h.calls[one]? = some ⟨.startMigration o, .returned (.ok ())⟩)
    (accepted' : h.calls[other]? = some ⟨.startMigration o', .returned (.ok ())⟩) :
    InTurn o.vmName past one other ∨ InTurn o.vmName past other one := by
  have wanted : (Operation.startMigration o).wanted? = some (.migration o.vmName) := rfl
  have wanted' : (Operation.startMigration o').wanted? = some (.migration o.vmName) := by
    rw [alike]
    rfl
  induction run with
  | new => cases accepted
  | @step past h h' move errands run moved ih =>
    rcases returns_or_returned (h := h) accepted with returned | before
    · rcases returns_or_returned (h := h) accepted' with returned' | before'
      · -- no move is the end of both calls
        refine absurd ?_ apart
        refine (step?_cases moved).concerns returned.2 returned'.2 ?_ ?_
        · rw [accepted]
          exact Option.some_ne_none _
        · rw [accepted']
          exact Option.some_ne_none _
      · exact Or.inr (run.inTurn moved wanted' wanted before' returned)
    · rcases returns_or_returned (h := h) accepted' with returned' | before'
      · exact Or.inl (run.inTurn moved wanted wanted' before returned')
      · exact (ih before before').imp (Once.append · _) (Once.append · _)

end Host

namespace Sample

/-- The migration of a machine without disks. -/
def bareOptions : MigrationOptions := { plan.options with disks := [] }

/-- What happens in a migration of it in which everything goes well, up to its outcome. -/
def bareWork : List (Surroundings × Stimulus) :=
  [(surroundings 0, .act .course .enter),
    (surroundings 0, .act .course (.answer (.ok (.port 4444)))),
    (surroundings 0, .act .transfer .enter),
    (surroundings 0, .act .transfer (.reply (.ok .null))),
    (surroundings 0, .act .transfer (.reply (.ok .null))),
    (surroundings 0, .act .transfer (.reply (.ok .null))),
    (surroundings 5000, .act .transfer (.wake .elapse)),
    (surroundings 5000, .act .transfer (.reply (.ok (.obj [("status", .str "completed")])))),
    (surroundings 5000, .act .course (.answer (.ok .done))),
    (surroundings 5000, .act .course (.reply (.ok .null))),
    (surroundings 5000, .fold), (surroundings 5000, .fold), (surroundings 5000, .fold),
    (surroundings 5000, .persist), (surroundings 5000, .kept)]

/-- While one start waits for its first answer, another one goes through, and its migration comes to
its end. Then the answer arrives: when it was asked for, the machine was not there yet. -/
def outrunMoves : List Host.Move :=
  [.call (surroundings 0) (.startMigration bareOptions),
    .goOn 0 (surroundings 0) (.answer (.ok .done)),
    .call (surroundings 0) (.startMigration bareOptions),
    .goOn 1 (surroundings 0) (.answer (.ok .done)),
    .goOn 1 (surroundings 0) (.answer (.ok (.flag false)))] ++
  bareWork.map (fun moment => .task 0 moment.1 (.work moment.2)) ++
  [.task 0 (surroundings 5000) .finish,
    .goOn 0 (surroundings 5000) (.answer (.ok (.flag false)))]

theorem outrun_replayable : ((Host.new .default).replay? outrunMoves).isSome := rfl

/-- The moves with what they found, and the host after them. -/
def outrun : List Host.Moment × Host := Option.get _ outrun_replayable

theorem outrun_run : Host.Run .default outrun.1 outrun.2 := .of_replay? outrun_replayable

theorem outrun_accepted :
    outrun.2.calls = [⟨.startMigration bareOptions, .returned (.ok ())⟩,
      ⟨.startMigration bareOptions, .returned (.ok ())⟩] := rfl

/-- Both starts are accepted, one after the migration of the other. -/
theorem outrun_in_turn : (0 : Nat) ≠ 1 ∧
    (∀ call ∈ [0, 1], outrun.2.calls[call]? =
      some ⟨.startMigration bareOptions, .returned (.ok ())⟩) ∧
    (Host.InTurn "web" outrun.1 0 1 ∨ Host.InTurn "web" outrun.1 1 0) :=
  ⟨Nat.zero_ne_one, by simp [outrun_accepted],
    outrun_run.starts_in_turn Nat.zero_ne_one rfl rfl rfl⟩

/-- That two starts of one machine overlap does not keep both from being accepted. -/
theorem overlapping_starts_accepted : ¬ ∀ config past h one other o o',
    Host.Run config past h → o.validate = .ok () → o'.validate = .ok () → o.vmName = o'.vmName →
    Host.Overlap past one other →
      ¬ ((h.calls[one]? = some ⟨.startMigration o, .returned (.ok ())⟩) ∧
      h.calls[other]? = some ⟨.startMigration o', .returned (.ok ())⟩) := by
  intro never
  have overlap : Host.Overlap outrun.1 0 1 := by
    refine ⟨by decide, outrun.1.take 2, _, outrun.1.drop 3, rfl, ?_, rfl, ?_⟩
    · exact ⟨_, _, rfl⟩
    · exact ⟨_, rfl, fun _ => nofun⟩
  exact never .default outrun.1 outrun.2 0 1 bareOptions bareOptions outrun_run rfl rfl rfl overlap
    ⟨rfl, rfl⟩

end Sample

end VmControl
