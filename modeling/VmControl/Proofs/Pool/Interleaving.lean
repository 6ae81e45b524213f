import VmControl.Proofs.Pool.Calls

/-!
# Calls and tasks in any order

`Host.Sound` is the invariant of a host: of its tasks, and of what the calls that are under way rely
on. One step of a call keeps its own part of it (`Host.CallState.step?_spec`), and what other calls
rely on survives, since tasks are never forgotten. So every host that is reached is sound, in
whatever order calls and tasks have gone on (`Host.Run.sound`).
-/

namespace VmControl.Host

open Pool

variable {config : Config} {past : List Moment} {h h' : Host} {p q : Pool} {o : Operation}
  {state : CallState}

/-- What a call that has come so far relies on. -/
def CallState.Sound (p : Pool) (o : Operation) : CallState → Prop
  | .starting c => o = .startMigration c.options
  | .cancelling c => o.wanted? = none ∧ c.Sound p
  | .cancellingAll c => o.wanted? = none ∧ c.Sound p
  | .returned _ => True

theorem CallState.Sound.grow (sound : state.Sound p o) (grows : p.Grows q) : state.Sound q o := by
  cases state with
  | starting => exact sound
  | cancelling => exact ⟨sound.1, sound.2.grow grows⟩
  | cancellingAll => exact ⟨sound.1, sound.2.grow grows⟩
  | returned => trivial

/-- What one step of a call brings about. -/
structure Operation.Goes (o : Operation) (p : Pool) (said : ControlError → Prop) (q : Pool)
    (state : CallState) : Prop where
  change : p.Change q
  sound : state.Sound q o
  returns : ∀ outcome, state = .returned outcome → o.Returns p said outcome q

variable {said : ControlError → Prop}

/-- A step after which the call is over. -/
theorem Operation.Goes.of_returns {outcome : Except ControlError Unit} (change : p.Change q)
    (returns : o.Returns p said outcome q) : o.Goes p said q (.returned outcome) where
  change := change
  sound := trivial
  returns _ same := by
    cases same
    exact returns

theorem Operation.begin_spec {s : Surroundings} {effects : List CallEffect} (sound : p.Sound)
    (begun : o.begin p s = (q, state, effects)) : o.Goes p (fun _ => False) q state := by
  cases o with
  | startMigration o =>
    have same := StartCall.begin_fst p s o
    rcases StartCall.begin_spec sound s o with ⟨c, wanted, asks, named⟩ | ⟨e, ends, returns⟩
    · rw [begin, same, asks] at begun
      cases begun
      exact ⟨.nothing, by rw [CallState.Sound, named], fun _ same => by cases same⟩
    · rw [begin, same, ends] at begun
      cases begun
      exact .of_returns .nothing returns
  | startCopying o =>
    cases begun
    by_cases running : s.registry.get? o.vmName = none
    · rw [Pool.startCopying, running]
      exact .of_returns .nothing (.failed fun _ _ _ same => by cases same)
    · have attempt := sound.startCopying running
      exact .of_returns (attempt.change (Job.sound_copying ..)) (.of_attempt rfl rfl attempt)
  | cancel id =>
    simp only [begin, CancelCall.begin] at begun
    split at begun
    · cases begun
      exact .of_returns .nothing (.failed fun _ _ _ same => by cases same)
    · next number found =>
      cases begun
      have holds := sound.entered (id, number) (TaskTable.mem_of_get? found)
      exact ⟨.nothing, ⟨rfl, holds⟩, fun _ same => by cases same⟩
  | cancelAll vm =>
    cases begun
    have holds (task : FoundTask) (here : task ∈ p.table.entries.filter (·.1.involves vm)) :
        p.Holds task := sound.entered task (List.mem_filter.mp here).1
    exact ⟨.nothing, ⟨rfl, holds, holds⟩, fun _ same => by cases same⟩

theorem CallState.step?_spec {s : Surroundings} {x : Happening} {next : CallState}
    {effects : List CallEffect} (sound : p.Sound) (relied : state.Sound p o)
    (h : state.step? p s x = some (q, next, effects)) :
    o.Goes p (fun e => x = .answer (.error e)) q next := by
  cases state with
  | starting c =>
    obtain rfl : o = .startMigration c.options := relied
    obtain ⟨⟨_, turn⟩, stepped, same⟩ := Option.map_eq_some_iff.mp h
    rcases StartCall.step?_spec sound stepped with
      ⟨change, ⟨d, wanted, rfl, named⟩ | ⟨outcome, rfl, returns⟩⟩
    · cases same
      exact ⟨change, by rw [CallState.Sound, named], nofun⟩
    · cases same
      exact .of_returns change returns
  | cancelling c =>
    obtain ⟨⟨_, turn⟩, stepped, same⟩ := Option.map_eq_some_iff.mp h
    rcases CancelCall.step?_spec relied.2 stepped with
      ⟨change, ⟨d, rfl, kept⟩ | ⟨rfl, rfl⟩ | rfl⟩
    · cases same
      exact ⟨change, ⟨relied.1, kept⟩, nofun⟩
    · cases same
      exact .of_returns change (.failed nofun)
    · cases same
      exact .of_returns change (.done relied.1)
  | cancellingAll c =>
    obtain ⟨⟨_, turn⟩, stepped, same⟩ := Option.map_eq_some_iff.mp h
    rcases CancelAllCall.step?_spec relied.2 stepped with ⟨change, ⟨d, rfl, kept⟩ | rfl⟩
    · cases same
      exact ⟨change, ⟨relied.1, kept⟩, nofun⟩
    · cases same
      exact .of_returns change (.done relied.1)
  | returned => cases h

/-- The invariant of a host. -/
structure Sound (h : Host) : Prop where
  pool : h.pool.Sound
  calls : ∀ c ∈ h.calls, c.state.Sound h.pool c.operation

theorem Sound.step {move : Move} {errands : List Errand} (sound : h.Sound)
    (step : h.Step move h' errands) : h'.Sound := by
  cases step with
  | @call s o p state effects begun =>
    have goes := Operation.begin_spec sound.pool begun
    refine ⟨sound.pool.change goes.change, fun c made => ?_⟩
    -- what the calls that were made before rely on is still there
    rcases List.mem_append.mp made with old | new
    · exact (sound.calls c old).grow goes.change.grows
    · obtain rfl := List.mem_singleton.mp new
      exact goes.sound
  | @goOn number s x c p state effects here stepped =>
    have relied := sound.calls c (List.mem_of_getElem? here)
    have goes := CallState.step?_spec sound.pool relied stepped
    refine ⟨sound.pool.change goes.change, fun other made => ?_⟩
    rcases List.mem_or_eq_of_mem_set made with old | rfl
    · exact (sound.calls other old).grow goes.change.grows
    · exact goes.sound
  | @task number s x j k effects here stepped =>
    have change : h.pool.Change (h.pool.setJob number k) :=
      .setJob here (.of_step? stepped) fun sound => sound.of_step? stepped
    exact ⟨sound.pool.change change, fun c made => (sound.calls c made).grow change.grows⟩

/-- Every host that is reached is sound. -/
theorem Run.sound (run : Run config past h) : h.Sound := by
  induction run with
  | new => exact ⟨.new config, List.forall_mem_nil _⟩
  | step _ moved ih => exact ih.step (step?_cases moved)

end VmControl.Host
