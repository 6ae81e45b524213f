import VmControl.Proofs.Pool.Interleaving
import VmControl.Proofs.Task.Life

/-!
# Lives of the tasks of a host

Whatever the calls and the other tasks of a host have done meanwhile, each of its tasks has come to
where it is through moves of its own (`Host.Run.lives`). So what is true of every life of a task is
true of the tasks of every host.

`Pool.Touch` lists what a step of a call may do to the tasks: start one, tell one to stop, or
unregister one. That a task goes on is not among them.
-/

namespace VmControl

namespace Pool

variable {p q : Pool} {number : Nat} {j k : Job}

/-- What a step of a call may do to the tasks of a host. -/
inductive Touch (p : Pool) : Pool → Prop
  | nothing : Touch p p
  | start {j : Job} (begun : Job.Life [] j) : Touch p (p.start j)
  | fire {number : Nat} {q : Pool} (fired : p.fire? number = some q) : Touch p q
  | unregister (task : FoundTask) : Touch p (p.unregister task)

/-- Every task has come to where it is from its start. -/
def Lived (p : Pool) : Prop :=
  ∀ (number : Nat) (j : Job), p.jobs[number]? = some j → ∃ past, Job.Life past j

theorem fire?_eq_some (fired : p.fire? number = some q) :
    ∃ j task, p.jobs[number]? = some j ∧ j.task.cancel? = some task ∧
      q = p.setJob number { j with task := task } := by
  unfold fire? at fired
  split at fired
  · next j here =>
    obtain ⟨task, token, rfl⟩ := Option.map_eq_some_iff.mp fired
    exact ⟨j, task, here, token, rfl⟩
  · cases fired

theorem Lived.setJob {move : Job.Move} {effects : List Effect} (lived : p.Lived)
    (here : p.jobs[number]? = some j) (moved : j.move? move = some (k, effects)) :
    (p.setJob number k).Lived := by
  intro other l there
  rcases jobs_setJob here there with before | ⟨-, rfl⟩
  · exact lived other l before
  · obtain ⟨past, life⟩ := lived number j here
    exact ⟨_, life.move moved⟩

theorem Lived.touch (lived : p.Lived) (touch : p.Touch q) : q.Lived := by
  cases touch with
  | nothing => exact lived
  | start begun =>
    intro number k here
    rcases jobs_of_jobs_start here with before | ⟨-, rfl⟩
    · exact lived number k before
    · exact ⟨[], begun⟩
  | fire fired =>
    obtain ⟨j, task, here, token, rfl⟩ := fire?_eq_some fired
    have moved : j.move? .cancel = some ({ j with task := task }, []) := by
      rw [Job.move?, token]
      rfl
    exact lived.setJob here moved
  | unregister => exact lived

end Pool

open Pool

/-! ## Calls -/

variable {p q : Pool}

section

variable {c : StartCall} {s : Surroundings} {turn : CallTurn StartCall (Except ControlError Unit)}

theorem StartCall.register_touch (h : c.register p s = (q, turn)) : p.Touch q := by
  unfold register at h
  split at h
  · cases h
    exact .nothing
  · cases h
    exact .start (.migration ..)

theorem StartCall.step?_touch {x : Happening} (h : c.step? p s x = some (q, turn)) :
    p.Touch q := by
  unfold step? at h
  split at h
  · split at h <;> cases h <;> exact .nothing
  · obtain ⟨answer, -, came⟩ := Option.map_eq_some_iff.mp h
    unfold onName at came
    split at came
    · cases came
      exact .nothing
    · split at came
      · cases came
        exact .nothing
      · split at came
        · exact register_touch came
        · cases came
          exact .nothing
  · obtain ⟨answer, -, came⟩ := Option.map_eq_some_iff.mp h
    unfold onRoom at came
    split at came
    · cases came
      exact .nothing
    · exact register_touch came

end

theorem CancelCall.step?_touch {c : CancelCall}
    {turn : CallTurn CancelCall (Except ControlError Unit)} (h : c.step? p = some (q, turn)) :
    p.Touch q := by
  unfold step? at h
  split at h
  · split at h
    · cases h
      exact .nothing
    · next fired =>
      cases h
      exact .fire fired
  · split at h <;> cases h
    exact .nothing
  · cases h
    exact .unregister _

theorem CancelAllCall.step?_touch {c : CancelAllCall} {turn : CallTurn CancelAllCall Unit}
    (h : c.step? p = some (q, turn)) : p.Touch q := by
  unfold step? at h
  split at h
  · next task _ _ =>
    cases h
    cases fired : p.fire? task.2 with
    | none => exact .nothing
    | some q => exact .fire fired
  · cases h
    exact .nothing
  · split at h <;> cases h
    exact .nothing
  · cases h
    exact .unregister _
  · cases h
    exact .nothing

namespace Host

variable {config : Config} {past : List Moment} {h h' : Host} {state next : CallState}

theorem Operation.begin_touch {o : Operation} {s : Surroundings} {effects : List CallEffect}
    (begun : o.begin p s = (q, state, effects)) : p.Touch q := by
  cases o with
  | startMigration o =>
    obtain ⟨rfl, -⟩ := Prod.mk.inj begun
    rw [StartCall.begin_fst]
    exact .nothing
  | startCopying o =>
    cases begun
    unfold Pool.startCopying
    split
    · exact .nothing
    · split
      · exact .nothing
      · exact .start (.copying ..)
  | cancel id =>
    simp only [begin, CancelCall.begin] at begun
    split at begun <;> cases begun <;> exact .nothing
  | cancelAll vm =>
    cases begun
    exact .nothing

theorem CallState.step?_touch {s : Surroundings} {x : Happening} {effects : List CallEffect}
    (h : state.step? p s x = some (q, next, effects)) : p.Touch q := by
  cases state with
  | starting c =>
    obtain ⟨⟨_, turn⟩, stepped, same⟩ := Option.map_eq_some_iff.mp h
    obtain ⟨rfl, -⟩ := Prod.mk.inj same
    exact c.step?_touch stepped
  | cancelling c =>
    obtain ⟨⟨_, turn⟩, stepped, same⟩ := Option.map_eq_some_iff.mp h
    obtain ⟨rfl, -⟩ := Prod.mk.inj same
    exact c.step?_touch stepped
  | cancellingAll c =>
    obtain ⟨⟨_, turn⟩, stepped, same⟩ := Option.map_eq_some_iff.mp h
    obtain ⟨rfl, -⟩ := Prod.mk.inj same
    exact c.step?_touch stepped
  | returned => cases h

/-! ## Hosts -/

theorem Step.lived {move : Move} {errands : List Errand} (step : h.Step move h' errands)
    (lived : h.pool.Lived) : h'.pool.Lived := by
  cases step with
  | call begun => exact lived.touch (Operation.begin_touch begun)
  | goOn _ stepped => exact lived.touch (CallState.step?_touch stepped)
  | @task number s x j k effects here stepped =>
    have moved : j.move? (.step s x) = some (k, effects) := stepped
    exact lived.setJob here moved

/-- Every task of a host that is reached has come to where it is from its start. -/
theorem Run.lives (run : Run config past h) : h.pool.Lived := by
  induction run with
  | new => exact fun _ _ here => nomatch here
  | step _ moved ih => exact (step?_cases moved).lived ih

end Host

end VmControl
