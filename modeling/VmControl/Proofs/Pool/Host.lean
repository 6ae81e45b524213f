import VmControl.Pool.Cancel
import VmControl.Pool.Start
import VmControl.Proofs.Replay

/-!
# A host at work

A host has its tasks and the calls that were made to it. `Host.step?` is one move: an operation is
called, a call that is under way goes on, or something happens to a task. Every call is taken one
await at a time, so a run of moves interleaves the calls and the tasks in any order whatsoever; the
surroundings that a move finds and what happens to it are free.

* `Host.Run config past h`: the moves of `past` lead from a host without tasks to `h`.
* `Host.Step` lists the moves with what each of them finds and leaves (`Host.step?_cases`).
* `Host.replay?` leads a host through given moves (`Host.Run.of_replay?`).
-/

namespace VmControl

namespace Host

/-- What is asked of a host. -/
inductive Operation where
  /-- A migration is to be started. -/
  | startMigration (o : MigrationOptions)
  /-- A copy is to be started. -/
  | startCopying (o : CopyOptions)
  /-- A task is to be cancelled. -/
  | cancel (id : TaskId)
  /-- All tasks of a machine are to be cancelled. -/
  | cancelAll (vm : String)

/-- How far a call has come. -/
inductive CallState where
  | starting (c : StartCall)
  | cancelling (c : CancelCall)
  | cancellingAll (c : CancelAllCall)
  | returned (outcome : Except ControlError Unit)

/-- A call that was made. -/
structure Call where
  operation : Operation
  state : CallState

/-- What a call has come to, and what it wants done. -/
abbrev CallProgress := CallState × List CallEffect

/-- What a turn makes of a call. -/
def CallProgress.ofTurn {κ : Type} (state : κ → CallState) :
    CallTurn κ (Except ControlError Unit) → CallProgress
  | .goesOn c effects => (state c, effects)
  | .over outcome => (.returned outcome, [])

/-- The first step of a call. -/
def Operation.begin (p : Pool) (s : Surroundings) : Operation → Pool × CallProgress
  | .startMigration o =>
    ((StartCall.begin p s o).1, .ofTurn .starting (StartCall.begin p s o).2)
  | .startCopying o => ((p.startCopying s o).2, .returned (p.startCopying s o).1, [])
  | .cancel id => ((CancelCall.begin p id).1, .ofTurn .cancelling (CancelCall.begin p id).2)
  | .cancelAll vm => (p, .cancellingAll (.begin p vm), [])

/-- A further step of a call, if it can go on now. -/
def CallState.step? (p : Pool) (s : Surroundings) (x : Happening) :
    CallState → Option (Pool × CallProgress)
  | .starting c => (c.step? p s x).map fun (q, turn) => (q, .ofTurn .starting turn)
  | .cancelling c => (c.step? p).map fun (q, turn) => (q, .ofTurn .cancelling turn)
  | .cancellingAll c =>
    (c.step? p).map fun (q, turn) => (q, .ofTurn .cancellingAll (turn.map id .ok))
  | .returned _ => none

/-- A move of a host. -/
inductive Move where
  | call (s : Surroundings) (o : Operation)
  /-- The call with a number goes on. -/
  | goOn (number : Nat) (s : Surroundings) (x : Happening)
  /-- Something happens to the task with a number. -/
  | task (number : Nat) (s : Surroundings) (x : JobStimulus)

/-- What is wanted of the monitors and of the receiving host, and on whose behalf. -/
inductive Errand where
  | ofTask (number : Nat) (e : Effect)
  | ofCall (number : Nat) (e : CallEffect)

end Host

/-- A host with its tasks and the calls that were made to it, oldest first. -/
structure Host where
  pool : Pool
  calls : List Host.Call

namespace Host

/-- A host to which no call was made. -/
def new (config : Config) : Host := ⟨.new config, []⟩

/-- The host after a move and what the move wants done, if it can be made now. -/
def step? (h : Host) : Move → Option (Host × List Errand)
  | .call s o =>
    let (p, state, effects) := o.begin h.pool s
    some (⟨p, h.calls ++ [⟨o, state⟩]⟩, effects.map (.ofCall h.calls.length))
  | .goOn number s x =>
    match h.calls[number]? with
    | none => none
    | some c =>
      (c.state.step? h.pool s x).map fun (p, state, effects) =>
        (⟨p, h.calls.set number { c with state := state }⟩, effects.map (.ofCall number))
  | .task number s x =>
    (h.pool.step? s number x).map fun (p, effects) =>
      (⟨p, h.calls⟩, effects.map (.ofTask number))

/-- A moment of a host. -/
structure Moment where
  /-- The host before the move. -/
  before : Host
  move : Move
  errands : List Errand

/-- The moves that have led to a host, oldest first. -/
inductive Run (config : Config) : List Moment → Host → Prop
  | new : Run config [] (.new config)
  | step {past : List Moment} {h h' : Host} {move : Move} {errands : List Errand} :
      Run config past h → h.step? move = some (h', errands) →
      Run config (past ++ [⟨h, move, errands⟩]) h'

/-- The moves of a host: what each of them finds and what it leaves. -/
inductive Step (h : Host) : Move → Host → List Errand → Prop
  | call {s : Surroundings} {o : Operation} {p : Pool} {state : CallState}
      {effects : List CallEffect} (begun : o.begin h.pool s = (p, state, effects)) :
      Step h (.call s o) ⟨p, h.calls ++ [⟨o, state⟩]⟩ (effects.map (.ofCall h.calls.length))
  | goOn {number : Nat} {s : Surroundings} {x : Happening} {c : Call} {p : Pool}
      {state : CallState} {effects : List CallEffect} (here : h.calls[number]? = some c)
      (stepped : c.state.step? h.pool s x = some (p, state, effects)) :
      Step h (.goOn number s x) ⟨p, h.calls.set number { c with state := state }⟩
        (effects.map (.ofCall number))
  | task {number : Nat} {s : Surroundings} {x : JobStimulus} {j k : Job} {effects : List Effect}
      (here : h.pool.jobs[number]? = some j) (stepped : j.step? s x = some (k, effects)) :
      Step h (.task number s x) ⟨h.pool.setJob number k, h.calls⟩ (effects.map (.ofTask number))

variable {config : Config} {h h' : Host}

/-- Every move of a host is one of those listed. -/
theorem step?_cases {move : Move} {errands : List Errand} (h₁ : h.step? move = some (h', errands)) :
    h.Step move h' errands := by
  cases move with
  | call s o =>
    cases h₁
    exact .call rfl
  | goOn number s x =>
    simp only [step?] at h₁
    split at h₁
    · cases h₁
    · next c here =>
      obtain ⟨⟨p, state, effects⟩, stepped, same⟩ := Option.map_eq_some_iff.mp h₁
      cases same
      exact .goOn here stepped
  | task number s x =>
    obtain ⟨⟨p, effects⟩, stepped, same⟩ := Option.map_eq_some_iff.mp h₁
    cases same
    unfold Pool.step? at stepped
    split at stepped
    · next j here =>
      obtain ⟨⟨k, _⟩, moved, same⟩ := Option.map_eq_some_iff.mp stepped
      cases same
      exact .task here moved
    · cases stepped

/-- Leads a host through moves. -/
def replay? (h : Host) (moves : List Move) : Option (List Moment × Host) :=
  VmControl.replay? step? Prod.fst (fun h move (_, errands) => [⟨h, move, errands⟩]) h moves

/-- A host that can be led through moves from its beginning has run. -/
theorem Run.of_replay? {moves : List Move} (replayable : ((Host.new config).replay? moves).isSome) :
    Run config (Option.get _ replayable).1 (Option.get _ replayable).2 :=
  holds_of_replay? (R := Run config) .new (fun _ _ => .step) replayable

end Host

end VmControl
