import VmControl.Copy.Run
import VmControl.Proofs.Task.Backlog

/-!
# A copy over older events

Every search and every wait of a copy is for events since its job was ordered. So with older events
in the logs a copy takes the same steps, and differs only in how many changes of the logs its wait
has taken into account (`CopyRun.step?_over`).
-/

namespace VmControl

def CopyStage.shift (more : Nat → Nat) : CopyStage → CopyStage
  | .awaitingStart j a => .awaitingStart j (a.shift more)
  | stage => stage

def CopyStage.Since (start : Timestamp) : CopyStage → Prop
  | .starting j | .listing j | .pausing j _ => start ≤ j.startedAt
  | .awaitingStart j a => start ≤ j.startedAt ∧ start ≤ a.waiter.wanted.since
  | _ => True

namespace CopyRun

/-- The same run over logs that have changed more often. -/
def shift (more : Nat → Nat) (r : CopyRun) : CopyRun := { r with stage := r.stage.shift more }

/-- A run looks for nothing that is older than a moment. -/
def Since (start : Timestamp) (r : CopyRun) : Prop := r.stage.Since start

/-- A step over older events next to the step without them. -/
def Echoes (start : Timestamp) (more : Nat → Nat) (full bare : CopyStep) : Prop :=
  full = (bare.1.shift more, bare.2) ∧ bare.1.Since start

variable {start : Timestamp} {more : Nat → Nat} {s : Surroundings} {logs : Nat → EventLog}
  {cancelled : Bool} {r : CopyRun} {j : CopyJob}

theorem shift_outcome? : (r.shift more).outcome? = r.outcome? := by
  obtain ⟨plan, stage, account⟩ := r
  cases stage <;> rfl

theorem conclusion_over (overlain : s.Overlain start more logs) (young : start ≤ j.startedAt) :
    (r.shift more).conclusion (s.over logs) j = r.conclusion s j := by
  have found (kind : String) : (s.over logs).find (r.shift more).vm ((r.shift more).wants j kind) =
      s.find r.vm (r.wants j kind) := Surroundings.find_over overlain young
  simp only [conclusion, found]
  rfl

theorem onRunning_echoes (young : start ≤ j.startedAt) (outcome : Except ControlError Event) :
    Echoes start more ((r.shift more).onRunning j outcome) (r.onRunning j outcome) := by
  cases outcome with
  | ok e => exact ⟨rfl, young⟩
  | error e => exact ⟨rfl, trivial⟩

/-- The step of a copy that follows a wait. -/
def afterWait (r : CopyRun) (j : CopyJob) : AwaitResult → CopyStep
  | .waits a => (r.goTo (.awaitingStart j a), [])
  | .over outcome => r.onRunning j outcome

theorem afterWait_echoes (young : start ≤ j.startedAt) {result : AwaitResult}
    (waits : result.Since start) :
    Echoes start more ((r.shift more).afterWait j (result.shift more)) (r.afterWait j result) := by
  rcases result with a | outcome
  · exact ⟨rfl, young, waits a rfl⟩
  · exact onRunning_echoes young outcome

theorem onStarted_echoes (overlain : s.Overlain start more logs) (young : start ≤ j.startedAt)
    (answer : Except ControlError Json) :
    Echoes start more ((r.shift more).onStarted (s.over logs) cancelled j answer)
      (r.onStarted s cancelled j answer) := by
  cases answer with
  | error e => exact ⟨rfl, trivial⟩
  | ok v =>
    have begun : (r.shift more).onStarted (s.over logs) cancelled j (.ok v) =
        (r.shift more).afterWait j ((Await.begin s r.vm _ _).shift more) :=
      congrArg ((r.shift more).afterWait j) (Await.begin_over overlain young)
    rw [begun]
    exact afterWait_echoes young (Await.begin_since young)

theorem onListing_echoes (overlain : s.Overlain start more logs) (young : start ≤ j.startedAt)
    (reply : Except ControlError Json) :
    Echoes start more ((r.shift more).onListing (s.over logs) j reply) (r.onListing s j reply) := by
  simp only [onListing]
  cases reply.bind (Reply.interpret Order.queryBlockJobs.command.name BlockJob.listing) with
  | error e => exact ⟨rfl, trivial⟩
  | ok jobs =>
    dsimp only
    rw [show (r.shift more).job = r.job from rfl, conclusion_over overlain young]
    cases BlockJob.find? jobs r.job with
    | some entry => exact ⟨rfl, young⟩
    | none =>
      dsimp only
      cases r.conclusion s j with
      | ok _ => exact ⟨rfl, trivial⟩
      | error e => exact ⟨rfl, trivial⟩

theorem woken_echoes {a : Await} {why : Wake} (overlain : s.Overlain start more logs)
    (young : start ≤ j.startedAt) (since : start ≤ a.waiter.wanted.since) :
    Option.Rel (Echoes start more)
      (((a.shift more).wake (s.over logs) cancelled why).map ((r.shift more).afterWait j))
      ((a.wake s cancelled why).map (r.afterWait j)) := by
  refine rel_map (Await.wake_echoes overlain since) fun _ result same => ?_
  obtain ⟨rfl, waits⟩ := same
  exact afterWait_echoes young waits

/-- A copy takes the same turns over older events. -/
theorem act?_over (overlain : s.Overlain start more logs) (since : r.Since start) (h : Happening) :
    Option.Rel (Echoes start more) ((r.shift more).act? (s.over logs) cancelled h)
      (r.act? s cancelled h) := by
  obtain ⟨plan, stage, account⟩ := r
  cases stage with
  | fresh =>
    cases h with
    | enter => exact .some ⟨rfl, trivial⟩
    | _ => exact .none
  | preparing =>
    cases h with
    | prepared answer =>
      cases answer with
      | error e => exact .some ⟨rfl, trivial⟩
      | ok target => exact .some ⟨rfl, overlain.young⟩
    | _ => exact .none
  | starting j =>
    cases h with
    | reply answer => exact .some (onStarted_echoes overlain since answer)
    | _ => exact .none
  | awaitingStart j a =>
    cases h with
    | wake why => exact woken_echoes overlain since.1 since.2
    | _ => exact .none
  | listing j =>
    cases h with
    | reply answer => exact .some (onListing_echoes overlain since answer)
    | _ => exact .none
  | pausing j p =>
    cases h with
    | wake why =>
      refine rel_map (rel_eq (x := p.wake s cancelled why)) fun rested _ same => ?_
      cases same
      cases rested with
      | ok _ => exact ⟨rfl, since⟩
      | error e => exact ⟨rfl, trivial⟩
    | _ => exact .none
  | cancelling j cause =>
    cases h with
    | reply => exact .some ⟨rfl, trivial⟩
    | _ => exact .none
  | closing e => cases h <;> exact .none

/-- A copy takes the same steps over older events. -/
theorem step?_over (overlain : s.Overlain start more logs) (since : r.Since start) (x : Stimulus) :
    Option.Rel (Echoes start more) ((r.shift more).step? (s.over logs) cancelled x)
      (r.step? s cancelled x) := by
  cases x with
  | act part h =>
    cases part with
    | course => exact act?_over overlain since h
    | leg | watch | transfer => exact .none
  | fold =>
    simp only [step?, Surroundings.over_stamp]
    rw [show (r.shift more).account = r.account from rfl]
    cases r.account.fold? s.stamp with
    | none => exact .none
    | some account => exact .some ⟨rfl, since⟩
  | persist | kept =>
    obtain ⟨plan, stage, account⟩ := r
    cases stage with
    | closing e => exact rel_map rel_eq fun _ next same => by cases same; exact ⟨rfl, trivial⟩
    | fresh | preparing | starting | awaitingStart | listing | pausing | cancelling => exact .none

end CopyRun

end VmControl
