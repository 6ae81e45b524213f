import VmControl.Copy.Run
import VmControl.Proofs.Task.Signals

/-!
# The acts of a copy

What each stage of a copy makes of what happens to it (`CopyRun.act?_cases`). A copy orders a backup
once, when its target is ready; it then follows the job that was taken (`CopyRun.Follows`), and
whatever it fails with meanwhile, it cancels the job first. The signal of cancellation is among
these failures only if the operator gave it.
-/

namespace VmControl

namespace CopyRun

/-- The monitor takes the job of a copy now, or has taken it before. -/
inductive Follows (r : CopyRun) (j : CopyJob) : Happening → Prop
  | taken {v : Json} (stage : r.stage = .starting j) : Follows r j (.reply (.ok v))
  | awaiting {a : Await} {h : Happening} (stage : r.stage = .awaitingStart j a) : Follows r j h
  | listing {h : Happening} (stage : r.stage = .listing j) : Follows r j h
  | pausing {p : Pause} {h : Happening} (stage : r.stage = .pausing j p) : Follows r j h

/-- The acts of a copy: what a stage makes of what happens. -/
inductive Act (r : CopyRun) (s : Surroundings) (cancelled : Bool) : Happening → CopyStep → Prop
  | begin (stage : r.stage = .fresh) : Act r s cancelled .enter r.begin
  | unprepared {e : ControlError} (stage : r.stage = .preparing) :
      Act r s cancelled (.prepared (.error e)) (r.fail cancelled e)
  | order {target : CopyTarget} (stage : r.stage = .preparing) :
      Act r s cancelled (.prepared (.ok target))
        (r.goTo (.starting ⟨target, s.stamp, .new⟩), [.order .course (r.startOrder target)])
  | refused {j : CopyJob} {e : ControlError} (stage : r.stage = .starting j) :
      Act r s cancelled (.reply (.error e))
        (discarding j (r.fail cancelled (r.failure ("start: " ++ e.message))))
  | await {j : CopyJob} {a : Await} {h : Happening} (follows : r.Follows j h) :
      Act r s cancelled h (r.goTo (.awaitingStart j a), [])
  | list {j : CopyJob} {h : Happening} (follows : r.Follows j h) : Act r s cancelled h (r.list j)
  | measured {j k : CopyJob} {p : Pause} {h : Happening} {progress : Progress}
      (follows : r.Follows j h) :
      Act r s cancelled h ((r.report [.disk r.disk.path progress]).goTo (.pausing k p), [])
  | succeed {j : CopyJob} {h : Happening} (follows : r.Follows j h) :
      Act r s cancelled h (discarding j r.succeed)
  | abandon {j : CopyJob} {h : Happening} {e : ControlError} (follows : r.Follows j h)
      (warned : h.Genuine → e = .interrupted → cancelled = true) :
      Act r s cancelled h (r.abandon j e)
  | cancelled {j : CopyJob} {cause : ControlError} {answer : Except ControlError Json}
      (stage : r.stage = .cancelling j cause) :
      Act r s cancelled (.reply answer) (discarding j (r.fail cancelled cause))

variable {r : CopyRun} {s : Surroundings} {cancelled : Bool} {j : CopyJob} {h : Happening}

theorem verdict_ne (r : CopyRun) (errors cancellations ends : List Event) :
    r.verdict errors cancellations ends ≠ .error .interrupted := by
  unfold verdict
  split
  · exact nofun
  · split
    · split <;> exact nofun
    · exact nofun

/-- The events do not tell of the signal of cancellation. -/
theorem conclusion_ne (r : CopyRun) (s : Surroundings) (j : CopyJob) :
    r.conclusion s j ≠ .error .interrupted := by
  unfold conclusion
  split
  · exact verdict_ne _ _ _ _
  · next e failed =>
    intro interrupted
    rw [Except.error.inj interrupted] at failed
    exact Surroundings.find_ne_interrupted _ _ _ failed
  · next e failed _ =>
    intro interrupted
    rw [Except.error.inj interrupted] at failed
    exact Surroundings.find_ne_interrupted _ _ _ failed
  · next e failed _ _ =>
    intro interrupted
    rw [Except.error.inj interrupted] at failed
    exact Surroundings.find_ne_interrupted _ _ _ failed

theorem Act.of_running {outcome : Except ControlError Event} (follows : r.Follows j h)
    (warned : h.Genuine → outcome = .error .interrupted → cancelled = true) :
    Act r s cancelled h (r.onRunning j outcome) := by
  cases outcome with
  | ok e => exact .list follows
  | error e =>
    refine .abandon follows fun genuine interrupted => warned genuine ?_
    rw [interrupted]

theorem Act.of_started {answer : Except ControlError Json} (stage : r.stage = .starting j) :
    Act r s cancelled (.reply answer) (r.onStarted s cancelled j answer) := by
  cases answer with
  | error e => exact .refused stage
  | ok v =>
    have follows : r.Follows j (.reply (.ok v)) := .taken stage
    simp only [onStarted]
    split
    · exact .await follows
    · next outcome ends =>
      refine .of_running follows fun _ interrupted => ?_
      rw [interrupted] at ends
      exact absurd ends (Await.begin_ne_interrupted _ _ _ _)

theorem Act.of_listing {answer : Except ControlError Json} (stage : r.stage = .listing j) :
    Act r s cancelled (.reply answer) (r.onListing s j answer) := by
  have follows : r.Follows j (.reply answer) := .listing stage
  unfold onListing
  split
  · next e failed =>
    refine .abandon follows fun genuine interrupted => ?_
    rw [interrupted] at failed
    exact absurd failed (Reply.bind_interpret_ne_interrupted genuine)
  · split
    · split
      · exact .succeed follows
      · next e concluded =>
        refine .abandon follows fun _ interrupted => ?_
        rw [interrupted] at concluded
        exact absurd concluded (conclusion_ne r s j)
    · exact .measured follows

/-- Every act of a copy is one of those listed. -/
theorem act?_cases {st : CopyStep} (act : r.act? s cancelled h = some st) :
    r.Act s cancelled h st := by
  unfold act? at act
  split at act
  · next stage =>
    cases act
    exact .begin stage
  · next answer stage =>
    cases act
    cases answer with
    | error e => exact .unprepared stage
    | ok target => exact .order stage
  · next stage =>
    cases act
    exact .of_started stage
  · next j a w stage =>
    obtain ⟨result, woken, rfl⟩ := Option.map_eq_some_iff.mp act
    rcases result with b | outcome
    · exact .await (.awaiting stage)
    · refine .of_running (.awaiting stage) fun _ interrupted => ?_
      rw [interrupted] at woken
      exact Await.cancelled_of_wake woken
  · next stage =>
    cases act
    exact .of_listing stage
  · next j p w stage =>
    obtain ⟨result, woken, rfl⟩ := Option.map_eq_some_iff.mp act
    cases result with
    | ok => exact .list (.pausing stage)
    | error e =>
      refine .abandon (.pausing stage) fun _ interrupted => ?_
      rw [interrupted] at woken
      exact Pause.cancelled_of_wake woken
  · next stage =>
    cases act
    exact .cancelled stage
  · cases act

end CopyRun

end VmControl
