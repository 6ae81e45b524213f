import VmControl.Gate
import VmControl.Proofs.Waits

/-!
# Where the signal of cancellation comes from

A wait fails with the signal of cancellation only if it was interrupted, a search of the events
never does, and an answer does only if it says so itself. What happens to a task from outside is
*genuine* if it brings no such answer (`Happening.Genuine`). So whoever fails with the signal
although everything that happened was genuine has been interrupted.
-/

namespace VmControl

/-- Something happens that does not bring the signal of cancellation from outside. -/
def Happening.Genuine : Happening → Prop
  | .reply said => said ≠ .error .interrupted
  | .answer said => said ≠ .error .interrupted
  | .prepared made => made ≠ .error .interrupted
  | .enter | .found _ | .wake _ => True

/-- A target that cannot be made ready is refused by the operating system: making it ready is
genuine. -/
theorem Happening.genuine_prepared (fs : FileSystem) (o : CopyOptions) :
    (Happening.prepared (CopyTarget.prepare fs o).1).Genuine := by
  change (CopyTarget.prepare fs o).1 ≠ .error .interrupted
  unfold CopyTarget.prepare
  split
  · dsimp only
    split <;> intro failing <;> cases failing
  · intro failing
    cases failing
  · intro failing
    cases failing

theorem Registry.find_ne_interrupted (r : Registry) (vm : String) :
    r.find vm ≠ .error .interrupted := by
  unfold find
  split <;> intro failing <;> cases failing

theorem Surroundings.find_ne_interrupted (s : Surroundings) (vm : String) (w : Wanted) :
    s.find vm w ≠ .error .interrupted := by
  intro interrupted
  obtain ⟨_, impossible⟩ := (s.find_eq_error_iff vm w .interrupted).mp interrupted
  cases impossible

theorem Reply.bind_interpret_ne_interrupted {α : Type} {command : String} {decoder : Decoder α}
    {answer : Except ControlError Json} (genuine : answer ≠ .error .interrupted) :
    answer.bind (interpret command decoder) ≠ .error .interrupted := by
  cases answer with
  | error e =>
    intro interrupted
    cases interrupted
    exact genuine rfl
  | ok reply =>
    simp only [Except.bind, interpret]
    split <;> intro failing <;> cases failing

theorem ControlError.map_ne_interrupted {α β : Type} {x : Except ControlError α} {f : α → β}
    (genuine : x ≠ .error .interrupted) : x.map f ≠ .error .interrupted := by
  cases x with
  | ok a =>
    intro failing
    cases failing
  | error e =>
    intro failing
    cases failing
    exact genuine rfl

theorem EventLog.look_ne_interrupted (log : EventLog) (w : Wanted) :
    log.look w ≠ some (.error .interrupted) := by
  unfold look
  split
  · intro failing
    cases failing
  · split <;> intro failing <;> cases failing

theorem Await.begin_ne_interrupted (s : Surroundings) (vm : String) (w : Wanted)
    (timeout : UInt64) :
    Await.begin s vm w timeout ≠ .over (.error .interrupted) := by
  intro interrupted
  rw [Await.begin] at interrupted
  split at interrupted
  · next e missing =>
    cases interrupted
    exact Registry.find_ne_interrupted _ _ missing
  · dsimp only at interrupted
    split at interrupted <;> cases interrupted
    next looked => exact EventLog.look_ne_interrupted _ _ looked

section

variable {s : Surroundings} {cancelled : Bool} {w : Wake}

/-- A wait for an event that fails with the signal was interrupted. -/
theorem Await.cancelled_of_wake {a : Await}
    (woken : a.wake s cancelled w = some (.over (.error .interrupted))) : cancelled = true := by
  cases w with
  | notice =>
    simp only [wake] at woken
    split at woken
    · split at woken <;> cases woken
      next looked => exact absurd looked (EventLog.look_ne_interrupted _ _)
    · cases woken
  | interrupt => exact (a.wake_interrupt_isSome_iff s cancelled).mp (by rw [woken]; rfl)
  | elapse =>
    simp only [wake] at woken
    split at woken <;> cases woken

/-- So was a pause. -/
theorem Pause.cancelled_of_wake {p : Pause}
    (woken : p.wake s cancelled w = some (.error .interrupted)) :
    cancelled = true := by
  cases w with
  | notice => cases woken
  | interrupt => exact (p.wake_interrupt_isSome_iff s cancelled).mp (by rw [woken]; rfl)
  | elapse =>
    simp only [wake] at woken
    split at woken <;> cases woken

/-- So was someone who waited at a gate. -/
theorem Gate.cancelled_of_look {g : Gate} (looked : g.look cancelled = some (.error .interrupted)) :
    cancelled = true := by
  unfold look at looked
  split at looked
  · cases looked
  · split at looked
    · next stop => exact stop
    · cases looked

/-- A request under a bound fails with the signal if it is interrupted or answered so. -/
theorem Bound.cancelled_of_resolve? {b : Bound} {h : Happening} (genuine : h.Genuine)
    (resolved : b.resolve? s cancelled h = some (.error .interrupted)) : cancelled = true := by
  unfold resolve? at resolved
  split at resolved
  · split at resolved
    · cases resolved
    · cases resolved
      exact (genuine rfl).elim
  · split at resolved
    · next stop => exact stop
    · cases resolved
  · split at resolved <;> cases resolved
  · cases resolved

end

end VmControl
