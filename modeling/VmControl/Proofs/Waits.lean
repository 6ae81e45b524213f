import VmControl.Task.Reaction

/-!
# How waits end

What is known when a wait goes on or ends with success. A wait for an event ends with an event that
the watched log held at that moment (`Await.begin_over_ok`, `Await.wake_over_ok`), and while it
lasts it watches one connection for one thing (`Await.begin_waits`, `Await.wake_waits`).
-/

namespace VmControl

theorem EventLog.mem_of_look_ok {log : EventLog} {w : Wanted} {e : Event}
    (h : log.look w = some (.ok e)) : e ∈ log.events ∧ w.holds e = true := by
  rw [look, first?] at h
  split at h
  · next found =>
    cases h
    exact ⟨List.mem_of_find?_eq_some found, List.find?_some found⟩
  · split at h <;> cases h

namespace Await

theorem begin_waits {s : Surroundings} {vm : String} {wanted : Wanted} {timeout : UInt64}
    {a : Await} (h : Await.begin s vm wanted timeout = .waits a) :
    s.registry.find vm = .ok a.connection ∧ a.waiter.wanted = wanted := by
  rw [Await.begin] at h
  split at h
  · cases h
  · next connection found =>
    dsimp only at h
    split at h <;> cases h
    exact ⟨found, rfl⟩

theorem begin_over_ok {s : Surroundings} {vm : String} {wanted : Wanted} {timeout : UInt64}
    {e : Event} (h : Await.begin s vm wanted timeout = .over (.ok e)) :
    ∃ connection, s.registry.find vm = .ok connection ∧
      e ∈ (s.log connection).events ∧ wanted.holds e = true := by
  rw [Await.begin] at h
  split at h
  · cases h
  · next connection found =>
    dsimp only at h
    split at h <;> cases h
    next look => exact ⟨connection, found, EventLog.mem_of_look_ok look⟩

variable {a : Await} {s : Surroundings} {cancelled : Bool} {w : Wake}

theorem wake_waits {b : Await} (h : a.wake s cancelled w = some (.waits b)) :
    b.connection = a.connection ∧ b.waiter.wanted = a.waiter.wanted := by
  cases w with
  | notice =>
    simp only [wake] at h
    split at h
    · split at h <;> cases h
      exact ⟨rfl, rfl⟩
    · cases h
  | interrupt | elapse =>
    simp only [wake] at h
    split at h <;> cases h

theorem wake_over_ok {e : Event} (h : a.wake s cancelled w = some (.over (.ok e))) :
    e ∈ (s.log a.connection).events ∧ a.waiter.wanted.holds e = true := by
  cases w with
  | notice =>
    simp only [wake] at h
    split at h
    · split at h
      · next look =>
        cases h
        exact EventLog.mem_of_look_ok look
      · cases h
    · cases h
  | interrupt | elapse =>
    simp only [wake] at h
    split at h <;> cases h

end Await

/-- A request that nobody may interrupt fails by its answer or when its time has run out. -/
theorem Bound.resolve?_error {b : Bound} {s : Surroundings} {h : Happening} {e : ControlError}
    (resolved : b.resolve? s false h = some (.error e)) :
    h = .answer (.error e) ∨ e = b.failure := by
  unfold resolve? at resolved
  split at resolved
  · cases resolved
    exact Or.inl rfl
  · cases resolved
  · split at resolved <;> cases resolved
    exact Or.inr rfl
  · cases resolved

end VmControl
