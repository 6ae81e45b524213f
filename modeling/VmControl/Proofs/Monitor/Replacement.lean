import VmControl.Proofs.Monitor.Switchboard

/-!
# Which connection a machine has

A machine has the connection that was registered for it last, unless its registration was taken away
since. Every other connection that was ever made was replaced or taken away by one call, which
closes it before it returns, and no other call ever closes anything.

* `Switchboard.Latest`, `Switchboard.Ousted`: both told by what has happened.
* `Switchboard.Step.session`, `Switchboard.Step.closes`: what a move does to a connection, and who
  closes connections after it.
* `Switchboard.Sound`: what every move keeps.
* `Switchboard.Run.registrations_orderly`: the registrations, and who closes what.
-/

namespace VmControl

section Lists

variable {α : Type} {l : List α} {a x : α} {i j : Nat}

theorem getElem?_concat_cases (here : (l ++ [a])[i]? = some x) :
    l[i]? = some x ∨ i = l.length ∧ x = a := by
  rw [List.getElem?_append] at here
  split at here
  · exact Or.inl here
  · obtain ⟨last, rfl⟩ := List.getElem?_eq_some_iff.mp here
    rw [List.length_singleton] at last
    exact Or.inr ⟨by omega, List.getElem_singleton _⟩

theorem getElem?_set_cases (here : (l.set i a)[j]? = some x) :
    i ≠ j ∧ l[j]? = some x ∨ i = j ∧ x = a := by
  by_cases same : i = j
  · subst same
    obtain ⟨bound, rfl⟩ := List.getElem?_eq_some_iff.mp here
    exact Or.inr ⟨rfl, List.getElem_set_self _⟩
  · exact Or.inl ⟨same, (List.getElem?_set_ne same).symm.trans here⟩

end Lists

theorem Session.finished_of_step? {s t : Session} {x : SessionStep} (stepped : s.step? x = some t)
    (finished : s.closing = .finished) : t.closing = .finished := by
  cases Session.shuts_of_step? stepped with
  | begins unbegun => cases finished.symm.trans unbegun
  | takes begun => cases finished.symm.trans begun
  | ends taken => cases finished.symm.trans taken
  | other _ same => exact same.trans finished

namespace Switchboard

variable {b d : Switchboard} {past : List Event} {move : Move} {e : Event} {vm other : String}
  {call c p q : Nat} {s t : Session} {failure : ControlError}

/-! ## What has happened -/

/-- The call that has changed the registration of a machine, and the machine. -/
def Event.change? : Event → Option (Nat × String)
  | .registered call vm _ | .dismissed call vm => some (call, vm)
  | _ => none

/-- An attempt has gone on or has failed. -/
def Event.isAttempt : Event → Bool
  | .asked _ | .heard _ | .failed .. => true
  | _ => false

/-- A connection was registered for a machine, and the registration was not changed since. -/
def Latest (past : List Event) (vm : String) (c : Nat) : Prop :=
  ∃ earlier call later, past = earlier ++ .registered call vm c :: later ∧
    ∀ e ∈ later, ∀ other, e.change? ≠ some (other, vm)

/-- A call has replaced a connection or has taken it away. -/
def Ousted (past : List Event) (call c : Nat) : Prop :=
  Once (fun earlier e => ∃ vm, e.change? = some (call, vm) ∧ Latest earlier vm c) past

theorem latest_concat : Latest (past ++ [e]) vm c ↔
    (∃ call, e = .registered call vm c) ∨
      Latest past vm c ∧ ∀ other, e.change? ≠ some (other, vm) := by
  constructor
  · rintro ⟨earlier, call, later, split, calm⟩
    rcases concat_eq_split_iff.mp split with ⟨-, -, rfl⟩ | ⟨rest, rfl, front⟩
    · exact Or.inl ⟨call, rfl⟩
    · refine Or.inr ⟨⟨earlier, call, rest, front, fun a listed => ?_⟩, ?_⟩
      · exact calm a (List.mem_append_left _ listed)
      · exact calm e (List.mem_append_right _ (List.mem_singleton_self e))
  · rintro (⟨call, rfl⟩ | ⟨⟨earlier, call, later, rfl, calm⟩, still⟩)
    · exact ⟨past, call, [], rfl, nofun⟩
    · refine ⟨earlier, call, later ++ [e], by simp, fun a listed => ?_⟩
      rcases List.mem_append.mp listed with before | now
      · exact calm a before
      · rw [List.mem_singleton.mp now]
        exact still

theorem ousted_concat : Ousted (past ++ [e]) call c ↔
    Ousted past call c ∨ ∃ vm, e.change? = some (call, vm) ∧ Latest past vm c := once_concat

/-! ## What a move does -/

/-- The connection of a machine. -/
def connection? (b : Switchboard) (vm : String) : Option Nat := b.enrolment.registry.get? vm

/-- A call is to close a connection before it returns. -/
def Closes (b : Switchboard) (call c : Nat) : Prop :=
  b.enrolment.calls[call]? = some (.retiring c)

def Returned (b : Switchboard) (call : Nat) : Prop := b.enrolment.calls[call]? = some .returned

/-- The last step of closing a connection was made. -/
def Finished (b : Switchboard) (c : Nat) : Prop :=
  ∃ s, b.sessions[c]? = some s ∧ s.closing = .finished

/-- A connection was closed: its calls, its writing half and its log are given up. -/
def Closed (b : Switchboard) (c : Nat) : Prop := ∃ s, b.sessions[c]? = some s ∧ s.IsClosed

theorem Step.connection? (step : b.Step e d) : d.connection? vm =
    match e with
    | .registered _ named c => if vm = named then some c else b.connection? vm
    | .dismissed _ named => if vm = named then none else b.connection? vm
    | _ => b.connection? vm := by
  cases step with
  | asked | heard | failed | closing | closed | used => rfl
  | registered => exact OrderedMap.get?_insert ..
  | dismissed => exact OrderedMap.get?_erase ..

/-- Only the calls that register or take away change what belongs to whom. -/
theorem Step.connection?_of_calm (step : b.Step e d)
    (calm : ∀ other, e.change? ≠ some (other, vm)) :
    d.connection? vm = b.connection? vm := by
  rw [step.connection?]
  cases e with
  | asked | heard | failed | closing | closed | used => rfl
  | registered call named c => exact if_neg fun same => calm call (by rw [same, Event.change?])
  | dismissed call named => exact if_neg fun same => calm call (by rw [same, Event.change?])

/-- A move leaves the registration as it is, or the machine has another connection now, or none. -/
theorem Step.connection?_cases (step : b.Step e d) (now : d.connection? vm = some c) :
    (∃ call, e = .registered call vm c) ∨
      b.connection? vm = some c ∧ ∀ other, e.change? ≠ some (other, vm) := by
  rw [step.connection?] at now
  cases e with
  | asked | heard | failed | closing | closed | used => exact Or.inr ⟨now, nofun⟩
  | registered call named made =>
    dsimp only at now
    split at now
    · next same =>
      cases now
      exact Or.inl ⟨call, by rw [same]⟩
    · next differ =>
      refine Or.inr ⟨now, fun other changes => ?_⟩
      cases changes
      exact differ rfl
  | dismissed call named =>
    dsimp only at now
    split at now
    · cases now
    · next differ =>
      refine Or.inr ⟨now, fun other changes => ?_⟩
      cases changes
      exact differ rfl

theorem Step.registered_eq (step : b.Step (.registered call vm c) d) : c = b.enrolment.made := by
  cases step
  rfl

/-- A connection after a move was there before, or it has just been registered. -/
theorem Step.made (step : b.Step e d) (length : b.sessions.length = b.enrolment.made)
    (made : c < d.sessions.length) :
    c < b.sessions.length ∨ ∃ call vm, e = .registered call vm c := by
  cases step with
  | asked | heard | failed | dismissed => exact Or.inl made
  | @registered call vm =>
    rw [List.length_append, List.length_singleton] at made
    rcases Nat.lt_succ_iff_lt_or_eq.mp made with before | rfl
    · exact Or.inl before
    · exact Or.inr ⟨call, vm, by rw [length]⟩
  | closing | closed | used =>
    rw [List.length_set] at made
    exact Or.inl made

theorem retire_eq_retiring {old : Option Nat} :
    Enrolment.retire old = .retiring c ↔ old = some c := by
  cases old <;> simp [Enrolment.retire]

/-- Whoever closes a connection after a move has done so before, or has just replaced it or taken it
away. -/
theorem Step.closes (step : b.Step e d) (closes : d.Closes call c) :
    (b.Closes call c ∧ e ≠ .closed call c) ∨
      ∃ vm, e.change? = some (call, vm) ∧ b.connection? vm = some c := by
  cases step with
  | asked =>
    rcases getElem?_concat_cases closes with before | ⟨-, ⟨⟩⟩
    exact Or.inl ⟨before, nofun⟩
  | heard | closing | used => exact Or.inl ⟨closes, nofun⟩
  | failed =>
    rcases getElem?_set_cases closes with ⟨-, before⟩ | ⟨-, ⟨⟩⟩
    exact Or.inl ⟨before, nofun⟩
  | @registered _ vm =>
    rcases getElem?_set_cases closes with ⟨-, before⟩ | ⟨rfl, new⟩
    · exact Or.inl ⟨before, nofun⟩
    · exact Or.inr ⟨vm, rfl, retire_eq_retiring.mp new.symm⟩
  | dismissed vm =>
    rcases getElem?_concat_cases closes with before | ⟨rfl, new⟩
    · exact Or.inl ⟨before, nofun⟩
    · exact Or.inr ⟨vm, rfl, retire_eq_retiring.mp new.symm⟩
  | closed =>
    rcases getElem?_set_cases closes with ⟨apart, before⟩ | ⟨-, ⟨⟩⟩
    refine Or.inl ⟨before, fun same => ?_⟩
    cases same
    exact apart rfl

/-- A call goes on closing a connection until it has closed it. -/
theorem Step.closes_or_closed (step : b.Step e d) (closes : b.Closes call c) :
    d.Closes call c ∨ e = .closed call c := by
  have low : call < b.enrolment.calls.length := (List.getElem?_eq_some_iff.mp closes).1
  have appended (stage : EnrolmentCall) :
      (b.enrolment.calls ++ [stage])[call]? = some (.retiring c) :=
    (List.getElem?_append_left low).trans closes
  cases step with
  | asked | dismissed => exact Or.inl (appended _)
  | heard | closing | used => exact Or.inl closes
  | @failed other _ connecting | @registered other _ connecting =>
    refine Or.inl ((List.getElem?_set_ne ?_).trans closes)
    rintro rfl
    cases connecting.symm.trans closes
  | @closed other _ _ _ _ retiring =>
    by_cases same : other = call
    · subst same
      cases retiring.symm.trans closes
      exact Or.inr rfl
    · exact Or.inl ((List.getElem?_set_ne same).trans closes)

theorem Step.returned (step : b.Step e d) (returned : b.Returned call) : d.Returned call := by
  have low : call < b.enrolment.calls.length := (List.getElem?_eq_some_iff.mp returned).1
  cases step with
  | asked | dismissed => exact (List.getElem?_append_left low).trans returned
  | heard | closing | used => exact returned
  | failed connecting | registered connecting | closed connecting =>
    refine (List.getElem?_set_ne ?_).trans returned
    rintro rfl
    cases connecting.symm.trans returned

/-- Whoever has replaced a connection or has taken it away closes it. -/
theorem Step.closes_of_change (step : b.Step e d) (changes : e.change? = some (call, vm))
    (old : b.connection? vm = some c) : d.Closes call c := by
  have retiring : Enrolment.retire (b.connection? vm) = .retiring c := retire_eq_retiring.mpr old
  cases step with
  | asked | heard | failed | closing | closed | used => cases changes
  | registered connecting =>
    cases changes
    exact (List.getElem?_set_self (List.getElem?_eq_some_iff.mp connecting).1).trans
      (congrArg some retiring)
  | dismissed =>
    cases changes
    exact List.getElem?_concat_length.trans (congrArg some retiring)

/-- A call that has closed a connection has returned. -/
theorem Step.of_closed (step : b.Step (.closed call c) d) : d.Returned call ∧ d.Finished c := by
  cases step with
  | closed retiring here stepped finished =>
    exact ⟨List.getElem?_set_self (List.getElem?_eq_some_iff.mp retiring).1, _,
      List.getElem?_set_self (List.getElem?_eq_some_iff.mp here).1, finished⟩

/-- A connection is closed by those who are to close it, and by nobody else. -/
theorem Step.session (step : b.Step e d) (here : b.sessions[c]? = some s) :
    ∃ t, d.sessions[c]? = some t ∧ t.vm = s.vm ∧
      ((t.closing = s.closing ∧ t.isOpen = s.isOpen) ∨
        ∃ call, b.Closes call c ∧ (s.closing = .finished → t.closing = .finished) ∧
          (t.closing = .finished → e = .closed call c)) := by
  have low : c < b.sessions.length := (List.getElem?_eq_some_iff.mp here).1
  cases step with
  | asked | heard | failed | dismissed => exact ⟨s, here, rfl, Or.inl ⟨rfl, rfl⟩⟩
  | registered =>
    exact ⟨s, (List.getElem?_append_left low).trans here, rfl, Or.inl ⟨rfl, rfl⟩⟩
  | @closing call own _ t _ retiring there stepped going =>
    by_cases same : own = c
    · subst same
      cases there.symm.trans here
      exact ⟨t, List.getElem?_set_self low, (Session.step?_cases stepped).vm_eq,
        Or.inr ⟨call, retiring, Session.finished_of_step? stepped, fun ended => absurd ended going⟩⟩
    · exact ⟨s, (List.getElem?_set_ne same).trans here, rfl, Or.inl ⟨rfl, rfl⟩⟩
  | @closed call own _ t _ retiring there stepped _ =>
    by_cases same : own = c
    · subst same
      cases there.symm.trans here
      exact ⟨t, List.getElem?_set_self low, (Session.step?_cases stepped).vm_eq,
        Or.inr ⟨call, retiring, Session.finished_of_step? stepped, fun _ => rfl⟩⟩
    · exact ⟨s, (List.getElem?_set_ne same).trans here, rfl, Or.inl ⟨rfl, rfl⟩⟩
  | @used own _ t x there stepped other =>
    by_cases same : own = c
    · subst same
      cases there.symm.trans here
      exact ⟨t, List.getElem?_set_self low, (Session.step?_cases stepped).vm_eq,
        Or.inl ⟨Session.closing_of_step? stepped other, Session.isOpen_of_step? stepped other⟩⟩
    · exact ⟨s, (List.getElem?_set_ne same).trans here, rfl, Or.inl ⟨rfl, rfl⟩⟩

/-- A connection after a move is one from before, or one after a step of its own, or a new one. -/
theorem Step.session_cases (step : b.Step e d) (there : d.sessions[c]? = some t) :
    b.sessions[c]? = some t ∨ (∃ s x, b.sessions[c]? = some s ∧ s.step? x = some t) ∨
      ∃ vm, t = .new vm := by
  cases step with
  | asked | heard | failed | dismissed => exact Or.inl there
  | @registered call vm =>
    rcases getElem?_concat_cases there with before | ⟨-, new⟩
    · exact Or.inl before
    · exact Or.inr (Or.inr ⟨vm, new⟩)
  | closing _ here stepped | closed _ here stepped | used here stepped =>
    rcases getElem?_set_cases there with ⟨-, before⟩ | ⟨rfl, rfl⟩
    · exact Or.inl before
    · exact Or.inr (Or.inl ⟨_, _, here, stepped⟩)

theorem Step.finished (step : b.Step e d) (finished : b.Finished c) : d.Finished c := by
  obtain ⟨s, here, finished⟩ := finished
  obtain ⟨t, there, -, ⟨same, -⟩ | ⟨_, -, still, -⟩⟩ := step.session here
  · exact ⟨t, there, same.trans finished⟩
  · exact ⟨t, there, still finished⟩

/-! ## What every move keeps -/

/-- Every connection that is registered is there and usable, and whatever is to be closed is
registered no longer. Each connection has got to where it is by moves that its closing allows. -/
structure Sound (b : Switchboard) : Prop where
  length : b.sessions.length = b.enrolment.made
  led : ∀ {c : Nat} {s : Session}, b.sessions[c]? = some s → ∃ past, Shutdown.Run s.vm past (.of s)
  usable : ∀ {vm c}, b.connection? vm = some c →
    ∃ s, b.sessions[c]? = some s ∧ s.vm = vm ∧ s.IsUsable
  closes : ∀ {call c}, b.Closes call c →
    (∃ s, b.sessions[c]? = some s ∧ s.closing ≠ .finished) ∧ ∀ vm, b.connection? vm ≠ some c
  sole : ∀ {p q c}, b.Closes p c → b.Closes q c → p = q

theorem sound_new : new.Sound where
  length := rfl
  led here := by cases here
  usable registered := by cases registered
  closes closes := by cases closes
  sole closes := by cases closes

namespace Sound

variable (sound : b.Sound)
include sound

theorem lt_made (registered : b.connection? vm = some c) : c < b.enrolment.made := by
  obtain ⟨s, here, -⟩ := sound.usable registered
  rw [← sound.length]
  exact (List.getElem?_eq_some_iff.mp here).1

/-- No connection belongs to two machines. -/
theorem vm_unique (one : b.connection? vm = some c) (two : b.connection? other = some c) :
    vm = other := by
  obtain ⟨s, here, named, -⟩ := sound.usable one
  obtain ⟨t, there, also, -⟩ := sound.usable two
  cases here.symm.trans there
  exact named.symm.trans also

theorem length_step (step : b.Step e d) : d.sessions.length = d.enrolment.made := by
  have length := sound.length
  cases step with
  | asked | heard | failed | dismissed => exact length
  | registered => rw [List.length_append, List.length_singleton, length]
  | closing | closed | used => rw [List.length_set, length]

theorem led_step (step : b.Step e d) (there : d.sessions[c]? = some t) :
    ∃ past, Shutdown.Run t.vm past (.of t) := by
  rcases step.session_cases there with before | ⟨s, x, here, stepped⟩ | ⟨vm, rfl⟩
  · exact sound.led before
  · obtain ⟨past, run⟩ := sound.led here
    obtain ⟨later, leads⟩ := Shutdown.Leads.of_step? stepped
    rw [(Session.step?_cases stepped).vm_eq]
    exact ⟨past ++ later, run.trans leads⟩
  · exact ⟨[], .refl⟩

/-- Whoever has made the last step of closing a connection has closed it. -/
theorem closed_of_finished (finished : b.Finished c) : b.Closed c := by
  obtain ⟨s, here, finished⟩ := finished
  obtain ⟨past, run⟩ := sound.led here
  exact ⟨s, here, run.shutting.isClosed finished⟩

theorem usable_step (step : b.Step e d) (now : d.connection? vm = some c) :
    ∃ s, d.sessions[c]? = some s ∧ s.vm = vm ∧ s.IsUsable := by
  rcases step.connection?_cases now with ⟨call, rfl⟩ | ⟨before, -⟩
  · cases step with
    | registered =>
      rw [← sound.length]
      exact ⟨_, List.getElem?_concat_length, rfl, Session.isUsable_new vm⟩
  · obtain ⟨s, here, named, usable⟩ := sound.usable before
    obtain ⟨t, there, same, ⟨closing, isOpen⟩ | ⟨call, closes, -⟩⟩ := step.session here
    · exact ⟨t, there, same.trans named, closing.trans usable.closing, isOpen.trans usable.isOpen⟩
    · exact absurd before ((sound.closes closes).2 vm)

/-- What is replaced or taken away belongs to nobody afterwards. -/
theorem connection?_ne_of_change (step : b.Step e d) (changes : e.change? = some (call, vm))
    (old : b.connection? vm = some c) : d.connection? other ≠ some c := by
  intro now
  rcases step.connection?_cases now with ⟨_, rfl⟩ | ⟨before, calm⟩
  · have new := step.registered_eq
    have below := sound.lt_made old
    omega
  · rw [sound.vm_unique old before] at changes
    exact calm call changes

theorem closes_step (step : b.Step e d) (closes : d.Closes call c) :
    (∃ s, d.sessions[c]? = some s ∧ s.closing ≠ .finished) ∧ ∀ vm, d.connection? vm ≠ some c := by
  rcases step.closes closes with ⟨before, going⟩ | ⟨vm, changes, old⟩
  · obtain ⟨⟨s, here, unfinished⟩, nobody⟩ := sound.closes before
    constructor
    · -- only the call itself finishes the connection, and then it closes it no longer
      obtain ⟨t, there, -, ⟨same, -⟩ | ⟨p, also, -, done⟩⟩ := step.session here
      · exact ⟨t, there, same ▸ unfinished⟩
      · refine ⟨t, there, fun finished => going ?_⟩
        rw [done finished, sound.sole also before]
    · intro vm now
      rcases step.connection?_cases now with ⟨_, rfl⟩ | ⟨was, -⟩
      · -- the connection that is registered now was not there before
        have new := step.registered_eq
        have below := (List.getElem?_eq_some_iff.mp here).1
        have length := sound.length
        omega
      · exact nobody vm was
  · obtain ⟨s, here, -, usable⟩ := sound.usable old
    refine ⟨?_, fun other => sound.connection?_ne_of_change step changes old⟩
    obtain ⟨t, there, -, ⟨same, -⟩ | ⟨p, also, -⟩⟩ := step.session here
    · refine ⟨t, there, ?_⟩
      rw [same, usable.closing]
      exact nofun
    · exact absurd old ((sound.closes also).2 vm)

theorem sole_step (step : b.Step e d) (one : d.Closes p c) (two : d.Closes q c) : p = q := by
  rcases step.closes one with ⟨before, -⟩ | ⟨vm, changes, old⟩
  · rcases step.closes two with ⟨also, -⟩ | ⟨vm, -, old⟩
    · exact sound.sole before also
    · exact absurd old ((sound.closes before).2 vm)
  · rcases step.closes two with ⟨also, -⟩ | ⟨other, too, -⟩
    · exact absurd old ((sound.closes also).2 vm)
    · cases changes.symm.trans too
      rfl

theorem step (step : b.Step e d) : d.Sound where
  length := sound.length_step step
  led := sound.led_step step
  usable := sound.usable_step step
  closes := sound.closes_step step
  sole := sound.sole_step step

end Sound

theorem Run.sound (run : Run past b) : b.Sound := by
  induction run with
  | new => exact sound_new
  | step _ stepped ih => exact ih.step (step?_cases stepped)

/-! ## The registrations and what has happened -/

theorem Run.connection?_eq_some_iff (run : Run past b) :
    b.connection? vm = some c ↔ Latest past vm c := by
  induction run with
  | new =>
    refine iff_of_false nofun ?_
    rintro ⟨earlier, call, later, split, -⟩
    cases earlier <;> cases split
  | @step past b d move e _ stepped ih =>
    have step := step?_cases stepped
    rw [latest_concat, ← ih]
    constructor
    · exact step.connection?_cases
    · rintro (⟨call, rfl⟩ | ⟨before, calm⟩)
      · rw [step.connection?]
        exact if_pos rfl
      · exact (step.connection?_of_calm calm).trans before

/-- A connection that was replaced or taken away is closed, or whoever has done so goes on closing
it. -/
theorem Run.closes_or_finished (run : Run past b) (ousted : Ousted past call c) :
    b.Closes call c ∨ b.Returned call ∧ b.Finished c := by
  induction run with
  | new =>
    obtain ⟨earlier, _, later, split, -⟩ := ousted
    cases earlier <;> cases split
  | step before stepped ih =>
    have step := step?_cases stepped
    rcases ousted_concat.mp ousted with earlier | ⟨vm, changes, latest⟩
    · rcases ih earlier with closes | ⟨returned, finished⟩
      · rcases step.closes_or_closed closes with still | rfl
        · exact Or.inl still
        · exact Or.inr step.of_closed
      · exact Or.inr ⟨step.returned returned, step.finished finished⟩
    · exact Or.inl (step.closes_of_change changes (before.connection?_eq_some_iff.mpr latest))

/-- What was replaced or taken away belongs to nobody. -/
theorem Run.connection?_ne_of_ousted (run : Run past b) (ousted : Ousted past call c) :
    b.connection? vm ≠ some c := by
  intro registered
  rcases run.closes_or_finished ousted with closes | ⟨-, s, here, finished⟩
  · exact (run.sound.closes closes).2 vm registered
  · obtain ⟨t, there, -, usable⟩ := run.sound.usable registered
    cases here.symm.trans there
    cases finished.symm.trans usable.closing

theorem Run.ousted_unique (run : Run past b) (one : Ousted past p c) (two : Ousted past q c) :
    p = q := by
  induction run with
  | new =>
    obtain ⟨earlier, _, later, split, -⟩ := one
    cases earlier <;> cases split
  | step before stepped ih =>
    have registered {vm} (latest : Latest _ vm c) := before.connection?_eq_some_iff.mpr latest
    rcases ousted_concat.mp one with earlier | ⟨vm, changes, latest⟩
    · rcases ousted_concat.mp two with also | ⟨vm, -, latest⟩
      · exact ih earlier also
      · exact absurd (registered latest) (before.connection?_ne_of_ousted earlier)
    · rcases ousted_concat.mp two with also | ⟨other, too, -⟩
      · exact absurd (registered latest) (before.connection?_ne_of_ousted also)
      · cases changes.symm.trans too
        rfl

/-- No connection is forgotten. -/
theorem Run.registered_or_ousted (run : Run past b) (made : c < b.sessions.length) :
    (∃ vm, b.connection? vm = some c) ∨ ∃ call, Ousted past call c := by
  induction run with
  | new => cases made
  | @step past b d move e before stepped ih =>
    have step := step?_cases stepped
    rcases step.made before.sound.length made with earlier | ⟨call, vm, rfl⟩
    · rcases ih earlier with ⟨vm, registered⟩ | ⟨call, ousted⟩
      · by_cases calm : ∀ other, e.change? ≠ some (other, vm)
        · exact Or.inl ⟨vm, (step.connection?_of_calm calm).trans registered⟩
        · obtain ⟨call, changes⟩ := not_forall_not.mp calm
          exact Or.inr ⟨call, ousted_concat.mpr
            (Or.inr ⟨vm, changes, before.connection?_eq_some_iff.mp registered⟩)⟩
      · exact Or.inr ⟨call, ousted.append [e]⟩
    · refine Or.inl ⟨vm, ?_⟩
      rw [step.connection?]
      exact if_pos rfl

/-! ## Attempts that fail -/

/-- The call whose attempt is decided, or that has taken a registration away. -/
def Event.settles? : Event → Option Nat
  | .failed call _ | .registered call _ _ | .dismissed call _ => some call
  | _ => none

/-- A call makes a connection no longer, if it ever did. -/
def Settled (b : Switchboard) (call : Nat) : Prop :=
  ∃ stage, b.enrolment.calls[call]? = some stage ∧ ∀ vm, stage ≠ .connecting vm

theorem settles?_of_change (changes : e.change? = some (call, vm)) : e.settles? = some call := by
  cases e with
  | asked | heard | failed | closing | closed | used => cases changes
  | registered | dismissed =>
    cases changes
    rfl

theorem retire_ne_connecting {old : Option Nat} : Enrolment.retire old ≠ .connecting vm := by
  cases old <;> exact nofun

/-- An attempt is decided while it goes on, and then it is over. -/
theorem Step.settles (step : b.Step e d) (settles : e.settles? = some call) :
    ¬ b.Settled call ∧ d.Settled call := by
  have unsettled {vm} (connecting : b.enrolment.calls[call]? = some (.connecting vm)) :
      ¬ b.Settled call := by
    rintro ⟨stage, here, decided⟩
    cases here.symm.trans connecting
    exact decided vm rfl
  cases step with
  | asked | heard | closing | closed | used => cases settles
  | failed connecting =>
    cases settles
    exact ⟨unsettled connecting, _,
      List.getElem?_set_self (List.getElem?_eq_some_iff.mp connecting).1, nofun⟩
  | registered connecting =>
    cases settles
    exact ⟨unsettled connecting, _,
      List.getElem?_set_self (List.getElem?_eq_some_iff.mp connecting).1,
      fun _ => retire_ne_connecting⟩
  | dismissed =>
    cases settles
    refine ⟨?_, _, List.getElem?_concat_length, fun _ => retire_ne_connecting⟩
    rintro ⟨stage, here, -⟩
    exact absurd (List.getElem?_eq_some_iff.mp here).1 (Nat.lt_irrefl _)

theorem Step.settled (step : b.Step e d) (settled : b.Settled call) : d.Settled call := by
  obtain ⟨stage, here, decided⟩ := settled
  have low : call < b.enrolment.calls.length := (List.getElem?_eq_some_iff.mp here).1
  cases step with
  | asked | dismissed => exact ⟨stage, (List.getElem?_append_left low).trans here, decided⟩
  | heard | closing | used => exact ⟨stage, here, decided⟩
  | @failed other | @closed other =>
    by_cases same : other = call
    · subst same
      exact ⟨_, List.getElem?_set_self low, nofun⟩
    · exact ⟨stage, (List.getElem?_set_ne same).trans here, decided⟩
  | @registered other =>
    by_cases same : other = call
    · subst same
      exact ⟨_, List.getElem?_set_self low, fun _ => retire_ne_connecting⟩
    · exact ⟨stage, (List.getElem?_set_ne same).trans here, decided⟩

theorem Run.settled (run : Run past b) (happened : e ∈ past) (settles : e.settles? = some call) :
    b.Settled call := by
  induction run with
  | new => cases happened
  | step _ stepped ih =>
    have step := step?_cases stepped
    rcases List.mem_append.mp happened with before | now
    · exact step.settled (ih before)
    · rw [List.mem_singleton.mp now] at settles
      exact (step.settles settles).2

/-- A call whose attempt fails changes no registration, neither before nor after. -/
theorem Run.change?_ne_of_failed (run : Run past b) (failed : .failed call failure ∈ past)
    (happened : e ∈ past) : e.change? ≠ some (call, vm) := by
  intro changes
  induction run with
  | new => cases happened
  | @step past b d move last before stepped ih =>
    have step := step?_cases stepped
    rcases List.mem_append.mp failed with first | now
    · rcases List.mem_append.mp happened with also | now
      · exact ih first also
      · rw [List.mem_singleton.mp now] at changes
        exact (step.settles (settles?_of_change changes)).1 (before.settled first rfl)
    · obtain rfl := List.mem_singleton.mp now
      rcases List.mem_append.mp happened with also | last
      · exact (step.settles rfl).1 (before.settled also (settles?_of_change changes))
      · rw [List.mem_singleton.mp last] at changes
        cases changes

/-! ## The registrations, and who closes what -/

/-- An attempt that goes on or fails leaves everything else as it is. -/
theorem Step.attempt (step : b.Step e d) (attempt : e.isAttempt = true) :
    d.enrolment.registry = b.enrolment.registry ∧ d.sessions = b.sessions := by
  cases step with
  | asked | heard | failed => exact ⟨rfl, rfl⟩
  | registered | dismissed | closing | closed | used => cases attempt

/-- Whoever closes a connection can go on with it, unless a line is being written there. -/
theorem Closes.goesOn (closes : b.Closes call c) (here : b.sessions[c]? = some s)
    (going : s.closing ≠ .finished) (idle : s.Unwritten) :
    ∃ d e, b.step? (.close call) = some (d, e) := by
  obtain ⟨x, t, next, stepped⟩ := Session.exists_nextClosing idle going
  have retiring : b.enrolment.retiring? call = some c := retiring?_eq_some_iff.mpr closes
  have close : b.enrolment.calls[call]? = some (.retiring c) := closes
  rw [step?, retiring, Option.bind_some, here, Option.bind_some, goOnClosing, next,
    Option.bind_some, stepped, Option.bind_some]
  dsimp only
  split
  · exact ⟨_, _, by rw [Enrolment.step?, close, Option.map_some]⟩
  · exact ⟨_, _, rfl⟩

/-- What the moves so far have led to, as those who use the connections see it. -/
structure Orderly (past : List Event) (b : Switchboard) : Prop where
  /-- A machine has the connection that was registered for it last and not taken away since. -/
  latest : ∀ vm c, b.connection? vm = some c ↔ Latest past vm c
  /-- Nobody has begun to close it, and commands can be written to it. -/
  usable : ∀ vm c, b.connection? vm = some c →
    ∃ s, b.sessions[c]? = some s ∧ s.vm = vm ∧ s.IsUsable
  /-- An attempt changes no registration and touches no connection until it succeeds. -/
  attempt : ∀ move d e, b.step? move = some (d, e) → e.isAttempt = true →
    d.enrolment.registry = b.enrolment.registry ∧ d.sessions = b.sessions
  failed : ∀ call failure, .failed call failure ∈ past → ∀ e ∈ past, ∀ vm,
    e.change? ≠ some (call, vm)
  /-- When a call returns that has replaced a connection or has taken it away, the connection is
  closed: nobody awaits a reply there, and nothing can be written to it. -/
  closed : ∀ call c, Ousted past call c → b.Returned call → b.Closed c
  /-- Until then it goes on closing the connection, and only a line that is being written holds it
  up. -/
  goesOn : ∀ call c, Ousted past call c → b.Returned call ∨
    ∃ s, b.sessions[c]? = some s ∧ (s.Unwritten → ∃ d e, b.step? (.close call) = some (d, e))
  sole : ∀ p q c, Ousted past p c → Ousted past q c → p = q
  /-- Every connection that was ever made is registered, or it was replaced or taken away. -/
  kept : ∀ c, c < b.sessions.length →
    (∃ vm, b.connection? vm = some c) ∨ ∃ call, Ousted past call c

/-- Whatever is asked for, and whenever attempts succeed or fail: a machine has the connection that
was registered for it last and not taken away since, and it is open. An attempt that fails has
changed nothing. Whatever was replaced or taken away is closed when the call returns that did it,
and nothing else is. -/
theorem Run.registrations_orderly (run : Run past b) : Orderly past b where
  latest _ _ := run.connection?_eq_some_iff
  usable _ _ := run.sound.usable
  attempt _ _ _ stepped := (step?_cases stepped).attempt
  failed _ _ failed _ happened _ := run.change?_ne_of_failed failed happened
  closed call c ousted returned := by
    rcases run.closes_or_finished ousted with closes | ⟨-, finished⟩
    · cases closes.symm.trans returned
    · exact run.sound.closed_of_finished finished
  goesOn call c ousted := by
    rcases run.closes_or_finished ousted with closes | ⟨returned, -⟩
    · obtain ⟨⟨s, here, going⟩, -⟩ := run.sound.closes closes
      exact Or.inr ⟨s, here, closes.goesOn here going⟩
    · exact Or.inl returned
  sole _ _ _ := run.ousted_unique
  kept _ := run.registered_or_ousted

end Switchboard

namespace Sample

open Switchboard

/-- What a monitor says while a connection to it is opened. -/
def introduced (call : Nat) : List Move :=
  [.hear call "\x7b\"QMP\": 1\x7d" ⟨0, 0⟩, .hear call "\x7b\"return\": 4\x7d" ⟨0, 0⟩]

/-- Two calls connect to one machine at the same time; a third one fails after the monitor has
introduced itself to it, and a fourth one takes the connection away while the second one still
closes the first. -/
def overlapping : List Move :=
  [.connect "alice", .connect "alice", .connect "alice"] ++ introduced 0 ++
    [.hear 2 "\x7b\"QMP\": 1\x7d" ⟨0, 0⟩, .breakOff 2 Handshake.ended] ++ introduced 1 ++
    [.close 1, .dismiss "alice", .close 3, .close 1, .close 3, .close 1]

def overlappingEvents : List Switchboard.Event :=
  [.asked "alice", .asked "alice", .asked "alice", .heard 0, .registered 0 "alice" 0, .heard 2,
    .failed 2 Handshake.ended, .heard 1, .registered 1 "alice" 1, .closing 1 0,
    .dismissed 3 "alice", .closing 3 1, .closing 1 0, .closing 3 1, .closed 1 0]

theorem overlapping_replayable : (Switchboard.new.replay? overlapping).isSome := by decide +kernel

def overlapped : List Switchboard.Event × Switchboard := Option.get _ overlapping_replayable

theorem overlapped_events : overlapped.1 = overlappingEvents := by decide +kernel

theorem overlapped_run : Run overlappingEvents overlapped.2 := by
  rw [← overlapped_events]
  exact .of_replay? overlapping_replayable

/-- The second call has closed the first connection and has returned. The connection that was taken
away is not closed yet, and whoever has taken it away can go on with that. -/
theorem overlapped_orderly : Run overlappingEvents overlapped.2 ∧ overlapped.2.Returned 1 ∧
    overlapped.2.Closed 0 ∧ ¬ overlapped.2.Returned 3 ∧
    (∃ d e, overlapped.2.step? (.close 3) = some (d, e)) ∧
    overlapped.2.connection? "alice" = none ∧ ∀ c, ¬ Latest overlappingEvents "alice" c := by
  have orderly := Run.registrations_orderly overlapped_run
  have first : Ousted overlappingEvents 1 0 :=
    ⟨overlappingEvents.take 8, .registered 1 "alice" 1, overlappingEvents.drop 9, rfl, "alice", rfl,
      overlappingEvents.take 4, 0, (overlappingEvents.take 8).drop 5, rfl,
      by simp [overlappingEvents, Event.change?]⟩
  have second : Ousted overlappingEvents 3 1 :=
    ⟨overlappingEvents.take 10, .dismissed 3 "alice", overlappingEvents.drop 11, rfl, "alice", rfl,
      overlappingEvents.take 8, 1, [.closing 1 0], rfl, by simp [Event.change?]⟩
  have returned : overlapped.2.Returned 1 :=
    show overlapped.2.enrolment.calls[1]? = some .returned by decide +kernel
  have going : ¬ overlapped.2.Returned 3 :=
    show overlapped.2.enrolment.calls[3]? ≠ some .returned by decide +kernel
  have nobody : overlapped.2.connection? "alice" = none := by decide +kernel
  have idle : (overlapped.2.sessions[1]?).map Session.writer? = some none := by decide +kernel
  obtain ⟨s, here, next⟩ := (orderly.goesOn 3 1 second).resolve_left going
  rw [here] at idle
  refine ⟨overlapped_run, returned, orderly.closed 1 0 first returned, going,
    next (Session.unwritten_of_writer? (Option.some.inj idle)), nobody, fun c latest => ?_⟩
  cases nobody.symm.trans ((orderly.latest "alice" c).mpr latest)

end Sample

end VmControl
