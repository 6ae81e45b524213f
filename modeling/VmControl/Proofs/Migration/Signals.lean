import VmControl.Proofs.Migration.Reactions
import VmControl.Proofs.Task.Signals

/-!
# Signals within the phases of a migration

A mirror, the transfer, or the mirrors together fail with the signal of cancellation only if they
were interrupted, provided that what happens to them is genuine. Every other failure has a wording
of its own.
-/

namespace VmControl

/-! ## One mirror -/

namespace Leg

variable {plan : MigrationPlan} {target : Endpoint} {s : Surroundings} {l : Leg}

theorem onRunning_ne {outcome : Except ControlError Event}
    (genuine : outcome ≠ .error .interrupted) :
    (l.onRunning outcome).next ≠ .error .interrupted := by
  cases outcome with
  | ok e =>
    intro failing
    cases failing
  | error e =>
    intro failing
    cases failing
    exact genuine rfl

theorem onStarted_ne (answer : Except ControlError Json) :
    (l.onStarted plan s answer).next ≠ .error .interrupted := by
  cases answer with
  | error e =>
    intro failing
    cases failing
  | ok v =>
    simp only [onStarted]
    split
    · intro failing
      cases failing
    · next outcome ends =>
      refine onRunning_ne fun interrupted => ?_
      rw [interrupted] at ends
      exact Await.begin_ne_interrupted _ _ _ _ ends

theorem vanished_ne (plan : MigrationPlan) (s : Surroundings) (l : Leg) :
    l.vanished plan s ≠ .interrupted := by
  unfold vanished
  split <;> intro failing <;> cases failing

theorem onListing_ne {answer : Except ControlError Json} (genuine : answer ≠ .error .interrupted) :
    (l.onListing plan s answer).next ≠ .error .interrupted := by
  have told : answer.bind (Reply.interpret Order.queryBlockJobs.command.name BlockJob.listing) ≠
      .error .interrupted := Reply.bind_interpret_ne_interrupted genuine
  unfold onListing
  split
  · next e failed =>
    intro failing
    cases failing
    exact told failed
  · split
    · intro failed
      exact vanished_ne plan s l (Except.error.inj failed)
    · intro failing
      cases failing

theorem onEnded_ne {outcome : Except ControlError Event} (genuine : outcome ≠ .error .interrupted) :
    (l.onEnded outcome).next ≠ .error .interrupted := by
  cases outcome with
  | error e =>
    intro failing
    cases failing
    exact genuine rfl
  | ok e =>
    simp only [onEnded]
    split <;> intro failing <;> cases failing

theorem onGone_ne : (l.onGone plan s).next ≠ .error .interrupted := by
  unfold onGone
  split
  · next e failed =>
    intro failing
    cases failing
    exact Surroundings.find_ne_interrupted _ _ _ failed
  · intro failed
    exact vanished_ne plan s l (Except.error.inj failed)
  · split
    · next e failed =>
      intro failing
      cases failing
      exact Surroundings.find_ne_interrupted _ _ _ failed
    · split <;> intro failing <;> cases failing

theorem onCompleted_ne (since : Timestamp) (answer : Except ControlError Json) :
    (l.onCompleted plan s since answer).next ≠ .error .interrupted := by
  cases answer with
  | error e =>
    simp only [onCompleted]
    split
    · exact onGone_ne
    · intro failing
      cases failing
  | ok v =>
    simp only [onCompleted]
    split
    · intro failing
      cases failing
    · next outcome ends =>
      refine onEnded_ne fun interrupted => ?_
      rw [interrupted] at ends
      exact Await.begin_ne_interrupted _ _ _ _ ends

/-- A mirror that fails with the signal of cancellation was interrupted. -/
theorem cancelled_of_react? {cancelled : Bool} {h : Happening} {t : Reaction Leg}
    (genuine : h.Genuine) (react : l.react? plan target s cancelled h = some t)
    (failed : t.next = .error .interrupted) : cancelled = true := by
  unfold react? at react
  split at react
  · cases react; cases failed
  · cases react; exact absurd failed (onStarted_ne _)
  · obtain ⟨result, woken, rfl⟩ := Option.map_eq_some_iff.mp react
    rcases result with b | outcome
    · cases failed
    · refine Await.cancelled_of_wake (woken.trans ?_)
      cases outcome with
      | ok e => cases failed
      | error e => cases failed; rfl
  · cases react; exact absurd failed (onListing_ne genuine)
  · obtain ⟨result, woken, rfl⟩ := Option.map_eq_some_iff.mp react
    rcases result with e | v
    · cases failed; exact Pause.cancelled_of_wake woken
    · cases failed
  · cases react; cases failed
  · cases react; exact absurd failed (onCompleted_ne _ _)
  · obtain ⟨result, woken, rfl⟩ := Option.map_eq_some_iff.mp react
    rcases result with b | outcome
    · cases failed
    · by_cases same : outcome = .error .interrupted
      · rw [same] at woken
        exact Await.cancelled_of_wake woken
      · exact absurd failed (onEnded_ne same)
  · cases react

end Leg

/-! ## The transfer -/

namespace Transfer

variable {plan : MigrationPlan} {target : Endpoint} {s : Surroundings}

theorem onAnswer_ne {meter : Meter} {answer : Except ControlError Json}
    (genuine : answer ≠ .error .interrupted) :
    (onAnswer plan s meter answer).next ≠ .error .interrupted := by
  have told : answer.bind (Reply.interpret Order.queryMigrate.command.name MigrationInfo.ofDraft) ≠
      .error .interrupted := Reply.bind_interpret_ne_interrupted genuine
  unfold onAnswer
  split
  · next e failed =>
    intro failing
    cases failing
    exact told failed
  · unfold onProgress
    dsimp only
    split <;> intro failing <;> cases failing

theorem follow_ne {next : Transfer} {order : Order} {answer : Except ControlError Json}
    (genuine : answer ≠ .error .interrupted) :
    (follow next order answer).next ≠ .error .interrupted := by
  cases answer with
  | ok v =>
    intro failing
    cases failing
  | error e =>
    intro failing
    cases failing
    exact genuine rfl

/-- A transfer that fails with the signal of cancellation was interrupted. -/
theorem cancelled_of_react? {cancelled : Bool} {ready : Gate} {t : Transfer} {h : Happening}
    {r : Reaction Transfer} (genuine : h.Genuine)
    (react : t.react? plan target s cancelled ready h = some r)
    (failed : r.next = .error .interrupted) : cancelled = true := by
  unfold react? at react
  split at react
  · obtain ⟨look, looks, rfl⟩ := Option.map_eq_some_iff.mp react
    rcases look with e | _
    · cases failed; exact Gate.cancelled_of_look looks
    · cases failed
  · cases react; exact absurd failed (follow_ne genuine)
  · cases react; exact absurd failed (follow_ne genuine)
  · cases react; cases failed
  · cases react; cases failed; exact (genuine rfl).elim
  · obtain ⟨result, woken, rfl⟩ := Option.map_eq_some_iff.mp react
    rcases result with e | _
    · cases failed; exact Pause.cancelled_of_wake woken
    · cases failed
  · cases react; exact absurd failed (onAnswer_ne genuine)
  · cases react

end Transfer

/-! ## The mirrors together -/

namespace Mirroring

variable {plan : MigrationPlan} {target : Endpoint} {s : Surroundings}

theorem measureAll_ne (jobs : List BlockJob) (legs : List Leg) :
    (measureAll plan s jobs legs).1 ≠ .error .interrupted := by
  induction legs with
  | nil =>
    intro failing
    cases failing
  | cons leg rest ih =>
    simp only [measureAll]
    split
    · intro failed
      exact Leg.vanished_ne plan s leg (Except.error.inj failed)
    · exact ControlError.map_ne_interrupted ih

theorem onListing_ne {legs : List Leg} {answer : Except ControlError Json}
    (genuine : answer ≠ .error .interrupted) :
    (onListing plan s legs answer).next ≠ .error .interrupted := by
  have told : answer.bind (Reply.interpret Order.queryBlockJobs.command.name BlockJob.listing) ≠
      .error .interrupted := Reply.bind_interpret_ne_interrupted genuine
  unfold onListing
  split
  · next e failed =>
    intro failing
    cases failing
    exact told failed
  · next jobs _ => exact ControlError.map_ne_interrupted (measureAll_ne jobs legs)

theorem advance_error {legs : List Leg} {n : Nat} {r : Reaction Leg} {e : ControlError}
    (failed : (advance legs n r).next = .error e) : r.next = .error e := by
  cases next : r.next with
  | error e' => simpa [advance, next] using failed
  | ok leg =>
    simp only [advance, next] at failed
    split at failed <;> cases failed

theorem settle_error {legs : List Leg} {n : Nat} {r : Reaction Leg} {e : ControlError}
    (failed : (settle legs n r).next = .error e) : r.next = .error e := by
  cases next : r.next with
  | error e' => simpa [settle, Turn.map, Turn.mapOrder, next, Except.map] using failed
  | ok leg => simp [settle, Turn.map, Turn.mapOrder, next, Except.map] at failed

/-- A turn of the mirrors that does not fail does not end them with a failure. -/
theorem Step.unfailed {migrated : Gate} {m next : Mirroring} {part : Part} {h : Happening}
    {order : Option (Part × Order)} {reports : List StatUpdate}
    (turn : Step plan target s migrated m part h ⟨.ok next, order, reports⟩) (e : ControlError) :
    next.outcome? ≠ some (.error e) := by
  cases turn with
  | syncing | synced | measured | migrated | poll | completing | ended =>
    intro failing
    cases failing

/-- Mirrors that fail with the signal of cancellation were interrupted. -/
theorem cancelled_of_react? {cancelled : Bool} {migrated : Gate} {m : Mirroring} {part : Part}
    {h : Happening} {t : MirrorTurn} (genuine : h.Genuine)
    (react : m.react? plan target s cancelled migrated part h = some t)
    (failed : t.next = .error .interrupted) : cancelled = true := by
  unfold react? at react
  split at react
  · split at react
    · obtain ⟨r, turn, rfl⟩ := Option.map_eq_some_iff.mp react
      exact Leg.cancelled_of_react? genuine turn (advance_error failed)
    · cases react
  · split at react
    · cases react; exact absurd failed (onListing_ne genuine)
    · cases react
  · split at react
    · obtain ⟨look, looks, rfl⟩ := Option.map_eq_some_iff.mp react
      rcases look with e | _
      · cases failed; exact Gate.cancelled_of_look looks
      · cases failed
    · split at react <;> cases react
      cases failed
    · cases react
  · split at react
    · obtain ⟨r, turn, rfl⟩ := Option.map_eq_some_iff.mp react
      exact Leg.cancelled_of_react? genuine turn (settle_error failed)
    · cases react
  · cases react

end Mirroring

end VmControl
