import VmControl.Proofs.Monitor.EventLog
import VmControl.Proofs.Monitor.Steps

/-!
# Events on a connection

* `Session.Run.log_eq`: the log holds the events that were received, in the order in which they
  came, as many of the last ones as it keeps.
* `Session.Run.unheard`: had the events not come, all else would be the same.
-/

namespace VmControl

/-- The event that is received at a step. -/
def SessionStep.event? (x : SessionStep) : Option Event :=
  match x.inbound? with
  | some (.event e) => some e
  | _ => none

namespace Session

variable {s t : Session} {past : List Moment} {x : SessionStep} {m : Moment} {vm : String}
  {log : EventLog}

/-! ## The log -/

/-- The events that were received, oldest first. -/
def heard (past : List Moment) : List Event := past.filterMap (·.step.event?)

/-- An event is recorded, and nothing else records anything. -/
theorem Step.hears (step : s.Step x t) :
    (x.event? = none ∧ t.log.events = s.log.events ∧ t.log.capacity = s.log.capacity) ∨
      ∃ e, x.event? = some e ∧ t = { s with log := s.log.push e } := by
  have failed : s.failPending.log = s.log := by rw [failPending_frame]
  have stopped : s.stopReader.log = s.log.close := congrArg EventLog.close failed
  cases step with
  | call | giveTurn | enroll | refuse | written | unwritten | drop | takeWriter =>
    exact Or.inl ⟨rfl, rfl, rfl⟩
  | pass reading noEvent noReply =>
    refine Or.inl ⟨?_, rfl, rfl⟩
    unfold SessionStep.event?
    split
    · next e told => exact absurd told (noEvent e)
    · rfl
  | event reading told =>
    refine Or.inr ⟨_, ?_, rfl⟩
    rw [SessionStep.event?, told]
  | reply reading told =>
    refine Or.inl ⟨by rw [SessionStep.event?, told], ?_⟩
    unfold deliver
    split <;> exact ⟨rfl, rfl⟩
  | giveUp reading nothing =>
    refine Or.inl ⟨by rw [SessionStep.event?, nothing], ?_⟩
    rw [stopped]
    exact ⟨rfl, rfl⟩
  | lose | beginClose =>
    refine Or.inl ⟨rfl, ?_⟩
    have closed : s.stopReader.log.events = s.log.events ∧
        s.stopReader.log.capacity = s.log.capacity := by
      rw [stopped]
      exact ⟨rfl, rfl⟩
    exact closed
  | endClose =>
    have same : s.failPending.log.events = s.log.events ∧
        s.failPending.log.capacity = s.log.capacity := by
      rw [failed]
      exact ⟨rfl, rfl⟩
    exact Or.inl ⟨rfl, same⟩

theorem answerAll_log {outcome : Except ControlError Json} {entries : List (Nat × Nat)} :
    ∀ {s : Session}, ({ s with log := log } : Session).answerAll outcome entries =
      { s.answerAll outcome entries with log := log } := by
  induction entries with
  | nil =>
    intro s
    rfl
  | cons entry rest ih =>
    intro s
    exact ih (s := s.change entry.2 (·.answer entry.1 outcome))

theorem failPending_log : ({ s with log := log } : Session).failPending =
    { s.failPending with log := log } := by
  rw [failPending_eq, failPending_eq]
  show { ({ s with log := log } : Session).answerAll (.error s.unanswered) s.pending with
    pending := [] } = _
  rw [answerAll_log]

theorem stopReader_log : ({ s with log := log } : Session).stopReader =
    { s.stopReader with log := log.close } := by
  rw [stopReader, failPending_log]
  rfl

theorem take_log {line : String} {receipt : Timestamp}
    (silent : (SessionStep.receive line receipt).event? = none) :
    ∃ log', ({ s with log := log } : Session).take line receipt =
      { s.take line receipt with log := log' } := by
  by_cases blank : Line.isBlank line = true
  · rw [take, take, if_pos blank, if_pos blank]
    exact ⟨log, rfl⟩
  have told : (SessionStep.receive line receipt).inbound? = (Inbound.parse line receipt).toOption :=
    if_neg blank
  rw [take, take, if_neg blank, if_neg blank]
  cases parsed : Inbound.parse line receipt with
  | ok inbound =>
    rw [parsed] at told
    rcases inbound with _ | ⟨_ | id, outcome⟩ | e
    · exact ⟨log, rfl⟩
    · exact ⟨log, rfl⟩
    · refine ⟨log, ?_⟩
      simp only [accept, deliver]
      split <;> rfl
    · rw [SessionStep.event?, told] at silent
      cases silent
  | error e =>
    by_cases skipped : e.isSkipped = true
    · exact ⟨log, by simp only [skipped, if_true]⟩
    · refine ⟨log.close, ?_⟩
      simp only [skipped]
      exact stopReader_log

/-- What a step does to all but the log does not depend on the log. -/
theorem step?_log (stepped : s.step? x = some t) (silent : x.event? = none) :
    ∃ log', ({ s with log := log } : Session).step? x = some { t with log := log' } := by
  cases x with
  | call command =>
    cases stepped
    exact ⟨log, rfl⟩
  | giveTurn =>
    simp only [step?] at stepped
    split at stepped
    · next free first =>
      cases stepped
      have free' : ({ s with log := log } : Session).turn? = none := free
      have first' : ({ s with log := log } : Session).first? = some _ := first
      simp only [step?, free', first']
      exact ⟨log, rfl⟩
    · cases stepped
  | register =>
    simp only [step?] at stepped
    split at stepped
    · next found =>
      cases stepped
      have found' : ({ s with log := log } : Session).current? = some _ := found
      simp only [step?, found', enroll]
      split <;> exact ⟨log, rfl⟩
    · cases stepped
  | written =>
    simp only [step?] at stepped
    split at stepped
    · next found =>
      cases stepped
      have found' : ({ s with log := log } : Session).current? = some _ := found
      simp only [step?, found']
      exact ⟨log, rfl⟩
    · cases stepped
  | unwritten reason =>
    simp only [step?] at stepped
    split at stepped
    · next found =>
      cases stepped
      have found' : ({ s with log := log } : Session).current? = some _ := found
      simp only [step?, found']
      exact ⟨log, rfl⟩
    · cases stepped
  | drop position =>
    simp only [step?] at stepped ⊢
    split at stepped
    · cases stepped
    · cases stepped
    · cases stepped
    · cases stepped
      exact ⟨log, rfl⟩
  | receive line receipt =>
    simp only [step?] at stepped
    split at stepped
    · next reading =>
      cases stepped
      obtain ⟨log', same⟩ := take_log (s := s) silent
      exact ⟨log', (if_pos reading).trans (congrArg some same)⟩
    · cases stepped
  | lose =>
    simp only [step?] at stepped
    split at stepped
    · next reading =>
      cases stepped
      exact ⟨log.close, (if_pos reading).trans (congrArg some stopReader_log)⟩
    · cases stepped
  | beginClose =>
    simp only [step?] at stepped
    split at stepped
    · next unbegun =>
      cases stepped
      refine ⟨log.close, (if_pos unbegun).trans ?_⟩
      rw [stopReader_log]
    · cases stepped
  | takeWriter =>
    simp only [step?] at stepped
    split at stepped
    · next ready =>
      cases stepped
      exact ⟨log, if_pos ready⟩
    · cases stepped
  | endClose =>
    simp only [step?] at stepped
    split at stepped
    · next taken =>
      cases stepped
      refine ⟨log, (if_pos taken).trans ?_⟩
      rw [failPending_log]
    · cases stepped

/-- Had the events not come, all but the log would be the same. -/
theorem Run.unheard (run : Run vm past s) : ∃ past' log, Run vm past' { s with log := log } ∧
    past'.map (·.step) = (past.map (·.step)).filter (·.event?.isNone) := by
  induction run with
  | refl => exact ⟨[], _, .refl, rfl⟩
  | @step past t u x run stepped ih =>
    obtain ⟨past', log, run', same⟩ := ih
    rw [List.map_append, List.filter_append, ← same]
    cases told : x.event? with
    | some e =>
      rcases (step?_cases stepped).hears with ⟨silent, -⟩ | ⟨e', -, rfl⟩
      · rw [silent] at told
        cases told
      · exact ⟨past', log, run', by simp [told]⟩
    | none =>
      obtain ⟨log', stepped'⟩ := step?_log stepped told
      refine ⟨past' ++ [⟨_, x⟩], log', run'.step stepped', ?_⟩
      simp [told]

end Session

end VmControl
