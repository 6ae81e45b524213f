import VmControl.Monitor.Session
import VmControl.Proofs.Past
import VmControl.Proofs.Replay

/-!
# The steps of a monitor connection

A connection is observed step by step: which steps were taken, and how it was before each of them.

* `Session.Leads s past t`: the steps of `past` lead from the connection `s` to `t`, and
  `Session.Run vm past t` if `s` has just been opened.
* `Session.Step` lists the steps with what each of them finds and leaves (`Session.step?_cases`).
* `CallStage.Goes` lists what a step may do to one call (`Session.Step.goes`). Everything that is
  said of a call along a run is read off these cases.
-/

namespace VmControl

namespace CallStage

variable {stage : CallStage} {id : Nat} {outcome : Except ControlError Json}

/-- Whether a call has come to its end. -/
def isOver : CallStage → Bool
  | .ended _ | .dropped => true
  | _ => false

/-- The number under which a call waits for an answer that it has not got. -/
def awaited? : CallStage → Option Nat
  | .writing id none | .waiting id => some id
  | _ => none

/-- The outcome that a call has got, be it before its line was written. -/
def got? : CallStage → Option (Except ControlError Json)
  | .writing _ early => early
  | .ended outcome => some outcome
  | _ => none

/-- The stage of a call that gets what it waits for. -/
def answered (outcome : Except ControlError Json) : CallStage → CallStage
  | .writing id none => .writing id (some outcome)
  | .waiting _ => .ended outcome
  | stage => stage

theorem answer_of_awaited (awaits : stage.awaited? = some id) :
    stage.answer id outcome = stage.answered outcome := by
  cases stage with
  | writing own early =>
    cases early with
    | none =>
      cases awaits
      exact if_pos rfl
    | some => cases awaits
  | waiting own =>
    cases awaits
    exact if_pos rfl
  | queued | admitted | ended | dropped => cases awaits

theorem answer_of_not_awaited (other : stage.awaited? ≠ some id) :
    stage.answer id outcome = stage := by
  unfold answer
  split
  · exact if_neg fun same => other (congrArg some same)
  · exact if_neg fun same => other (congrArg some same)
  · rfl

theorem answered_of_none (nothing : stage.awaited? = none) : stage.answered outcome = stage := by
  cases stage with
  | writing own early =>
    cases early with
    | none => cases nothing
    | some => rfl
  | waiting => cases nothing
  | queued | admitted | ended | dropped => rfl

theorem answered_cases (stage : CallStage) (outcome : Except ControlError Json) :
    stage.answered outcome = stage ∨
      (∃ id, stage = .writing id none ∧ stage.answered outcome = .writing id (some outcome)) ∨
      ∃ id, stage = .waiting id ∧ stage.answered outcome = .ended outcome := by
  unfold answered
  split
  · exact Or.inr (Or.inl ⟨_, rfl, rfl⟩)
  · exact Or.inr (Or.inr ⟨_, rfl, rfl⟩)
  · exact Or.inl rfl

theorem eq_of_answered_eq {other : CallStage} (same : stage.answered outcome = other)
    (early : ∀ id, other ≠ .writing id (some outcome)) (ended : other ≠ .ended outcome) :
    stage = other := by
  rcases answered_cases stage outcome with kept | ⟨id, -, got⟩ | ⟨id, -, got⟩
  · exact kept.symm.trans same
  · exact absurd (same.symm.trans got) (early id)
  · exact absurd (same.symm.trans got) ended

@[simp] theorem awaited?_answered : (stage.answered outcome).awaited? = none := by
  cases stage with
  | writing own early => cases early <;> rfl
  | queued | admitted | waiting | ended | dropped => rfl

theorem got?_answered (awaits : stage.awaited? = some id) :
    (stage.answered outcome).got? = some outcome := by
  cases stage with
  | writing own early =>
    cases early with
    | none => rfl
    | some => cases awaits
  | waiting => rfl
  | queued | admitted | ended | dropped => cases awaits

theorem awaited?_of_isOver (done : stage.isOver = true) : stage.awaited? = none := by
  cases stage with
  | ended | dropped => rfl
  | queued | admitted | writing | waiting => cases done

theorem awaited?_of_got (had : stage.got? = some outcome) : stage.awaited? = none := by
  cases stage with
  | writing own early =>
    cases had
    rfl
  | ended => rfl
  | queued | admitted | waiting | dropped => cases had

theorem hasTurn_of_awaited (awaits : stage.awaited? = some id) : stage.hasTurn = true := by
  cases stage with
  | writing | waiting => rfl
  | queued | admitted | ended | dropped => cases awaits

theorem hasTurn_of_answered (turn : (stage.answered outcome).hasTurn = true) :
    stage.hasTurn = true := by
  cases stage with
  | admitted | writing | waiting => rfl
  | queued | ended | dropped => cases turn

end CallStage

/-- What is told by the line that is received at a step. -/
def SessionStep.inbound? : SessionStep → Option Inbound
  | .receive line receipt =>
    if Line.isBlank line then none else (Inbound.parse line receipt).toOption
  | _ => none

namespace Session

variable {s t : Session} {p q : Nat} {c d : Command} {stage other : CallStage}
  {f : CallStage → CallStage}

/-- The call at a position has a command and stands at a stage. -/
def At (s : Session) (q : Nat) (c : Command) (stage : CallStage) : Prop :=
  s.calls[q]? = some ⟨c, stage⟩

theorem At.unique (here : s.At q c stage) (there : s.At q d other) : c = d ∧ stage = other := by
  unfold At at here there
  rw [here] at there
  cases there
  exact ⟨rfl, rfl⟩

/-! ## Changing one call -/

theorem At.change (here : s.At q c stage) : (s.change q f).At q c (f stage) := by
  unfold At at here ⊢
  rw [Session.change, List.getElem?_modify_eq, here]
  rfl

theorem At.change_other (here : s.At q c stage) (apart : p ≠ q) : (s.change p f).At q c stage := by
  unfold At at here ⊢
  exact (List.getElem?_modify_ne _ _ apart).trans here

theorem At.of_change (here : (s.change p f).At q c stage) :
    (p = q ∧ ∃ old, s.At q c old ∧ stage = f old) ∨ (p ≠ q ∧ s.At q c stage) := by
  unfold At at here ⊢
  by_cases same : p = q
  · subst same
    rw [Session.change, List.getElem?_modify_eq] at here
    obtain ⟨⟨_, old⟩, found, alike⟩ := Option.map_eq_some_iff.mp here
    cases alike
    exact Or.inl ⟨rfl, old, found, rfl⟩
  · exact Or.inr ⟨same, (List.getElem?_modify_ne _ _ same).symm.trans here⟩

theorem At.of_change_at {before : CallStage} (there : s.At p d before)
    (here : (s.change p f).At q c stage) :
    (p = q ∧ s.At q c before ∧ stage = f before) ∨ s.At q c stage := by
  rcases here.of_change with ⟨rfl, old, own, rfl⟩ | ⟨-, other⟩
  · obtain ⟨rfl, rfl⟩ := there.unique own
    exact Or.inl ⟨rfl, own, rfl⟩
  · exact Or.inr other

theorem At.of_call (here : ({ s with calls := s.calls ++ [⟨d, .queued⟩] } : Session).At q c stage) :
    (q = s.calls.length ∧ c = d ∧ stage = .queued) ∨ s.At q c stage := by
  unfold At at here ⊢
  rw [List.getElem?_append] at here
  split at here
  · exact Or.inr here
  · next high =>
    have low : q < s.calls.length + 1 := by
      have bound := (List.getElem?_eq_some_iff.mp here).1
      rw [List.length_singleton] at bound
      omega
    have last := List.mem_singleton.mp (List.mem_of_getElem? here)
    cases last
    exact Or.inl ⟨by omega, rfl, rfl⟩

/-! ## Whose turn it is -/

theorem At.of_current (found : s.current? = some (q, ⟨c, stage⟩)) : s.At q c stage := by
  unfold current? at found
  split at found
  · obtain ⟨call, here, same⟩ := Option.map_eq_some_iff.mp found
    cases same
    exact here
  · cases found

theorem At.hasTurn_of_turn? (free : s.turn? = none) (here : s.At q c stage) :
    stage.hasTurn = false := by
  have none := List.findIdx?_eq_none_iff.mp free ⟨c, stage⟩ (List.mem_of_getElem? here)
  simpa using none

theorem at_of_turn? (turn : s.turn? = some q) :
    ∃ c stage, s.At q c stage ∧ stage.hasTurn = true := by
  obtain ⟨bound, has, -⟩ := List.findIdx?_eq_some_iff_getElem.mp turn
  exact ⟨_, _, List.getElem?_eq_getElem bound, has⟩

theorem at_of_first? (first : s.first? = some q) : ∃ c, s.At q c .queued := by
  obtain ⟨bound, has, -⟩ := List.findIdx?_eq_some_iff_getElem.mp first
  have here : s.At q s.calls[q].command s.calls[q].stage := List.getElem?_eq_getElem bound
  split at has
  · next queued =>
    rw [queued] at here
    exact ⟨_, here⟩
  · cases has

/-- What a call on the connection of a machine gets without a reply: the connection is closed, has
no writing half any more, or does not take the line. -/
inductive Failure (vm : String) : Except ControlError Json → Prop
  | closed : Failure vm (.error (.protocol ("monitor of " ++ vm ++ " closed")))
  | shut : Failure vm (.error (.protocol ("monitor of " ++ vm ++ " is closed")))
  | unwritten (reason : String) : Failure vm (.error (.io reason))

/-! ## Steps -/

/-- The steps of a connection: what each of them finds and what it leaves. -/
inductive Step (s : Session) : SessionStep → Session → Prop
  | call (c : Command) : Step s (.call c) { s with calls := s.calls ++ [⟨c, .queued⟩] }
  | giveTurn {q : Nat} (free : s.turn? = none) (first : s.first? = some q) :
      Step s .giveTurn (s.change q fun _ => .admitted)
  | enroll {q : Nat} {c : Command} (here : s.At q c .admitted) (isOpen : s.isOpen = true) :
      Step s .register { s.change q (fun _ => .writing s.nextId none) with
        nextId := s.nextId + 1
        pending := s.pending ++ [(s.nextId, q)] }
  | refuse {q : Nat} {c : Command} (here : s.At q c .admitted) (shut : s.isOpen = false) :
      Step s .register (s.change q fun _ => .ended (.error s.shut))
  | written {q : Nat} {c : Command} {id : Nat} {early : Option (Except ControlError Json)}
      (here : s.At q c (.writing id early)) : Step s .written (s.finishWrite q c id early)
  | unwritten {q : Nat} {c : Command} {id : Nat} {early : Option (Except ControlError Json)}
      (reason : String) (here : s.At q c (.writing id early)) :
      Step s (.unwritten reason) (s.abandonWrite q id reason)
  | drop {q : Nat} {c : Command} {stage : CallStage} (here : s.At q c stage)
      (going : stage.isOver = false) : Step s (.drop q) (s.change q fun _ => .dropped)
  | pass {line : String} {receipt : Timestamp} (reading : s.reading = true)
      (noEvent : ∀ e, (SessionStep.receive line receipt).inbound? ≠ some (.event e))
      (noReply : ∀ id outcome,
        (SessionStep.receive line receipt).inbound? ≠ some (.reply (some id) outcome)) :
      Step s (.receive line receipt) s
  | event {line : String} {receipt : Timestamp} {e : Event} (reading : s.reading = true)
      (heard : (SessionStep.receive line receipt).inbound? = some (.event e)) :
      Step s (.receive line receipt) { s with log := s.log.push e }
  | reply {line : String} {receipt : Timestamp} {id : UInt64} {outcome : Except ControlError Json}
      (reading : s.reading = true)
      (heard : (SessionStep.receive line receipt).inbound? = some (.reply (some id) outcome)) :
      Step s (.receive line receipt) (s.deliver id.toNat outcome)
  | giveUp {line : String} {receipt : Timestamp} (reading : s.reading = true)
      (nothing : (SessionStep.receive line receipt).inbound? = none) :
      Step s (.receive line receipt) s.stopReader
  | lose (reading : s.reading = true) : Step s .lose s.stopReader
  | beginClose : Step s .beginClose { s.stopReader with closing := .begun }
  | takeWriter (begun : s.closing = .begun) :
      Step s .takeWriter { s with isOpen := false, closing := .writerTaken }
  | endClose : Step s .endClose { s.failPending with closing := .finished }

theorem Step.of_receive {line : String} {receipt : Timestamp} (reading : s.reading = true) :
    s.Step (.receive line receipt) (s.take line receipt) := by
  unfold take
  split
  · next blank =>
    have nothing : (SessionStep.receive line receipt).inbound? = none := if_pos blank
    refine .pass reading ?_ ?_ <;> simp [nothing]
  · next blank =>
    have told : (SessionStep.receive line receipt).inbound? =
        (Inbound.parse line receipt).toOption :=
      if_neg blank
    split
    · next inbound parsed =>
      rw [parsed] at told
      rcases inbound with _ | ⟨_ | id, outcome⟩ | e
      · refine .pass reading ?_ ?_ <;> simp [told, Except.toOption]
      · refine .pass reading ?_ ?_ <;> simp [told, Except.toOption]
      · exact .reply reading told
      · exact .event reading told
    · next e parsed =>
      rw [parsed] at told
      split
      · refine .pass reading ?_ ?_ <;> simp [told, Except.toOption]
      · exact .giveUp reading told

/-- Every step of a connection is one of those listed. -/
theorem step?_cases {x : SessionStep} (h : s.step? x = some t) : s.Step x t := by
  cases x with
  | call command => cases h; exact .call command
  | giveTurn =>
    simp only [step?] at h
    split at h
    · next free first => cases h; exact .giveTurn free first
    · cases h
  | register =>
    simp only [step?] at h
    split at h
    · next found =>
      cases h
      unfold Session.enroll
      split
      · next isOpen => exact .enroll (.of_current found) isOpen
      · next shut => exact .refuse (.of_current found) (Bool.eq_false_iff.mpr shut)
    · cases h
  | written =>
    simp only [step?] at h
    split at h
    · next found => cases h; exact .written (.of_current found)
    · cases h
  | unwritten reason =>
    simp only [step?] at h
    split at h
    · next found => cases h; exact .unwritten reason (.of_current found)
    · cases h
  | drop position =>
    simp only [step?] at h
    split at h
    · cases h
    · cases h
    · cases h
    · next call ended dropped here =>
      cases h
      obtain ⟨command, stage⟩ := call
      refine .drop here ?_
      cases stage with
      | ended outcome => exact absurd rfl (ended command outcome)
      | dropped => exact absurd rfl (dropped command)
      | _ => rfl
  | receive line receipt =>
    simp only [step?] at h
    split at h
    · next reading => cases h; exact .of_receive reading
    · cases h
  | lose =>
    simp only [step?] at h
    split at h
    · next reading => cases h; exact .lose reading
    · cases h
  | beginClose =>
    simp only [step?] at h
    split at h
    · cases h; exact .beginClose
    · cases h
  | takeWriter =>
    simp only [step?] at h
    split at h
    · next ready => cases h; exact .takeWriter ready.1
    · cases h
  | endClose =>
    simp only [step?] at h
    split at h
    · cases h; exact .endClose
    · cases h

/-! ## Answers -/

section Answers

variable {id : Nat} {outcome : Except ControlError Json} {entries : List (Nat × Nat)}

theorem At.of_deliver (here : (s.deliver id outcome).At q c stage) :
    ∃ old, s.At q c old ∧
      (stage = old ∨ old.awaited? = some id ∧ stage = old.answered outcome) := by
  unfold deliver at here
  split at here
  · exact ⟨stage, here, Or.inl rfl⟩
  · next position found =>
    rcases At.of_change here with ⟨rfl, old, before, rfl⟩ | ⟨-, before⟩
    · refine ⟨old, before, ?_⟩
      by_cases awaits : old.awaited? = some id
      · exact Or.inr ⟨awaits, CallStage.answer_of_awaited awaits⟩
      · exact Or.inl (CallStage.answer_of_not_awaited awaits)
    · exact ⟨stage, before, Or.inl rfl⟩

/-- A reply goes to the call that is entered under its number. -/
theorem At.deliver (here : s.At q c stage)
    (entered : stage.awaited? = some id → s.pending.lookup id = some q) :
    (s.deliver id outcome).At q c (stage.answer id outcome) := by
  unfold Session.deliver
  cases found : s.pending.lookup id with
  | none =>
    rw [CallStage.answer_of_not_awaited]
    · exact here
    · intro awaits
      rw [entered awaits] at found
      cases found
  | some position =>
    by_cases same : position = q
    · subst same
      exact At.change (f := (·.answer id outcome)) here
    · rw [CallStage.answer_of_not_awaited]
      · exact At.change_other here same
      · intro awaits
        rw [entered awaits] at found
        exact same (Option.some.inj found).symm

/-- Hands an outcome to calls, each under a number. -/
def answerAll (s : Session) (outcome : Except ControlError Json) (entries : List (Nat × Nat)) :
    Session :=
  entries.foldl (fun t entry => t.change entry.2 (·.answer entry.1 outcome)) s

theorem failPending_eq :
    s.failPending = { s.answerAll (.error s.unanswered) s.pending with pending := [] } := rfl

theorem length_answerAll :
    ∀ {s : Session}, (s.answerAll outcome entries).calls.length = s.calls.length := by
  induction entries with
  | nil =>
    intro s
    rfl
  | cons entry rest ih =>
    intro s
    exact ih.trans (List.length_modify ..)

theorem At.of_answerAll :
    ∀ {s : Session}, (s.answerAll outcome entries).At q c stage → ∃ old, s.At q c old ∧
      (stage = old ∨ old.awaited? ≠ none ∧ stage = old.answered outcome) := by
  induction entries with
  | nil =>
    intro s here
    exact ⟨stage, here, Or.inl rfl⟩
  | cons entry rest ih =>
    intro s here
    obtain ⟨mid, between, goes⟩ := ih here
    rcases At.of_change between with ⟨-, old, before, rfl⟩ | ⟨-, before⟩
    · refine ⟨old, before, ?_⟩
      by_cases awaits : old.awaited? = some entry.1
      · -- one answer is enough: the call waits for no other one
        rw [CallStage.answer_of_awaited awaits] at goes
        have waits : old.awaited? ≠ none := by
          rw [awaits]
          exact Option.some_ne_none _
        rcases goes with rfl | ⟨again, -⟩
        · exact Or.inr ⟨waits, rfl⟩
        · exact absurd CallStage.awaited?_answered again
      · rw [CallStage.answer_of_not_awaited awaits] at goes
        exact goes
    · exact ⟨mid, before, goes⟩

/-- Every call that waits under one of the numbers gets the outcome. -/
theorem At.answerAll :
    ∀ {s : Session} {stage : CallStage}, s.At q c stage →
      (∀ id, stage.awaited? = some id → (id, q) ∈ entries) →
      (s.answerAll outcome entries).At q c (stage.answered outcome) := by
  induction entries with
  | nil =>
    intro s stage here entered
    rw [CallStage.answered_of_none]
    · exact here
    · cases awaits : stage.awaited? with
      | none => rfl
      | some id => cases entered id awaits
  | cons entry rest ih =>
    intro s stage here entered
    by_cases hit : entry.2 = q ∧ stage.awaited? = some entry.1
    · obtain ⟨rfl, awaits⟩ := hit
      have got : (s.change entry.2 (·.answer entry.1 outcome)).At entry.2 c
          (stage.answered outcome) := by
        rw [← CallStage.answer_of_awaited awaits]
        exact At.change (f := (·.answer entry.1 outcome)) here
      have kept := ih got (by simp)
      rw [CallStage.answered_of_none CallStage.awaited?_answered] at kept
      exact kept
    · have still : (s.change entry.2 (·.answer entry.1 outcome)).At q c stage := by
        by_cases same : entry.2 = q
        · subst same
          have other : stage.awaited? ≠ some entry.1 := fun awaits => hit ⟨rfl, awaits⟩
          have changed := At.change (f := (·.answer entry.1 outcome)) here
          rw [CallStage.answer_of_not_awaited other] at changed
          exact changed
        · exact At.change_other here same
      refine ih still fun id awaits => ?_
      rcases List.mem_cons.mp (entered id awaits) with rfl | listed
      · exact absurd ⟨rfl, awaits⟩ hit
      · exact listed

theorem answerAll_frame : ∀ {s : Session},
    s.answerAll outcome entries = { s with calls := (s.answerAll outcome entries).calls } := by
  induction entries with
  | nil =>
    intro s
    rfl
  | cons entry rest ih =>
    intro s
    exact ih (s := s.change entry.2 (·.answer entry.1 outcome))

/-- Failing the waiting calls changes nothing but these and the numbers. -/
theorem failPending_frame : s.failPending =
    { s with calls := (s.answerAll (.error s.unanswered) s.pending).calls, pending := [] } := by
  rw [failPending_eq, answerAll_frame]

theorem At.of_failPending (here : s.failPending.At q c stage) : ∃ old, s.At q c old ∧
    (stage = old ∨ old.awaited? ≠ none ∧ stage = old.answered (.error s.unanswered)) :=
  At.of_answerAll here

theorem At.failPending (here : s.At q c stage)
    (entered : ∀ id, stage.awaited? = some id → (id, q) ∈ s.pending) :
    s.failPending.At q c (stage.answered (.error s.unanswered)) :=
  At.answerAll here entered

end Answers

end Session

/-! ## What a step does to one call -/

/-- What a step of a connection may do to the call at a position. A call that gets its answer waits
under no number, and nobody else waits under that number any more. -/
inductive CallStage.Goes (s t : Session) (q : Nat) : SessionStep → CallStage → CallStage → Prop
  | stays {x : SessionStep} {stage : CallStage} : Goes s t q x stage stage
  | admitted (free : s.turn? = none) (first : s.first? = some q) :
      Goes s t q .giveTurn .queued .admitted
  | enrolled (isOpen : s.isOpen = true) : Goes s t q .register .admitted (.writing s.nextId none)
  | refused (shut : s.isOpen = false) : Goes s t q .register .admitted (.ended (.error s.shut))
  | written {id : Nat} : Goes s t q .written (.writing id none) (.waiting id)
  | endedEarly {id : Nat} {outcome : Except ControlError Json} :
      Goes s t q .written (.writing id (some outcome)) (.ended outcome)
  | unwritten {id : Nat} {early : Option (Except ControlError Json)} {reason : String}
      (struck : ∀ entry ∈ t.pending, entry.1 ≠ id) :
      Goes s t q (.unwritten reason) (.writing id early) (.ended (.error (.io reason)))
  | dropped {stage : CallStage} (going : stage.isOver = false) : Goes s t q (.drop q) stage .dropped
  | answered {x : SessionStep} {stage : CallStage} {id : UInt64}
      {outcome : Except ControlError Json}
      (reading : s.reading = true) (heard : x.inbound? = some (.reply (some id) outcome))
      (awaits : stage.awaited? = some id.toNat) (struck : ∀ entry ∈ t.pending, entry.1 ≠ id.toNat) :
      Goes s t q x stage (stage.answered outcome)
  | failed {x : SessionStep} {stage : CallStage} (awaits : stage.awaited? ≠ none)
      (cleared : t.pending = []) (cause : s.reading = true ∨ x = .beginClose ∨ x = .endClose) :
      Goes s t q x stage (stage.answered (.error s.unanswered))

namespace Session

variable {s t : Session} {q : Nat} {c : Command} {stage old : CallStage} {x : SessionStep}

/-- A call at a position is a new one, or has gone on from where it stood. -/
theorem Step.goes (step : s.Step x t) (here : t.At q c stage) :
    (x = .call c ∧ q = s.calls.length ∧ stage = .queued) ∨
      ∃ old, s.At q c old ∧ CallStage.Goes s t q x old stage := by
  have failed (cleared : t.pending = []) (cause : s.reading = true ∨ x = .beginClose ∨
      x = .endClose)
      (there : s.failPending.At q c stage) :
      ∃ old, s.At q c old ∧ CallStage.Goes s t q x old stage := by
    obtain ⟨old, before, rfl | ⟨awaits, rfl⟩⟩ := there.of_failPending
    · exact ⟨stage, before, .stays⟩
    · exact ⟨old, before, .failed awaits cleared cause⟩
  cases step with
  | call command =>
    rcases At.of_call here with ⟨rfl, rfl, rfl⟩ | before
    · exact Or.inl ⟨rfl, rfl, rfl⟩
    · exact Or.inr ⟨stage, before, .stays⟩
  | giveTurn free first =>
    obtain ⟨d, queued⟩ := at_of_first? first
    rcases At.of_change_at queued here with ⟨rfl, before, rfl⟩ | before
    · exact Or.inr ⟨.queued, before, .admitted free first⟩
    · exact Or.inr ⟨stage, before, .stays⟩
  | enroll admitted isOpen =>
    have changed : (s.change _ fun _ => .writing s.nextId none).At q c stage := here
    rcases At.of_change_at admitted changed with ⟨rfl, before, rfl⟩ | before
    · exact Or.inr ⟨.admitted, before, .enrolled isOpen⟩
    · exact Or.inr ⟨stage, before, .stays⟩
  | refuse admitted shut =>
    rcases At.of_change_at admitted here with ⟨rfl, before, rfl⟩ | before
    · exact Or.inr ⟨.admitted, before, .refused shut⟩
    · exact Or.inr ⟨stage, before, .stays⟩
  | @written p d id early writes =>
    cases early with
    | none =>
      have changed : (s.change p fun _ => .waiting id).At q c stage := here
      rcases At.of_change_at writes changed with ⟨rfl, before, rfl⟩ | before
      · exact Or.inr ⟨_, before, .written⟩
      · exact Or.inr ⟨stage, before, .stays⟩
    | some outcome =>
      have changed : (s.change p fun _ => .ended outcome).At q c stage := here
      rcases At.of_change_at writes changed with ⟨rfl, before, rfl⟩ | before
      · exact Or.inr ⟨_, before, .endedEarly⟩
      · exact Or.inr ⟨stage, before, .stays⟩
  | @unwritten p d id early reason writes =>
    have changed : (s.change p fun _ => .ended (.error (.io reason))).At q c stage := here
    rcases At.of_change_at writes changed with ⟨rfl, before, rfl⟩ | before
    · refine Or.inr ⟨_, before, .unwritten ?_⟩
      intro entry kept
      exact of_decide_eq_true (List.mem_filter.mp kept).2
    · exact Or.inr ⟨stage, before, .stays⟩
  | drop there going =>
    rcases At.of_change_at there here with ⟨rfl, before, rfl⟩ | before
    · exact Or.inr ⟨_, before, .dropped going⟩
    · exact Or.inr ⟨stage, before, .stays⟩
  | pass | event | takeWriter => exact Or.inr ⟨stage, here, .stays⟩
  | @reply _ _ id outcome reading heard =>
    obtain ⟨old, before, rfl | ⟨awaits, rfl⟩⟩ := At.of_deliver here
    · exact Or.inr ⟨stage, before, .stays⟩
    · refine Or.inr ⟨old, before, .answered reading heard awaits ?_⟩
      intro entry kept same
      have absent := List.lookup_eq_none_iff.mp (s.deliver_pending id.toNat outcome) entry kept
      exact bne_iff_ne.mp absent same.symm
  | giveUp reading | lose reading => exact Or.inr (failed rfl (Or.inl reading) here)
  | beginClose => exact Or.inr (failed rfl (Or.inr (Or.inl rfl)) here)
  | endClose => exact Or.inr (failed rfl (Or.inr (Or.inr rfl)) here)

theorem Step.length_le (step : s.Step x t) : s.calls.length ≤ t.calls.length := by
  have failed : s.failPending.calls.length = s.calls.length := length_answerAll
  cases step with
  | call => exact (List.length_append ▸ Nat.le_add_right ..)
  | giveTurn | enroll | refuse | written | unwritten | drop =>
    exact Nat.le_of_eq (List.length_modify ..).symm
  | pass | event | takeWriter => exact Nat.le_refl _
  | reply =>
    unfold deliver
    split
    · exact Nat.le_refl _
    · exact Nat.le_of_eq (List.length_modify ..).symm
  | giveUp | lose | beginClose | endClose => exact Nat.le_of_eq failed.symm

theorem Step.vm_eq (step : s.Step x t) : t.vm = s.vm := by
  have failed : s.failPending.vm = s.vm := by rw [failPending_frame]
  cases step with
  | call | giveTurn | enroll | refuse | written | unwritten | drop | pass | event | takeWriter =>
    rfl
  | reply =>
    unfold deliver
    split <;> rfl
  | giveUp | lose | beginClose | endClose => exact failed

/-- A call stays at its position, and goes on from where it stands. -/
theorem Step.later (step : s.Step x t) (here : s.At q c old) :
    ∃ stage, t.At q c stage ∧ CallStage.Goes s t q x old stage := by
  have low : q < s.calls.length := (List.getElem?_eq_some_iff.mp here).1
  have bound : q < t.calls.length := Nat.lt_of_lt_of_le low step.length_le
  have there : t.At q t.calls[q].command t.calls[q].stage := List.getElem?_eq_getElem bound
  rcases step.goes there with ⟨-, rfl, -⟩ | ⟨old', before, goes⟩
  · exact absurd low (Nat.lt_irrefl _)
  · obtain ⟨same, rfl⟩ := here.unique before
    rw [← same] at there
    exact ⟨_, there, goes⟩

/-! ## Runs -/

/-- A moment of a connection. -/
structure Moment where
  /-- The connection before the step. -/
  before : Session
  step : SessionStep

/-- The steps that lead from one connection to another, oldest first. -/
inductive Leads (s : Session) : List Moment → Session → Prop
  | refl : Leads s [] s
  | step {past : List Moment} {t u : Session} {x : SessionStep} :
      Leads s past t → t.step? x = some u → Leads s (past ++ [⟨t, x⟩]) u

/-- The steps that lead from a connection that has just been opened. -/
abbrev Run (vm : String) : List Moment → Session → Prop := Leads (new vm)

/-- Leads a connection through steps. -/
def replay? (s : Session) (steps : List SessionStep) : Option (List Moment × Session) :=
  VmControl.replay? step? id (fun s x _ => [⟨s, x⟩]) s steps

/-- A connection that has been led through steps has come where they lead. -/
theorem Leads.of_replay? {steps : List SessionStep} (replayable : (s.replay? steps).isSome) :
    s.Leads (Option.get _ replayable).1 (Option.get _ replayable).2 :=
  holds_of_replay? (R := s.Leads) .refl (fun _ _ => .step) replayable

/-- The steps that have led somewhere can be taken apart at any moment. -/
theorem Leads.split {past : List Moment} (leads : s.Leads past t) :
    ∀ {earlier later : List Moment} {m : Moment}, past = earlier ++ m :: later →
      s.Leads earlier m.before ∧ ∃ u, m.before.step? m.step = some u ∧ u.Leads later t := by
  induction leads with
  | refl =>
    intro earlier later m same
    cases earlier <;> cases same
  | @step past t u x leads stepped ih =>
    intro earlier later m same
    rcases concat_eq_split_iff.mp same with ⟨rfl, rfl, rfl⟩ | ⟨rest, rfl, front⟩
    · exact ⟨leads, u, stepped, .refl⟩
    · obtain ⟨before, v, first, others⟩ := ih front
      exact ⟨before, v, first, others.step stepped⟩

/-- What holds at first and is kept by every step holds wherever the steps lead. -/
theorem Leads.induct {P : Session → Prop} {past : List Moment} (leads : s.Leads past t)
    (first : P s) (kept : ∀ {u v : Session} {x : SessionStep}, u.Step x v → P u → P v) : P t := by
  induction leads with
  | refl => exact first
  | step _ stepped ih => exact kept (step?_cases stepped) ih

end Session

end VmControl
