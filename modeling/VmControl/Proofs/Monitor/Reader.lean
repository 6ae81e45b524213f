import VmControl.Proofs.Monitor.Turns

/-!
# A connection whose reader has stopped

When the reader stops, every call that waits for an answer fails. A call that gets its number later
is not refused as long as the writing half is there: once its line is written it waits for an answer
that nobody can bring, and keeps its turn, until the connection is closed or its caller goes away.

* `Session.LeftWaiting`: since a call has written its line nothing has happened that makes it give
  up.
* `Session.Deserted`: what becomes of the calls after the reader has stopped
  (`Session.Run.deserted`).
* `Session.Leads.waits_on`: a call that waits then is not freed by anything else.
-/

namespace VmControl

/-- The steps that calls take by themselves. -/
def SessionStep.isOwn : SessionStep → Bool
  | .giveTurn | .register | .written | .unwritten _ => true
  | _ => false

/-- The number of steps that a call still takes by itself, at most. -/
def CallStage.left : CallStage → Nat
  | .queued => 3
  | .admitted => 2
  | .writing .. => 1
  | _ => 0

namespace Session

variable {s t u : Session} {past more : List Moment} {p q id : Nat} {c : Command}
  {stage old : CallStage} {x : SessionStep} {vm : String}

/-! ## The reader -/

/-- A reader that has stopped does not begin again. -/
theorem Step.silent (step : s.Step x t) (silent : s.reading = false) : t.reading = false := by
  have failed : s.failPending.reading = s.reading := by rw [failPending_frame]
  cases step with
  | call | giveTurn | enroll | refuse | written | unwritten | drop | takeWriter => exact silent
  | pass reading | event reading | reply reading | giveUp reading | lose reading =>
    rw [silent] at reading
    cases reading
  | beginClose => rfl
  | endClose => exact failed.trans silent

/-- When the reader stops, nobody is left who waits for an answer. -/
theorem Step.stops (step : s.Step x t) (sound : s.Sound) (reading : s.reading = true)
    (stopped : t.reading = false) (here : s.At q c stage) :
    t.At q c (stage.answered (.error s.unanswered)) := by
  have failed : s.failPending.At q c (stage.answered (.error s.unanswered)) :=
    here.failPending fun id => sound.entered here
  have reading' : s.failPending.reading = true := by rwa [failPending_frame]
  cases step with
  | call | giveTurn | enroll | refuse | written | unwritten | drop | pass | event | takeWriter =>
    rw [show s.reading = false from stopped] at reading
    cases reading
  | reply =>
    unfold deliver at stopped
    split at stopped <;> rw [show s.reading = false from stopped] at reading <;> cases reading
  | giveUp | lose | beginClose => exact failed
  | endClose =>
    rw [show s.failPending.reading = false from stopped] at reading'
    cases reading'

/-! ## Waiting on -/

/-- A step that neither closes the connection nor takes the caller away. -/
def Spares (q : Nat) (x : SessionStep) : Prop := x ≠ .drop q ∧ x ≠ .beginClose ∧ x ≠ .endClose

theorem Step.waits_on (step : s.Step x t) (silent : s.reading = false) (spares : Spares q x)
    (here : s.At q c (.waiting id)) : t.At q c (.waiting id) := by
  obtain ⟨stage, there, goes⟩ := step.later here
  obtain ⟨noDrop, noBegin, noEnd⟩ := spares
  cases goes with
  | stays => exact there
  | dropped => exact absurd rfl noDrop
  | answered reading =>
    rw [silent] at reading
    cases reading
  | failed _ _ cause =>
    rcases cause with reading | begins | ends
    · rw [silent] at reading
      cases reading
    · exact absurd begins noBegin
    · exact absurd ends noEnd

theorem Leads.silent (leads : s.Leads past t) (silent : s.reading = false) : t.reading = false :=
  leads.induct silent fun step => step.silent

theorem Leads.sound (leads : s.Leads past t) (sound : s.Sound) : t.Sound :=
  leads.induct sound fun step sound => sound.step step

/-- A call that waits while nobody reads waits until the connection is closed or its caller goes
away. -/
theorem Leads.waits_on (leads : s.Leads past t) (silent : s.reading = false)
    (spares : ∀ m ∈ past, Spares q m.step) (here : s.At q c (.waiting id)) :
    t.At q c (.waiting id) := by
  induction leads with
  | refl => exact here
  | @step past t u x leads stepped ih =>
    have there := ih fun m before => spares m (List.mem_append_left _ before)
    have spared : Spares q x := spares ⟨t, x⟩ (List.mem_append_right _ (List.mem_singleton_self _))
    exact (step?_cases stepped).waits_on (leads.silent silent) spared there

/-- A call has written its line, and since then nothing has made it give up. -/
def LeftWaiting (past : List Moment) (q : Nat) (c : Command) (id : Nat) : Prop :=
  ∃ earlier m later, past = earlier ++ m :: later ∧ m.step = .written ∧
    m.before.At q c (.writing id none) ∧ ∀ n ∈ later, Spares q n.step

theorem LeftWaiting.append {m : Moment} (left : LeftWaiting past q c id)
    (spares : Spares q m.step) :
    LeftWaiting (past ++ [m]) q c id := by
  obtain ⟨earlier, n, later, rfl, writes, here, spared⟩ := left
  refine ⟨earlier, n, later ++ [m], by rw [List.append_assoc, List.cons_append], writes, here, ?_⟩
  intro k listed
  rcases List.mem_append.mp listed with before | last
  · exact spared k before
  · rwa [List.mem_singleton.mp last]

theorem Step.spares (step : s.Step x t) (sound : s.Sound) (here : s.At q c (.waiting id))
    (there : t.At q c (.waiting id)) : Spares q x := by
  have failed : s.failPending.At q c (.ended (.error s.unanswered)) :=
    here.failPending fun id => sound.entered here
  refine ⟨?_, ?_, ?_⟩
  · rintro rfl
    cases step with
    | drop before =>
      obtain ⟨-, gone⟩ := there.unique (At.change (f := fun _ => .dropped) before)
      cases gone
  · rintro rfl
    cases step with
    | beginClose => cases (there.unique failed).2
  · rintro rfl
    cases step with
    | endClose => cases (there.unique failed).2

theorem Sound.waits_of_written (sound : s.Sound) (step : s.Step .written t)
    (here : s.At q c (.writing id none)) : t.At q c (.waiting id) := by
  cases step with
  | written there =>
    obtain rfl := sound.oneTurn there here rfl rfl
    obtain ⟨-, same⟩ := there.unique here
    cases same
    exact At.change (f := fun _ => .waiting id) here

/-- From a connection on which nobody reads and nobody waits. -/
theorem Leads.leftWaiting_iff (leads : s.Leads past t) (sound : s.Sound)
    (silent : s.reading = false) (nobody : ∀ {q c stage}, s.At q c stage → stage.awaited? = none) :
    t.At q c (.waiting id) ↔ LeftWaiting past q c id := by
  constructor
  · intro here
    induction leads with
    | refl => cases nobody here
    | @step past t u x leads stepped ih =>
      have step := step?_cases stepped
      rcases step.goes here with ⟨-, -, new⟩ | ⟨old, before, goes⟩
      · cases new
      rcases goes.waits rfl with rfl | ⟨rfl, rfl⟩
      · exact (ih before).append (step.spares (leads.sound sound) before here)
      · exact ⟨past, ⟨t, .written⟩, [], rfl, rfl, before, List.forall_mem_nil _⟩
  · rintro ⟨earlier, m, later, rfl, writes, before, spared⟩
    obtain ⟨first, u, stepped, others⟩ := leads.split rfl
    have step := step?_cases stepped
    rw [writes] at step
    have waits := (first.sound sound).waits_of_written step before
    exact others.waits_on (step.silent (first.silent silent)) spared waits

/-- Whoever awaits a number after the reader has stopped was given it since. -/
theorem Leads.nextId_le (leads : s.Leads past t)
    (nobody : ∀ {q c stage}, s.At q c stage → stage.awaited? = none) :
    s.nextId ≤ t.nextId ∧
      ∀ {q c stage id}, t.At q c stage → stage.awaited? = some id → s.nextId ≤ id := by
  refine leads.induct (P := fun u => s.nextId ≤ u.nextId ∧
    ∀ {q c stage id}, u.At q c stage → stage.awaited? = some id → s.nextId ≤ id) ?_ ?_
  · refine ⟨Nat.le_refl _, ?_⟩
    intro q c stage id here awaits
    rw [nobody here] at awaits
    cases awaits
  · rintro u v x step ⟨low, late⟩
    refine ⟨Nat.le_trans low step.nextId_le, ?_⟩
    intro q c stage id here awaits
    rcases step.goes here with ⟨-, -, rfl⟩ | ⟨old, before, goes⟩
    · cases awaits
    rcases goes.awaits awaits with awaited | ⟨-, -, rfl⟩
    · exact late before awaited
    · exact low

/-- Without a reader calls get nothing but failures. -/
theorem Leads.fails (leads : s.Leads past t) (silent : s.reading = false) :
    t.vm = s.vm ∧ ∀ {q c stage outcome}, t.At q c stage → stage.got? = some outcome →
      (∃ old, s.At q c old ∧ old.got? = some outcome) ∨ Failure s.vm outcome := by
  induction leads with
  | refl => exact ⟨rfl, fun here got => Or.inl ⟨_, here, got⟩⟩
  | @step past t u x leads stepped ih =>
    have step := step?_cases stepped
    obtain ⟨vm, fails⟩ := ih
    refine ⟨step.vm_eq.trans vm, ?_⟩
    intro q c stage outcome here got
    rcases step.goes here with ⟨-, -, rfl⟩ | ⟨old, before, goes⟩
    · cases got
    rcases goes.got got with had | failure | ⟨id, reading, -⟩
    · exact fails before had
    · rw [vm] at failure
      exact Or.inr failure
    · rw [leads.silent silent] at reading
      cases reading

/-! ## Going on -/

/-- The number of steps that the calls still take by themselves, at most. -/
def load (s : Session) : Nat := s.calls.foldr (fun call rest => call.stage.left + rest) 0

theorem load_change (here : s.At p c old) {f : CallStage → CallStage}
    (less : (f old).left < old.left) : (s.change p f).load < s.load := by
  unfold At at here
  unfold load change
  generalize s.calls = calls at here
  show (calls.modify p fun call => { call with stage := f call.stage }).foldr _ 0 < _
  induction calls generalizing p with
  | nil => cases here
  | cons call rest ih =>
    cases p with
    | zero =>
      cases here
      exact Nat.add_lt_add_right less _
    | succ p => exact Nat.add_lt_add_left (ih here) _

theorem Step.load_lt (step : s.Step x t) (own : x.isOwn = true) : t.load < s.load := by
  have two : 0 < CallStage.admitted.left := by decide
  cases step with
  | giveTurn free first =>
    obtain ⟨c, here⟩ := at_of_first? first
    exact load_change here (by decide)
  | enroll here =>
    exact load_change (f := fun _ => .writing s.nextId none) here (Nat.lt_succ_self 1)
  | refuse here => exact load_change here two
  | @written p d id early here =>
    cases early with
    | none => exact load_change (f := fun _ => .waiting id) here Nat.zero_lt_one
    | some outcome => exact load_change (f := fun _ => .ended outcome) here Nat.zero_lt_one
  | unwritten reason here =>
    exact load_change (f := fun _ => .ended (.error (.io reason))) here Nat.zero_lt_one
  | call | drop | pass | event | reply | giveUp | lose | beginClose | takeWriter | endClose =>
    cases own

theorem current?_of_turn? (turn : s.turn? = some q) (here : s.At q c stage) :
    s.current? = some (q, ⟨c, stage⟩) := by
  rw [current?, turn]
  show (s.calls[q]?).map _ = _
  rw [here]
  rfl

/-- Unless a call waits, the calls go on by themselves until all of them are over. -/
theorem goesOn (s : Session) : (∀ q c stage, s.At q c stage → stage.isOver = true) ∨
    (∃ q c id, s.At q c (.waiting id)) ∨ ∃ x t, x.isOwn = true ∧ s.step? x = some t := by
  cases turn : s.turn? with
  | some p =>
    obtain ⟨c, stage, here, has⟩ := at_of_turn? turn
    have current := current?_of_turn? turn here
    cases stage with
    | admitted => exact Or.inr (Or.inr ⟨.register, s.enroll p, rfl, by simp only [step?, current]⟩)
    | writing id early =>
      exact Or.inr
        (Or.inr ⟨.written, s.finishWrite p c id early, rfl, by simp only [step?, current]⟩)
    | waiting id => exact Or.inr (Or.inl ⟨p, c, id, here⟩)
    | queued | ended | dropped => cases has
  | none =>
    cases first : s.first? with
    | some p =>
      refine Or.inr (Or.inr ⟨.giveTurn, s.change p fun _ => .admitted, rfl, ?_⟩)
      simp only [step?, turn, first]
    | none =>
      refine Or.inl fun q c stage here => ?_
      have noTurn := here.hasTurn_of_turn? turn
      have notQueued := List.findIdx?_eq_none_iff.mp first ⟨c, stage⟩ (List.mem_of_getElem? here)
      cases stage with
      | queued => cases notQueued
      | admitted | writing | waiting => cases noTurn
      | ended | dropped => rfl

/-! ## After the reader has stopped -/

/-- What has become of the calls some time after the reader of a connection has stopped. -/
structure Deserted (t : Session) (later : List Moment) (u : Session) : Prop where
  /-- The calls that wait: those that have got their number since and whose line was written. -/
  waits : ∀ q c id, u.At q c (.waiting id) ↔ t.nextId ≤ id ∧ LeftWaiting later q c id
  /-- Whoever gets something gets a failure. -/
  fails : ∀ q c stage outcome, u.At q c stage → stage.got? = some outcome →
    (∃ old, t.At q c old ∧ old.got? = some outcome) ∨ Failure t.vm outcome
  /-- Nobody but a call that waits keeps the others from coming to their ends. -/
  goesOn : (∀ q c stage, u.At q c stage → stage.isOver = true) ∨
    (∃ q c id, u.At q c (.waiting id)) ∨ ∃ x v, x.isOwn = true ∧ u.step? x = some v
  nears : ∀ x v, x.isOwn = true → u.step? x = some v → v.load < u.load

/-- When the reader stops, the calls that wait for an answer fail. Of the calls that come later
those and only those wait whose line was written; they wait until the connection is closed or their
callers go away. -/
theorem Run.deserted {vm : String} {later : List Moment} (run : Run vm past s)
    (stepped : s.step? x = some t) (reading : s.reading = true) (stopped : t.reading = false)
    (leads : t.Leads later u) :
    (∀ q c stage, s.At q c stage → t.At q c (stage.answered (.error s.unanswered))) ∧
      t.Deserted later u := by
  have step := step?_cases stepped
  have sound : t.Sound := run.sound.step step
  have failed : ∀ q c stage, s.At q c stage → t.At q c (stage.answered (.error s.unanswered)) :=
    fun q c stage here => step.stops run.sound reading stopped here
  have nobody : ∀ {q c stage}, t.At q c stage → stage.awaited? = none := by
    intro q c stage here
    rcases step.goes here with ⟨-, -, rfl⟩ | ⟨old, before, -⟩
    · rfl
    · obtain ⟨-, rfl⟩ := here.unique (failed _ _ _ before)
      exact CallStage.awaited?_answered
  refine ⟨failed, ?_, ?_, ?_, ?_⟩
  · intro q c id
    constructor
    · intro here
      exact ⟨(leads.nextId_le nobody).2 here rfl,
        (leads.leftWaiting_iff sound stopped nobody).mp here⟩
    · rintro ⟨-, left⟩
      exact (leads.leftWaiting_iff sound stopped nobody).mpr left
  · intro q c stage outcome here got
    exact (leads.fails stopped).2 here got
  · exact u.goesOn
  · intro y v own stepped'
    exact (step?_cases stepped').load_lt own

end Session

namespace Sample

open Session

def queryStatus : Command := ⟨"query-status", none⟩

/-- A call, up to the moment at which its line is written. -/
def oneCall : List SessionStep := [.call queryStatus, .giveTurn, .register, .written]

theorem oneCall_replayable : ((new "alice").replay? oneCall).isSome := rfl

/-- A connection on which one call waits for its answer. -/
def asked : List Moment × Session := Option.get _ oneCall_replayable

theorem asked_run : Run "alice" asked.1 asked.2 := .of_replay? oneCall_replayable

/-- An object that is neither a greeting nor an event nor a reply. -/
def puzzle : String := "\x7b\"hello\": 1\x7d"

theorem puzzle_unrecognized : Inbound.parse puzzle ⟨0, 0⟩ = .error (.unrecognized puzzle) := by
  have check : (match Inbound.parse puzzle ⟨0, 0⟩ with
    | .error e => decide (e = .unrecognized puzzle)
    | .ok _ => false) = true := by decide +kernel
  split at check
  · next e parsed => rw [parsed, of_decide_eq_true check]
  · cases check

/-- The connection after the reader has given up. -/
def unread : Session := asked.2.stopReader

theorem puzzle_stops : asked.2.step? (.receive puzzle ⟨0, 0⟩) = some unread := by
  have text : Line.isBlank puzzle = false := by decide
  have reading : asked.2.reading = true := rfl
  have taken : asked.2.take puzzle ⟨0, 0⟩ = unread := by
    rw [take, text, puzzle_unrecognized]
    rfl
  rw [step?, reading, taken]
  rfl

theorem oneCall_again : (unread.replay? oneCall).isSome := rfl

/-- The connection after the same command has been called again. -/
def askedAgain : List Moment × Session := Option.get _ oneCall_again

theorem askedAgain_leads : unread.Leads askedAgain.1 askedAgain.2 := .of_replay? oneCall_again

theorem askedAgain_waits : askedAgain.2.At 1 queryStatus (.waiting 2) := rfl

/-- The first call fails, and the second one waits. -/
theorem asked_deserted : Run "alice" asked.1 asked.2 ∧
    asked.2.step? (.receive puzzle ⟨0, 0⟩) = some unread ∧ asked.2.reading = true ∧
    unread.reading = false ∧ unread.Leads askedAgain.1 askedAgain.2 ∧
    unread.At 0 queryStatus (.ended (.error (.protocol "monitor of alice closed"))) ∧
    askedAgain.2.At 1 queryStatus (.waiting 2) ∧ unread.Deserted askedAgain.1 askedAgain.2 := by
  have deserted := Run.deserted asked_run puzzle_stops rfl rfl askedAgain_leads
  exact ⟨asked_run, puzzle_stops, rfl, rfl, askedAgain_leads,
    deserted.1 0 queryStatus (.waiting 1) rfl, askedAgain_waits, deserted.2⟩

/-- After the reader has stopped, a call may wait for an answer although nobody closes the
connection and its caller stays. -/
theorem unread_call_waits : ¬ ∀ vm past s x t later u q c id, Run vm past s → s.step? x = some t →
    s.reading = true → t.reading = false → t.Leads later u → u.At q c (.waiting id) →
    ∃ more v e, u.Leads more v ∧ (∀ m ∈ more, Spares q m.step) ∧ v.At q c (.ended (.error e)) := by
  intro ends
  obtain ⟨more, v, e, leads, spares, ended⟩ := ends "alice" asked.1 asked.2 _ unread askedAgain.1
    askedAgain.2 1 queryStatus 2 asked_run puzzle_stops rfl rfl askedAgain_leads askedAgain_waits
  have waits := leads.waits_on rfl spares askedAgain_waits
  cases (ended.unique waits).2

end Sample

end VmControl
