import VmControl.Proofs.Monitor.Reader
import VmControl.Proofs.Monitor.Replies

/-!
# Closing a connection

Whoever closes a connection tells the reader to stop, fails the calls that wait, closes the log,
takes the writing half, and then fails once more whoever has got a number in between. Calls may get
numbers between any two of these, and the reader may take further lines until it notices that it is
to stop. When all is done nobody waits, and nobody ever will.

* `Shutdown.step?`: the calls, the reader and the one who closes, one move at a time
  (`Shutdown.Leads.of_step?`: the steps of a connection are made of them).
* `Shutdown.Leads.carry`: a move is a step of the connection, as far as the calls can tell.
* `Session.Accounted` and `Shutdown.Shutting`: what holds wherever the moves lead.
* `Session.IsClosed`, `Session.Released`: what closing leaves, and what has become of the calls
  then.
* `Shutdown.Run.released`: closing waits for no reply, and it releases everyone for good.
-/

namespace VmControl

/-- Whether a call has found out whether there is a writing half. -/
def CallStage.isPast : CallStage → Bool
  | .queued | .admitted => false
  | .writing .. | .waiting _ | .ended _ | .dropped => true

/-- Whether the writing half is given up at a point of closing. -/
def Closing.isTaken : Closing → Bool
  | .notBegun | .begun => false
  | .writerTaken | .finished => true

theorem CallStage.Goes.isPast {s t : Session} {q : Nat} {x : SessionStep} {old stage : CallStage}
    (goes : Goes s t q x old stage) (before : old.isPast = true) : stage.isPast = true := by
  have answered (outcome : Except ControlError Json) : (old.answered outcome).isPast = true := by
    rcases answered_cases old outcome with kept | ⟨id, -, got⟩ | ⟨id, -, got⟩
    · rwa [kept]
    · rw [got]
      rfl
    · rw [got]
      rfl
  cases goes with
  | stays => exact before
  | admitted | enrolled | refused => cases before
  | written | endedEarly | unwritten | dropped => rfl
  | answered | failed => exact answered _

namespace Session

variable {s t : Session} {past : List Moment} {p q id : Nat} {c : Command} {stage : CallStage}
  {x : SessionStep} {vm : String} {outcome : Except ControlError Json} {m : Moment}

/-! ## The steps of closing -/

/-- What the steps of a connection do to its closing. -/
inductive Shuts (s : Session) : SessionStep → Session → Prop
  | begins (unbegun : s.closing = .notBegun) :
      Shuts s .beginClose { s.stopReader with closing := .begun }
  | takes (begun : s.closing = .begun) (idle : s.writer? = none) :
      Shuts s .takeWriter { s with isOpen := false, closing := .writerTaken }
  | ends (taken : s.closing = .writerTaken) :
      Shuts s .endClose { s.failPending with closing := .finished }
  | other {x : SessionStep} {t : Session} (step : s.Step x t) (same : t.closing = s.closing) :
      Shuts s x t

theorem failPending_closing : s.failPending.closing = s.closing := by rw [failPending_frame]

theorem Shuts.of_step (step : s.Step x t) (beginning : x ≠ .beginClose) (taking : x ≠ .takeWriter)
    (ending : x ≠ .endClose) : s.Shuts x t := by
  refine .other step ?_
  cases step with
  | call | giveTurn | enroll | refuse | written | unwritten | drop | pass | event => rfl
  | reply =>
    unfold deliver
    split <;> rfl
  | giveUp | lose => exact failPending_closing
  | beginClose => exact absurd rfl beginning
  | takeWriter => exact absurd rfl taking
  | endClose => exact absurd rfl ending

theorem shuts_of_step? (stepped : s.step? x = some t) : s.Shuts x t := by
  have step := step?_cases stepped
  cases x with
  | beginClose =>
    simp only [step?] at stepped
    split at stepped
    · next unbegun => cases stepped; exact .begins unbegun
    · cases stepped
  | takeWriter =>
    simp only [step?] at stepped
    split at stepped
    · next ready => cases stepped; exact .takes ready.1 ready.2
    · cases stepped
  | endClose =>
    simp only [step?] at stepped
    split at stepped
    · next taken => cases stepped; exact .ends taken
    · cases stepped
  | call | giveTurn | register | written | unwritten | drop | receive | lose =>
    exact .of_step step (by rintro ⟨⟩) (by rintro ⟨⟩) (by rintro ⟨⟩)

/-! ## What stays as it is -/

theorem Step.closed (step : s.Step x t) (closed : s.log.closed = true) : t.log.closed = true := by
  have failed : s.failPending.log = s.log := by rw [failPending_frame]
  cases step with
  | call | giveTurn | enroll | refuse | written | unwritten | drop | pass | event | takeWriter =>
    exact closed
  | reply =>
    unfold deliver
    split <;> exact closed
  | giveUp | lose | beginClose => rfl
  | endClose => exact (congrArg EventLog.closed failed).trans closed

theorem Step.shut (step : s.Step x t) (shut : s.isOpen = false) : t.isOpen = false := by
  have failed : s.failPending.isOpen = s.isOpen := by rw [failPending_frame]
  cases step with
  | call | giveTurn | enroll | refuse | written | unwritten | drop | pass | event => exact shut
  | reply =>
    unfold deliver
    split <;> exact shut
  | giveUp | lose | beginClose | endClose => exact failed.trans shut
  | takeWriter => rfl

/-- Nobody is writing a line. -/
def Unwritten (s : Session) : Prop := ∀ q c id early, ¬ s.At q c (.writing id early)

theorem unwritten_of_writer? (idle : s.writer? = none) : s.Unwritten := by
  intro q c id early here
  cases List.findIdx?_eq_none_iff.mp idle ⟨c, _⟩ (List.mem_of_getElem? here)

theorem writer?_of_unwritten (idle : s.Unwritten) : s.writer? = none := by
  refine List.findIdx?_eq_none_iff.mpr fun call listed => ?_
  obtain ⟨q, here⟩ := List.mem_iff_getElem?.mp listed
  obtain ⟨c, stage⟩ := call
  cases stage with
  | writing id early => exact absurd here (idle q c id early)
  | queued | admitted | waiting | ended | dropped => rfl

/-- What closing a connection leaves: nobody awaits a reply, nothing is written any more, and the
log is closed. -/
structure IsClosed (s : Session) : Prop where
  closing : s.closing = .finished
  pending : s.pending = []
  shut : s.isOpen = false
  unwritten : s.Unwritten
  log : s.log.closed = true

/-- Without a writing half nobody begins to write. -/
theorem Step.idle (step : s.Step x t) (shut : s.isOpen = false) (idle : s.Unwritten) :
    t.Unwritten := by
  intro q c id early here
  rcases step.goes here with ⟨-, -, new⟩ | ⟨old, before, goes⟩
  · cases new
  rcases goes.writes rfl with ⟨early', rfl⟩ | ⟨rfl, rfl, -⟩
  · exact idle q c id early' before
  · cases step with
    | enroll _ isOpen =>
      rw [shut] at isOpen
      cases isOpen
    | refuse =>
      rcases At.of_change here with ⟨-, _, -, ended⟩ | ⟨-, other⟩
      · cases ended
      · exact idle _ _ _ _ other

/-- Without a writing half nobody is given a number. -/
theorem Step.unentered (step : s.Step x t) (shut : s.isOpen = false) (empty : s.pending = []) :
    t.pending = [] := by
  rcases step.table with ⟨fewer, -⟩ | ⟨_, _, ⟨-, isOpen, -⟩, -⟩
  · rw [empty] at fewer
    exact List.sublist_nil.mp fewer
  · rw [shut] at isOpen
    cases isOpen

theorem Moment.enrolls?_of_shut (shut : m.before.isOpen = false) : m.enrolls? = none := by
  unfold enrolls?
  split
  · rw [shut]
    rfl
  · rfl

theorem Step.sent_eq (step : s.Step x t) (idle : s.Unwritten) : t.sent = s.sent := by
  rcases step.sends with same | ⟨q, c, id, early, -, here, -⟩
  · exact same
  · exact absurd here (idle q c id early)

/-- A line that is being written can be finished, and then nobody is writing. -/
theorem Sound.writes {early : Option (Except ControlError Json)} (sound : s.Sound)
    (here : s.At q c (.writing id early)) :
    ∃ t, s.step? .written = some t ∧ t.closing = s.closing ∧ t.Unwritten := by
  have current := current?_of_turn? (sound.turn?_of_hasTurn here rfl) here
  have stepped : s.step? .written = some (s.finishWrite q c id early) := by
    simp only [step?, current]
  have step := step?_cases stepped
  refine ⟨_, stepped, rfl, ?_⟩
  intro p d id' early' there
  rcases step.sends with same | ⟨q', c', own, early'', -, before, -, done⟩
  · exact absurd (congrArg List.length same) (by simp [finishWrite])
  · -- whoever writes now has written before, and only the call that is done has
    obtain rfl := sound.oneTurn before here rfl rfl
    obtain ⟨rfl, -⟩ := before.unique here
    rcases step.goes there with ⟨-, -, new⟩ | ⟨old, first, goes⟩
    · cases new
    rcases goes.writes rfl with ⟨_, rfl⟩ | ⟨other, -⟩
    · obtain rfl := sound.oneTurn first here rfl rfl
      obtain ⟨rfl, -⟩ := first.unique here
      cases done _ there
    · cases other

/-! ## What becomes of the calls -/

/-- Where an outcome comes from: the call at a position was refused, or it had a number, under which
the outcome came while it was awaited or for which there is a failure. -/
def Due (vm : String) (past : List Moment) (q : Nat) (outcome : Except ControlError Json) : Prop :=
  outcome = .error (.protocol ("monitor of " ++ vm ++ " is closed")) ∨
    ∃ id, (id, q) ∈ enrolled past ∧
      ((∃ m ∈ past, m.Answers q id outcome) ∨ Failure vm outcome)

theorem Due.append (due : Due vm past q outcome) : Due vm (past ++ [m]) q outcome := by
  rcases due with refused | ⟨id, given, ⟨n, happened, answers⟩ | failure⟩
  · exact Or.inl refused
  · have answered : ∃ n ∈ past ++ [m], n.Answers q id outcome :=
      ⟨n, List.mem_append_left _ happened, answers⟩
    exact Or.inr ⟨id, mem_enrolled_concat given, Or.inl answered⟩
  · exact Or.inr ⟨id, mem_enrolled_concat given, Or.inr failure⟩

/-- What the steps so far tell of the calls. -/
structure Accounted (vm : String) (past : List Moment) (s : Session) : Prop where
  vm_eq : s.vm = vm
  sound : s.Sound
  numbered : Numbered past s
  due : ∀ {q c stage outcome}, s.At q c stage → stage.got? = some outcome → Due vm past q outcome
  passed : ∀ {id q}, (id, q) ∈ enrolled past → ∃ c stage, s.At q c stage ∧ stage.isPast = true

theorem accounted_new (vm : String) : Accounted vm [] (new vm) where
  vm_eq := rfl
  sound := sound_new vm
  numbered := Run.numbered .refl
  due here := by cases here
  passed given := by cases given

namespace Accounted

theorem due_step (accounted : Accounted vm past s) (step : s.Step x t) (here : t.At q c stage)
    (got : stage.got? = some outcome) : Due vm (past ++ [⟨s, x⟩]) q outcome := by
  have vm_eq := accounted.vm_eq
  have entered {q c stage id} (before : s.At q c stage) (awaits : stage.awaited? = some id) :
      (id, q) ∈ enrolled (past ++ [⟨s, x⟩]) :=
    mem_enrolled_concat (accounted.numbered.pending _ (accounted.sound.entered before awaits))
  rcases step.goes here with ⟨-, -, rfl⟩ | ⟨old, before, goes⟩
  · cases got
  cases goes with
  | stays | endedEarly => exact (accounted.due before got).append
  | admitted | enrolled | written | dropped => cases got
  | refused =>
    cases got
    exact Or.inl (by rw [shut, vm_eq])
  | @unwritten id early reason =>
    cases got
    exact Or.inr ⟨id, mem_enrolled_concat (accounted.numbered.writing before),
      Or.inr (.unwritten reason)⟩
  | @answered _ _ number _ reading told awaits =>
    rw [CallStage.got?_answered awaits] at got
    cases got
    have answers : Moment.Answers ⟨s, x⟩ q number.toNat outcome :=
      ⟨⟨number, rfl, told⟩, accounted.sound.entered before awaits⟩
    exact Or.inr ⟨number.toNat, entered before awaits,
      Or.inl ⟨_, List.mem_append_right _ (List.mem_singleton_self _), answers⟩⟩
  | failed awaits =>
    obtain ⟨id, awaited⟩ := Option.ne_none_iff_exists'.mp awaits
    rw [CallStage.got?_answered awaited] at got
    cases got
    refine Or.inr ⟨id, entered before awaited, Or.inr ?_⟩
    rw [unanswered, vm_eq]
    exact .closed

theorem passed_step (accounted : Accounted vm past s) (step : s.Step x t)
    (given : (id, q) ∈ enrolled (past ++ [⟨s, x⟩])) :
    ∃ c stage, t.At q c stage ∧ stage.isPast = true := by
  have kept (before : (id, q) ∈ enrolled past) : ∃ c stage, t.At q c stage ∧
      stage.isPast = true := by
    obtain ⟨c, old, there, isPast⟩ := accounted.passed before
    obtain ⟨stage, here, goes⟩ := step.later there
    exact ⟨c, stage, here, goes.isPast isPast⟩
  rw [enrolled_concat] at given
  rcases List.mem_append.mp given with before | now
  · exact kept before
  · rcases accounted.sound.enrolls step with ⟨none, -⟩ | ⟨p, c, some, -, writes, -⟩
    · rw [none] at now
      cases now
    · rw [some, Option.toList_some, List.mem_singleton] at now
      cases now
      exact ⟨c, _, writes, rfl⟩

theorem step (accounted : Accounted vm past s) (step : s.Step x t) :
    Accounted vm (past ++ [⟨s, x⟩]) t where
  vm_eq := step.vm_eq.trans accounted.vm_eq
  sound := accounted.sound.step step
  numbered := accounted.numbered.step accounted.sound step
  due here got := accounted.due_step step here got
  passed given := accounted.passed_step step given

/-- The reader, the log and the closing of a connection do not bear on this. -/
theorem alike (accounted : Accounted vm past s) (reading : Bool) (log : EventLog)
    (closing : Closing) :
    Accounted vm past { s with reading := reading, log := log, closing := closing } where
  vm_eq := accounted.vm_eq
  sound :=
    let ⟨oneTurn, below, ascending, entered, awaited, writing, sentBelow, sentAscending, waiting⟩ :=
      accounted.sound
    ⟨oneTurn, below, ascending, entered, awaited, writing, sentBelow, sentAscending, waiting⟩
  numbered :=
    let ⟨below, ascending, pending, writing, sent⟩ := accounted.numbered
    ⟨below, ascending, pending, writing, sent⟩
  due := accounted.due
  passed := accounted.passed

end Accounted

/-- What has become of the calls when the connection is closed. -/
structure Released (vm : String) (past : List Moment) (s : Session) : Prop where
  empty : s.pending = []
  closed : s.log.closed = true
  /-- Whoever was given a number has got a reply under a number of his or a failure, or is gone. -/
  settled : ∀ id q, (id, q) ∈ enrolled past → ∃ c, s.At q c .dropped ∨
    ∃ outcome, s.At q c (.ended outcome) ∧
      ((∃ number, (number, q) ∈ enrolled past ∧ ∃ m ∈ past, m.Answers q number outcome) ∨
        Failure vm outcome)
  /-- Whoever was not is refused, or is gone, or has not come so far yet. -/
  refused : ∀ q c stage, s.At q c stage → (∀ id, (id, q) ∉ enrolled past) →
    stage = .ended (.error (.protocol ("monitor of " ++ vm ++ " is closed"))) ∨ stage = .dropped ∨
      stage = .queued ∨ stage = .admitted
  /-- Every call comes to its end, by the steps that calls take by themselves. -/
  goesOn : (∀ q c stage, s.At q c stage → stage.isOver = true) ∨
    ∃ x t, x.isOwn = true ∧ s.step? x = some t
  nears : ∀ x t, x.isOwn = true → s.step? x = some t → t.load < s.load

theorem Accounted.released_of_empty (accounted : Accounted vm past s) (empty : s.pending = [])
    (idle : s.Unwritten) (closed : s.log.closed = true) : Released vm past s := by
  have sound := accounted.sound
  have noWait : ∀ q c id, ¬ s.At q c (.waiting id) := by
    intro q c id here
    have listed := sound.entered here rfl
    rw [empty] at listed
    cases listed
  refine ⟨empty, closed, ?_, ?_, ?_, fun x t own stepped => (step?_cases stepped).load_lt own⟩
  · intro id q given
    obtain ⟨c, stage, here, isPast⟩ := accounted.passed given
    refine ⟨c, ?_⟩
    cases stage with
    | queued | admitted => cases isPast
    | writing id early => exact absurd here (idle q c id early)
    | waiting id => exact absurd here (noWait q c id)
    | dropped => exact Or.inl here
    | ended outcome =>
      refine Or.inr ⟨outcome, here, ?_⟩
      rcases accounted.due here rfl with rfl | ⟨number, given', answers | failure⟩
      · exact Or.inr .shut
      · exact Or.inl ⟨number, given', answers⟩
      · exact Or.inr failure
  · intro q c stage here never
    cases stage with
    | queued => exact Or.inr (Or.inr (Or.inl rfl))
    | admitted => exact Or.inr (Or.inr (Or.inr rfl))
    | writing id early => exact absurd here (idle q c id early)
    | waiting id => exact absurd here (noWait q c id)
    | dropped => exact Or.inr (Or.inl rfl)
    | ended outcome =>
      rcases accounted.due here rfl with rfl | ⟨number, given, -⟩
      · exact Or.inl rfl
      · exact absurd given (never number)
  · rcases s.goesOn with done | ⟨q, c, id, here⟩ | goes
    · exact Or.inl done
    · exact absurd here (noWait q c id)
    · exact Or.inr goes

end Session

/-! ## One move at a time -/

namespace Shutdown

/-- How far the beginning of closing has come. -/
inductive Start where
  | untouched
  /-- The reader is told to stop. -/
  | told
  /-- The calls that waited have failed. -/
  | drained
  /-- The log is closed. -/
  | complete

end Shutdown

/-- A connection that is being closed while its calls and its reader go on. -/
structure Shutdown where
  session : Session
  start : Shutdown.Start

namespace Shutdown

/-- A move of a connection that is being closed. -/
inductive Move where
  /-- A step of a call or of the reader, or one of the later steps of closing. -/
  | usual (x : SessionStep)
  | tell
  | drain
  | closeLog
  /-- The reader that is told to stop does so. -/
  | rest

/-- The connection after a move, if the move can be made. -/
def step? (d : Shutdown) : Move → Option Shutdown
  | .usual .beginClose => none
  | .usual x => (d.session.step? x).map fun t => { d with session := t }
  | .tell =>
    match d.start with
    | .untouched => some { d with start := .told }
    | _ => none
  | .drain =>
    match d.start with
    | .told => some ⟨d.session.failPending, .drained⟩
    | _ => none
  | .closeLog =>
    match d.start with
    | .drained => some ⟨{ d.session with log := d.session.log.close, closing := .begun }, .complete⟩
    | _ => none
  | .rest =>
    match d.start with
    | .untouched => none
    | _ => some { d with session := { d.session with reading := false } }

/-- The moment of the connection at a move that its calls can notice. Failing those that wait is the
same step for them at both times. -/
def moment? (d : Shutdown) : Move → Option Session.Moment
  | .usual x => some ⟨d.session, x⟩
  | .drain => some ⟨d.session, .endClose⟩
  | .tell | .closeLog | .rest => none

/-- The move that whoever closes the connection makes next. -/
def next? (d : Shutdown) : Option Move :=
  match d.start with
  | .untouched => some .tell
  | .told => some .drain
  | .drained => some .closeLog
  | .complete =>
    match d.session.closing with
    | .notBegun | .begun => some (.usual .takeWriter)
    | .writerTaken => some (.usual .endClose)
    | .finished => none

/-- The moves that lead from one point of closing to another, with what the calls can notice. -/
inductive Leads (d : Shutdown) : List Session.Moment → Shutdown → Prop
  | refl : Leads d [] d
  | step {past : List Session.Moment} {e f : Shutdown} {move : Move} :
      Leads d past e → e.step? move = some f → Leads d (past ++ (e.moment? move).toList) f

/-- The moves that lead from a connection that has just been opened. -/
abbrev Run (vm : String) : List Session.Moment → Shutdown → Prop :=
  Leads ⟨Session.new vm, .untouched⟩

/-- Leads a connection through moves. -/
def replay? (d : Shutdown) (moves : List Move) : Option (List Session.Moment × Shutdown) :=
  VmControl.replay? step? id (fun d move _ => (d.moment? move).toList) d moves

/-- The moves: what each of them finds and what it leaves. -/
inductive Step (d : Shutdown) : Move → Shutdown → Prop
  | usual {x : SessionStep} {t : Session} (stepped : d.session.step? x = some t)
      (later : x ≠ .beginClose) : Step d (.usual x) { d with session := t }
  | tell (untouched : d.start = .untouched) : Step d .tell { d with start := .told }
  | drain (told : d.start = .told) : Step d .drain ⟨d.session.failPending, .drained⟩
  | closeLog (drained : d.start = .drained) : Step d .closeLog
      ⟨{ d.session with log := d.session.log.close, closing := .begun }, .complete⟩
  | rest : Step d .rest { d with session := { d.session with reading := false } }

variable {d e f : Shutdown} {past later : List Session.Moment} {move : Move} {vm : String}
  {x : SessionStep} {t : Session}

theorem step?_usual (later : x ≠ .beginClose) (stepped : d.session.step? x = some t) :
    d.step? (.usual x) = some { d with session := t } := by
  cases x with
  | beginClose => exact absurd rfl later
  | call | giveTurn | register | written | unwritten | drop | receive | lose | takeWriter
      | endClose =>
    simp only [step?, stepped, Option.map_some]

theorem step?_cases (stepped : d.step? move = some e) : d.Step move e := by
  cases move with
  | usual x =>
    cases x with
    | beginClose => cases stepped
    | call | giveTurn | register | written | unwritten | drop | receive | lose | takeWriter
    | endClose =>
      simp only [step?] at stepped
      obtain ⟨t, stepped', rfl⟩ := Option.map_eq_some_iff.mp stepped
      exact .usual stepped' nofun
  | tell =>
    simp only [step?] at stepped
    split at stepped
    · next untouched => cases stepped; exact .tell untouched
    · cases stepped
  | drain =>
    simp only [step?] at stepped
    split at stepped
    · next told => cases stepped; exact .drain told
    · cases stepped
  | closeLog =>
    simp only [step?] at stepped
    split at stepped
    · next drained => cases stepped; exact .closeLog drained
    · cases stepped
  | rest =>
    simp only [step?] at stepped
    split at stepped
    · cases stepped
    · cases stepped; exact .rest

theorem Leads.trans (leads : d.Leads past e) (more : e.Leads later f) :
    d.Leads (past ++ later) f := by
  induction more with
  | refl =>
    rw [List.append_nil]
    exact leads
  | step _ stepped ih =>
    rw [← List.append_assoc]
    exact ih.step stepped

theorem Leads.of_replay? {moves : List Move} (replayable : (d.replay? moves).isSome) :
    d.Leads (Option.get _ replayable).1 (Option.get _ replayable).2 :=
  holds_of_replay? (R := d.Leads) .refl (fun _ _ => .step) replayable

/-- The step that begins closing is made of the moves that do. -/
theorem Leads.of_beginClose {s : Session} (stepped : s.step? .beginClose = some t) :
    Leads ⟨s, .untouched⟩ [⟨s, .endClose⟩] ⟨t, .complete⟩ := by
  simp only [Session.step?] at stepped
  split at stepped
  · cases stepped
    let shut : Session := { s.failPending with log := s.failPending.log.close, closing := .begun }
    have tells : step? ⟨s, .untouched⟩ .tell = some ⟨s, .told⟩ := rfl
    have drains : step? ⟨s, .told⟩ .drain = some ⟨s.failPending, .drained⟩ := rfl
    have closes : step? ⟨s.failPending, .drained⟩ .closeLog = some ⟨shut, .complete⟩ := rfl
    have rests : step? ⟨shut, .complete⟩ .rest = some ⟨{ shut with reading := false }, .complete⟩ :=
      rfl
    exact (((Leads.refl.step tells).step drains).step closes).step rests
  · cases stepped

/-- A connection as far as it has been closed, if it was begun in one step. -/
def of (s : Session) : Shutdown :=
  ⟨s, if s.closing = .notBegun then .untouched else .complete⟩

/-- The steps of a connection are made of moves. -/
theorem Leads.of_step? {s : Session} (stepped : s.step? x = some t) :
    ∃ later, (of s).Leads later (of t) := by
  by_cases begins : x = .beginClose
  · subst begins
    have unbegun : s.closing = .notBegun := by
      by_contra begun
      rw [Session.step?, if_neg begun] at stepped
      cases stepped
    have leads := of_beginClose stepped
    rw [Session.step?, if_pos unbegun] at stepped
    cases stepped
    rw [of, if_pos unbegun]
    exact ⟨_, leads⟩
  · have level : (s.closing = .notBegun) ↔ (t.closing = .notBegun) := by
      cases Session.shuts_of_step? stepped with
      | begins => exact absurd rfl begins
      | takes begun => simp only [begun, reduceCtorEq]
      | ends taken => simp only [taken, reduceCtorEq]
      | other _ same => rw [same]
    have moves : (of s).step? (.usual x) = some (of t) := by
      rw [step?_usual begins stepped]
      simp only [of, level]
    exact ⟨_, Leads.refl.step moves⟩

/-- What every step of the connection keeps, and the reader, the log and the closing do not bear on,
holds wherever the moves lead. -/
theorem Leads.carry {P : List Session.Moment → Session → Prop} (leads : d.Leads past e)
    (first : P [] d.session)
    (kept : ∀ {past s x t}, s.Step x t → P past s → P (past ++ [⟨s, x⟩]) t)
    (alike : ∀ {past s} (reading : Bool) (log : EventLog) (closing : Closing), P past s →
      P past { s with reading := reading, log := log, closing := closing }) :
    P past e.session := by
  induction leads with
  | refl => exact first
  | @step past e f move _ stepped ih =>
    cases step?_cases stepped with
    | usual stepped' => exact kept (Session.step?_cases stepped') ih
    | tell =>
      rw [show (e.moment? .tell).toList = [] from rfl, List.append_nil]
      exact ih
    | drain =>
      -- as far as calls can tell, this is the step that ends closing
      exact alike e.session.failPending.reading e.session.failPending.log
        e.session.failPending.closing (kept .endClose ih)
    | closeLog =>
      rw [show (e.moment? .closeLog).toList = [] from rfl, List.append_nil]
      exact alike e.session.reading e.session.log.close .begun ih
    | rest =>
      rw [show (e.moment? .rest).toList = [] from rfl, List.append_nil]
      exact alike false e.session.log e.session.closing ih

theorem Run.accounted (run : Run vm past d) : d.session.Accounted vm past :=
  Leads.carry run (Session.accounted_new vm) (fun step accounted => accounted.step step)
    fun reading log closing accounted => accounted.alike reading log closing

/-! ## Points of closing -/

/-- What holds of a connection at each point of its closing. -/
structure Shutting (d : Shutdown) : Prop where
  level : d.session.closing = .notBegun ∨ d.start = .complete
  begun : d.start = .complete → d.session.closing ≠ .notBegun ∧ d.session.log.closed = true
  taken : d.session.closing.isTaken = true → d.session.isOpen = false ∧ d.session.Unwritten
  finished : d.session.closing = .finished → d.session.pending = []

theorem shutting_new (vm : String) : Shutting ⟨Session.new vm, .untouched⟩ :=
  ⟨Or.inl rfl, nofun, nofun, nofun⟩

theorem Shutting.step (shutting : d.Shutting) (stepped : d.step? move = some e) : e.Shutting := by
  cases step?_cases stepped with
  | usual stepped' later =>
    have step := Session.step?_cases stepped'
    cases Session.shuts_of_step? stepped' with
    | begins => exact absurd rfl later
    | takes begun idle =>
      have complete : d.start = .complete := shutting.level.resolve_left (by rw [begun]; nofun)
      refine ⟨Or.inr complete, fun _ => ⟨nofun, (shutting.begun complete).2⟩,
        fun _ => ⟨rfl, ?_⟩, nofun⟩
      exact Session.unwritten_of_writer? idle
    | ends taken =>
      have complete : d.start = .complete := shutting.level.resolve_left (by rw [taken]; nofun)
      obtain ⟨shut, idle⟩ := shutting.taken (by rw [taken]; rfl)
      exact ⟨Or.inr complete, fun _ => ⟨nofun, step.closed (shutting.begun complete).2⟩,
        fun _ => ⟨step.shut shut, step.idle shut idle⟩, fun _ => rfl⟩
    | other _ same =>
      refine ⟨?_, fun complete => ?_, fun taken => ?_, fun finished => ?_⟩
      · exact shutting.level.imp_left same.trans
      · obtain ⟨begun, closed⟩ := shutting.begun complete
        exact ⟨fun unbegun => begun (same.symm.trans unbegun), step.closed closed⟩
      · obtain ⟨shut, idle⟩ := shutting.taken (same ▸ taken)
        exact ⟨step.shut shut, step.idle shut idle⟩
      · have before := same.symm.trans finished
        obtain ⟨shut, -⟩ := shutting.taken (by rw [before]; rfl)
        exact step.unentered shut (shutting.finished before)
  | tell untouched =>
    have unbegun := shutting.level.resolve_right (by rw [untouched]; nofun)
    exact ⟨Or.inl unbegun, nofun, shutting.taken, shutting.finished⟩
  | drain told =>
    have unbegun := shutting.level.resolve_right (by rw [told]; nofun)
    have still : d.session.failPending.closing = .notBegun :=
      Session.failPending_closing.trans unbegun
    refine ⟨Or.inl still, nofun, fun taken => ?_, fun _ => rfl⟩
    rw [show Closing.isTaken d.session.failPending.closing = false by rw [still]; rfl] at taken
    cases taken
  | closeLog => exact ⟨Or.inr rfl, fun _ => ⟨nofun, rfl⟩, nofun, nofun⟩
  | rest => exact ⟨shutting.level, shutting.begun, shutting.taken, shutting.finished⟩

theorem Run.shutting (run : Run vm past d) : d.Shutting := by
  induction run with
  | refl => exact shutting_new vm
  | step _ stepped ih => exact ih.step stepped

theorem Shutting.isClosed (shutting : d.Shutting) (finished : d.session.closing = .finished) :
    d.session.IsClosed := by
  obtain ⟨shut, idle⟩ := shutting.taken (by rw [finished]; rfl)
  have complete : d.start = .complete := shutting.level.resolve_left (by rw [finished]; nofun)
  exact ⟨finished, shutting.finished finished, shut, idle, (shutting.begun complete).2⟩

/-- Closing goes on. Only a line that is being written can hold it up, and when that line is written
the move can be made. -/
structure Unhindered (d : Shutdown) (move : Move) : Prop where
  next : d.next? = some move
  can : (d.step? move).isSome ∨
    (∃ q c id early, d.session.At q c (.writing id early)) ∧
      ∃ e, d.step? (.usual .written) = some e ∧ e.next? = some move ∧ (e.step? move).isSome

theorem step?_takeWriter (begun : d.session.closing = .begun) (idle : d.session.Unwritten) :
    (d.step? (.usual .takeWriter)).isSome := by
  have ready := And.intro begun (Session.writer?_of_unwritten idle)
  simp only [step?, Session.step?, if_pos ready, Option.map_some, Option.isSome_some]

theorem Run.unhindered (run : Run vm past d) (going : d.session.closing ≠ .finished) :
    ∃ move, d.Unhindered move := by
  have sound := run.accounted.sound
  have shutting := run.shutting
  obtain ⟨s, start⟩ := d
  cases start with
  | untouched => exact ⟨.tell, rfl, Or.inl rfl⟩
  | told => exact ⟨.drain, rfl, Or.inl rfl⟩
  | drained => exact ⟨.closeLog, rfl, Or.inl rfl⟩
  | complete =>
    cases point : s.closing with
    | notBegun => exact absurd point (shutting.begun rfl).1
    | finished => exact absurd point going
    | writerTaken =>
      refine ⟨.usual .endClose, ?_, Or.inl ?_⟩
      · simp only [next?, point]
      · simp only [step?, Session.step?, point, if_true, Option.map_some, Option.isSome_some]
    | begun =>
      refine ⟨.usual .takeWriter, ?_, ?_⟩
      · simp only [next?, point]
      by_cases idle : s.Unwritten
      · exact Or.inl (step?_takeWriter point idle)
      · simp only [Session.Unwritten, not_forall, not_not] at idle
        obtain ⟨q, c, id, early, here⟩ := idle
        obtain ⟨t, stepped, same, unwritten⟩ := sound.writes here
        have begun : t.closing = .begun := same.trans point
        refine Or.inr ⟨⟨q, c, id, early, here⟩, ⟨t, .complete⟩, step?_usual (by rintro ⟨⟩) stepped,
          ?_, ?_⟩
        · simp only [next?, begun]
        · exact step?_takeWriter begun unwritten

/-! ## After closing -/

theorem Run.released_at (run : Run vm past d) (finished : d.session.closing = .finished) :
    Session.Released vm past d.session := by
  obtain ⟨-, empty, -, idle, closed⟩ := run.shutting.isClosed finished
  exact run.accounted.released_of_empty empty idle closed

/-- After closing nothing is written and nobody gets a number. -/
structure Silent (d : Shutdown) (later : List Session.Moment) (e : Shutdown) : Prop where
  finished : e.session.closing = .finished
  numbers : Session.enrolled later = []
  sent : e.session.sent = d.session.sent

theorem Silent.step (silent : d.Silent later e) (shutting : e.Shutting)
    (stepped : e.step? move = some f) : d.Silent (later ++ (e.moment? move).toList) f := by
  obtain ⟨finished, numbers, sent⟩ := silent
  obtain ⟨-, -, shut, idle, -⟩ := shutting.isClosed finished
  have complete : e.start = .complete := shutting.level.resolve_left (by rw [finished]; nofun)
  cases step?_cases stepped with
  | @usual x t stepped' later' =>
    have step := Session.step?_cases stepped'
    refine ⟨?_, ?_, (step.sent_eq idle).trans sent⟩
    · cases Session.shuts_of_step? stepped' with
      | begins => exact absurd rfl later'
      | takes begun =>
        rw [finished] at begun
        cases begun
      | ends => rfl
      | other _ same => exact same.trans finished
    · have none : Session.Moment.enrolls? ⟨e.session, x⟩ = none :=
        Session.Moment.enrolls?_of_shut shut
      rw [show (e.moment? (.usual x)).toList = [⟨e.session, x⟩] from rfl, Session.enrolled_concat,
        numbers, none]
      rfl
  | rest =>
    rw [show (e.moment? .rest).toList = [] from rfl, List.append_nil]
    exact ⟨finished, numbers, sent⟩
  | tell other | drain other | closeLog other =>
    rw [complete] at other
    cases other

theorem Run.silent (run : Run vm past d) (finished : d.session.closing = .finished)
    (leads : d.Leads later e) : d.Silent later e := by
  induction leads with
  | refl => exact ⟨finished, rfl, rfl⟩
  | step more stepped ih => exact ih.step (Run.shutting (run.trans more)) stepped

/-- Closing a connection waits for no reply. When it is closed everyone is released, and this stays
so whatever comes later: nobody is given a number and no line is written any more. -/
theorem Run.released (run : Run vm past d) :
    (d.session.closing ≠ .finished → ∃ move, d.Unhindered move) ∧
      (d.session.closing = .finished → Session.Released vm past d.session ∧
        ∀ later e, d.Leads later e → d.Silent later e ∧
          Session.Released vm (past ++ later) e.session) := by
  refine ⟨run.unhindered, fun finished => ⟨run.released_at finished, fun later e leads => ?_⟩⟩
  have silent := run.silent finished leads
  exact ⟨silent, Run.released_at (run.trans leads) silent.finished⟩

end Shutdown

namespace Sample

open Shutdown

/-- A call gets its number after those that waited have failed, and writes its line before the
writing half is taken. -/
def lateNumber : List Move := [.usual (.call queryStatus), .usual .giveTurn, .tell, .drain,
  .usual .register, .closeLog, .usual .written, .rest, .usual .takeWriter, .usual .endClose]

/-- A call on a closed connection. -/
def tooLate : List Move := [.usual (.call queryStatus), .usual .giveTurn, .usual .register]

theorem lateNumber_replayable :
    (Shutdown.replay? ⟨Session.new "alice", .untouched⟩ lateNumber).isSome := rfl

def closedLate : List Session.Moment × Shutdown := Option.get _ lateNumber_replayable

theorem tooLate_replayable : (closedLate.2.replay? tooLate).isSome := rfl

def askedTooLate : List Session.Moment × Shutdown := Option.get _ tooLate_replayable

/-- The call that got its number so late fails, and the one that comes later is refused. -/
theorem closedLate_released : closedLate.2.session.closing = .finished ∧
    Session.enrolled closedLate.1 = [(1, 0)] ∧
    closedLate.2.session.At 0 queryStatus (.ended (.error (.protocol "monitor of alice closed"))) ∧
    askedTooLate.2.session.At 1 queryStatus
      (.ended (.error (.protocol "monitor of alice is closed"))) ∧
    Session.Released "alice" closedLate.1 closedLate.2.session ∧
    closedLate.2.Silent askedTooLate.1 askedTooLate.2 ∧
    Session.Released "alice" (closedLate.1 ++ askedTooLate.1) askedTooLate.2.session := by
  have run : Run "alice" closedLate.1 closedLate.2 := .of_replay? lateNumber_replayable
  have leads : closedLate.2.Leads askedTooLate.1 askedTooLate.2 := .of_replay? tooLate_replayable
  obtain ⟨released, always⟩ := (Run.released run).2 rfl
  obtain ⟨silent, later⟩ := always askedTooLate.1 askedTooLate.2 leads
  exact ⟨rfl, rfl, rfl, rfl, released, silent, later⟩

end Sample

end VmControl
