import VmControl.Proofs.Monitor.EventLog
import VmControl.Proofs.Past
import VmControl.Proofs.Replay
import VmControl.Task.Wait

/-!
# Watching a log

Any number of waits watch one log, each with a token and a deadline. A wait searches the log, asks
whether it is closed, and sleeps until the log has changed, its token fires or its time has run out.
Whoever changes the log does so first and tells the sleepers afterwards. All of these steps may come
in any order, also those of several changes at once.

* `WatchedLog.step?`: one move. The parts of a change make up `EventLog.push` and `EventLog.close`,
  and a wait that goes on without a break is the wait of a task (`Await.begin_eq`, `Await.wake_eq`).
* `Watch.Alert`: what holds of a wait at every point; no move breaks it (`WatchedLog.Run.alert`).
* `EventLog.Oldest`: an event is the oldest one of a log that is wanted.
* `WatchedLog.Run.reliable`: a wait finds the oldest event that is wanted if there is one, and no
  change of the log escapes a sleeper.
-/

namespace VmControl

/-! ## The oldest event -/

namespace EventLog

variable {log : EventLog} {w : Wanted} {e : Event}

/-- An event is the oldest one of a log that is wanted. -/
def Oldest (log : EventLog) (w : Wanted) (e : Event) : Prop :=
  ∃ older newer, log.events = older ++ e :: newer ∧ w.Fits e ∧ ∀ x ∈ older, ¬ w.Fits x

theorem first?_eq_none_iff : log.first? w = none ↔ ∀ e ∈ log.events, ¬ w.Fits e := by
  simp only [first?, List.find?_eq_none, Wanted.holds_iff_fits]

theorem oldest_of_first? (found : log.first? w = some e) : log.Oldest w e := by
  obtain ⟨holds, older, newer, split, others⟩ := List.find?_eq_some_iff_append.mp found
  refine ⟨older, newer, split, Wanted.holds_iff_fits.mp holds, fun x before fits => ?_⟩
  have unwanted := others x before
  rw [Wanted.holds_iff_fits.mpr fits] at unwanted
  cases unwanted

/-! ## The parts of a change -/

/-- Puts an event into a log without telling anyone. -/
def put (log : EventLog) (e : Event) : EventLog := { log.push e with changes := log.changes }

/-- Closes a log without telling anyone. -/
def markClosed (log : EventLog) : EventLog := { log with closed := true }

/-- Tells everyone that a log has changed. -/
def announce (log : EventLog) : EventLog := { log with changes := log.changes + 1 }

theorem announce_put : (log.put e).announce = log.push e := rfl

theorem announce_markClosed : log.markClosed.announce = log.close := rfl

end EventLog

/-! ## One wait -/

/-- How far a wait has come. -/
inductive Watch.Stage where
  | searching
  /-- It has found nothing and is about to ask whether the log is closed. -/
  | asking
  | asleep
  | ended (outcome : Except ControlError Event)

/-- A wait that watches a log. -/
structure Watch where
  waiter : Waiter
  /-- The token that interrupts it. -/
  token : Nat
  stage : Watch.Stage

namespace Watch

/-- A step that a wait takes by itself. -/
inductive Step where
  | search
  | ask
  | wake (why : Wake)

/-- A wait that has just begun. It has subscribed to the changes of the log. -/
def begin (log : EventLog) (wanted : Wanted) (timeout : UInt64) (token now : Nat) : Watch :=
  ⟨Waiter.begin log wanted timeout now, token, .searching⟩

/-- Where a wait stands after a search. -/
def searched (w : Watch) (log : EventLog) : Stage :=
  match log.first? w.waiter.wanted with
  | some e => .ended (.ok e)
  | none => .asking

/-- Where a wait stands after it has asked whether the log is closed. -/
def asked (w : Watch) (log : EventLog) : Stage :=
  if log.closed then .ended (.error (EventLog.closedError w.waiter.wanted.kind)) else .asleep

/-- The wait after a step, if it can take it now. -/
def go? (w : Watch) (log : EventLog) (fired : Bool) (now : Nat) : Step → Option Watch
  | .search =>
    match w.stage with
    | .searching => some { w with stage := w.searched log }
    | _ => none
  | .ask =>
    match w.stage with
    | .asking => some { w with stage := w.asked log }
    | _ => none
  | .wake why =>
    match w.stage, why with
    | .asleep, .notice =>
      if w.waiter.isStirred log then
        some { w with waiter := w.waiter.notice log, stage := .searching }
      else none
    | .asleep, .interrupt =>
      if fired then some { w with stage := .ended (.error .interrupted) } else none
    | .asleep, .elapse =>
      if w.waiter.isDue now then some { w with stage := .ended (.error w.waiter.timeoutError) }
      else none
    | _, _ => none

/-- A wait that searches and asks without a break. -/
def look (w : Watch) (log : EventLog) : Watch :=
  match w.stage with
  | .searching =>
    match w.searched log with
    | .asking => { w with stage := w.asked log }
    | stage => { w with stage := stage }
  | _ => w

/-- What a wait is to a task that watches the log of a connection. -/
def result (w : Watch) (connection : Nat) : AwaitResult :=
  match w.stage with
  | .ended outcome => .over outcome
  | _ => .waits ⟨connection, w.waiter⟩

variable {w v : Watch} {log : EventLog} {fired : Bool} {now : Nat}

theorem look_of_searching (searching : w.stage = .searching) : w.look log =
    { w with stage := match log.look w.waiter.wanted with
      | some outcome => .ended outcome
      | none => .asleep } := by
  rw [look, searching, searched, EventLog.look]
  cases log.first? w.waiter.wanted with
  | some e => rfl
  | none =>
    simp only [asked]
    cases log.closed <;> rfl

end Watch

/-- A task that begins to wait searches and asks without a break. -/
theorem Await.begin_eq {s : Surroundings} {vm : String} {wanted : Wanted} {timeout : UInt64}
    {connection : Nat} (token : Nat) (found : s.registry.find vm = .ok connection) :
    Await.begin s vm wanted timeout =
      ((Watch.begin (s.log connection) wanted timeout token s.now).look (s.log connection)).result
        connection := by
  rw [Watch.look_of_searching rfl, Await.begin, found]
  simp only [Watch.begin, Waiter.begin, Watch.result]
  cases (s.log connection).look wanted <;> rfl

/-- A task that is woken searches and asks without a break. -/
theorem Await.wake_eq {a : Await} {s : Surroundings} {cancelled : Bool} {why : Wake} (token : Nat) :
    a.wake s cancelled why =
      ((⟨a.waiter, token, .asleep⟩ : Watch).go? (s.log a.connection) cancelled s.now
        (.wake why)).map
        fun w => (w.look (s.log a.connection)).result a.connection := by
  cases why with
  | notice =>
    simp only [Await.wake, Watch.go?]
    split
    · rw [Option.map_some, Watch.look_of_searching rfl]
      simp only [Watch.result, Waiter.notice]
      cases (s.log a.connection).look a.waiter.wanted <;> rfl
    · rfl
  | interrupt | elapse =>
    simp only [Await.wake, Watch.go?]
    split <;> rfl

/-! ## All waits on one log -/

/-- A log and those who watch it. -/
structure WatchedLog where
  log : EventLog
  /-- How many changes were made that nobody was told of yet. -/
  owed : Nat
  /-- All waits so far, in the order in which they began. -/
  watches : List Watch
  /-- The tokens that have fired. -/
  fired : List Nat
  /-- The time, in milliseconds. -/
  now : Nat

namespace WatchedLog

inductive Move where
  | put (e : Event)
  | markClosed
  | announce
  | fire (token : Nat)
  | pass (ms : Nat)
  | begin (wanted : Wanted) (timeout : UInt64) (token : Nat)
  /-- The wait with a number goes on. -/
  | go (n : Nat) (x : Watch.Step)

/-- A log that nobody watches. -/
def new (capacity now : Nat) : WatchedLog := ⟨EventLog.new capacity, 0, [], [], now⟩

def isFired (d : WatchedLog) (token : Nat) : Bool := decide (token ∈ d.fired)

/-- The wait after a step, if it can take it now. -/
def go? (d : WatchedLog) (w : Watch) (x : Watch.Step) : Option Watch :=
  w.go? d.log (d.isFired w.token) d.now x

/-- The log and the waits after a move, if it can be made. -/
def step? (d : WatchedLog) : Move → Option WatchedLog
  | .put e => some { d with log := d.log.put e, owed := d.owed + 1 }
  | .markClosed => some { d with log := d.log.markClosed, owed := d.owed + 1 }
  | .announce =>
    if d.owed = 0 then none else some { d with log := d.log.announce, owed := d.owed - 1 }
  | .fire token => some { d with fired := token :: d.fired }
  | .pass ms => some { d with now := d.now + ms }
  | .begin wanted timeout token =>
    some { d with watches := d.watches ++ [Watch.begin d.log wanted timeout token d.now] }
  | .go n x =>
    match d.watches[n]? with
    | none => none
    | some w => (d.go? w x).map fun v => { d with watches := d.watches.set n v }

/-- A moment of a log. -/
structure Moment where
  /-- The log and the waits before the move. -/
  before : WatchedLog
  move : Move

/-- The moves that lead from an empty log to a point, oldest first. -/
inductive Run (capacity now : Nat) : List Moment → WatchedLog → Prop
  | new : Run capacity now [] (.new capacity now)
  | step {past : List Moment} {d d' : WatchedLog} {move : Move} :
      Run capacity now past d → d.step? move = some d' →
        Run capacity now (past ++ [⟨d, move⟩]) d'

/-- Leads a log through moves. -/
def replay? (d : WatchedLog) (moves : List Move) : Option (List Moment × WatchedLog) :=
  VmControl.replay? step? id (fun d move _ => [⟨d, move⟩]) d moves

/-- The moves: what each of them finds and what it leaves. -/
inductive Step (d : WatchedLog) : Move → WatchedLog → Prop
  | put (e : Event) : Step d (.put e) { d with log := d.log.put e, owed := d.owed + 1 }
  | markClosed : Step d .markClosed { d with log := d.log.markClosed, owed := d.owed + 1 }
  | announce (owes : 0 < d.owed) :
      Step d .announce { d with log := d.log.announce, owed := d.owed - 1 }
  | fire (token : Nat) : Step d (.fire token) { d with fired := token :: d.fired }
  | pass (ms : Nat) : Step d (.pass ms) { d with now := d.now + ms }
  | begin (wanted : Wanted) (timeout : UInt64) (token : Nat) : Step d (.begin wanted timeout token)
      { d with watches := d.watches ++ [Watch.begin d.log wanted timeout token d.now] }
  | go {n : Nat} {w v : Watch} {x : Watch.Step} (listed : d.watches[n]? = some w)
      (goes : d.go? w x = some v) : Step d (.go n x) { d with watches := d.watches.set n v }

variable {capacity now n : Nat} {past : List Moment} {d d' : WatchedLog} {move : Move} {w v : Watch}
  {e : Event} {x : Watch.Step}

theorem step?_cases (stepped : d.step? move = some d') : d.Step move d' := by
  cases move with
  | put e => cases stepped; exact .put e
  | markClosed => cases stepped; exact .markClosed
  | announce =>
    simp only [step?] at stepped
    split at stepped
    · cases stepped
    · next owes => cases stepped; exact .announce (Nat.pos_of_ne_zero owes)
  | fire token => cases stepped; exact .fire token
  | pass ms => cases stepped; exact .pass ms
  | begin wanted timeout token => cases stepped; exact .begin wanted timeout token
  | go n x =>
    simp only [step?] at stepped
    split at stepped
    · cases stepped
    · next w listed =>
      obtain ⟨v, goes, rfl⟩ := Option.map_eq_some_iff.mp stepped
      exact .go listed goes

theorem Run.of_replay? {moves : List Move}
    (replayable : ((WatchedLog.new capacity now).replay? moves).isSome) :
    Run capacity now (Option.get _ replayable).1 (Option.get _ replayable).2 :=
  holds_of_replay? (R := Run capacity now) .new (fun _ _ => .step) replayable

/-- A wait has just begun, stays as it is, or goes on. -/
theorem Step.watch (step : d.Step move d') (here : d'.watches[n]? = some v) :
    (∃ wanted timeout token, v = Watch.begin d.log wanted timeout token d.now) ∨
      d.watches[n]? = some v ∨
      ∃ w x, move = .go n x ∧ d.watches[n]? = some w ∧ d.go? w x = some v := by
  cases step with
  | put | markClosed | announce | fire | pass => exact Or.inr (Or.inl here)
  | begin wanted timeout token =>
    rw [List.getElem?_append] at here
    split at here
    · exact Or.inr (Or.inl here)
    · have new := List.mem_singleton.mp (List.mem_of_getElem? here)
      exact Or.inl ⟨wanted, timeout, token, new⟩
  | @go m w v' x listed goes =>
    rw [List.getElem?_set] at here
    split at here
    · next same =>
      subst same
      split at here
      · cases here
        exact Or.inr (Or.inr ⟨w, x, rfl, listed, goes⟩)
      · cases here
    · exact Or.inr (Or.inl here)

end WatchedLog

/-! ## Nothing escapes a sleeper -/

/-- What holds of a wait: if there is something for it in the log that it does not know of, then it
will still notice a change, or somebody is still to tell of one. -/
structure Watch.Alert (log : EventLog) (owed : Nat) (w : Watch) : Prop where
  seen : w.waiter.seen ≤ log.changes
  asking : w.stage = .asking →
    w.waiter.seen < log.changes ∨ 0 < owed ∨ log.first? w.waiter.wanted = none
  asleep : w.stage = .asleep → w.waiter.seen < log.changes ∨ 0 < owed ∨
    (log.first? w.waiter.wanted = none ∧ log.closed = false)

namespace Watch.Alert

variable {log log' : EventLog} {owed now : Nat} {fired : Bool} {w v : Watch} {x : Watch.Step}

/-- Who owes to tell of a change keeps everybody alert. -/
theorem of_change (alert : Alert log owed w) (same : log'.changes = log.changes) :
    Alert log' (owed + 1) w :=
  ⟨same ▸ alert.seen, fun _ => Or.inr (Or.inl (Nat.succ_pos _)),
    fun _ => Or.inr (Or.inl (Nat.succ_pos _))⟩

theorem of_announce (alert : Alert log owed w) : Alert log.announce (owed - 1) w := by
  have stirred : w.waiter.seen < log.announce.changes := Nat.lt_succ_of_le alert.seen
  exact ⟨Nat.le_of_lt stirred, fun _ => Or.inl stirred, fun _ => Or.inl stirred⟩

theorem begin {wanted : Wanted} {timeout : UInt64} {token : Nat} :
    Alert log owed (Watch.begin log wanted timeout token now) :=
  ⟨Nat.le_refl _, nofun, nofun⟩

theorem of_search (alert : Alert log owed w) :
    Alert log owed { w with stage := w.searched log } := by
  refine ⟨alert.seen, fun asking => ?_, fun asleep => ?_⟩
  · cases found : log.first? w.waiter.wanted with
    | none => exact Or.inr (Or.inr rfl)
    | some e => simp only [searched, found, reduceCtorEq] at asking
  · cases found : log.first? w.waiter.wanted <;>
      simp only [searched, found, reduceCtorEq] at asleep

theorem of_ask (alert : Alert log owed w) (asking : w.stage = .asking) :
    Alert log owed { w with stage := w.asked log } := by
  refine ⟨alert.seen, fun still => ?_, fun asleep => ?_⟩
  · simp only [asked] at still
    split at still <;> cases still
  · simp only [asked] at asleep
    split at asleep
    · cases asleep
    · next closed =>
      rcases alert.asking asking with stirred | owes | nothing
      · exact Or.inl stirred
      · exact Or.inr (Or.inl owes)
      · exact Or.inr (Or.inr ⟨nothing, Bool.eq_false_iff.mpr closed⟩)

/-- A wait that goes on stays alert. -/
theorem go (alert : Alert log owed w) (goes : w.go? log fired now x = some v) :
    Alert log owed v := by
  cases x with
  | search =>
    simp only [go?] at goes
    split at goes
    · cases goes
      exact alert.of_search
    · cases goes
  | ask =>
    simp only [go?] at goes
    split at goes
    · next asking =>
      cases goes
      exact alert.of_ask asking
    · cases goes
  | wake why =>
    simp only [go?] at goes
    split at goes
    · split at goes <;> cases goes
      exact ⟨Nat.le_refl _, nofun, nofun⟩
    · split at goes <;> cases goes
      exact ⟨alert.seen, nofun, nofun⟩
    · split at goes <;> cases goes
      exact ⟨alert.seen, nofun, nofun⟩
    · cases goes

end Watch.Alert

namespace WatchedLog

variable {capacity now n : Nat} {past : List Moment} {d d' : WatchedLog} {move : Move} {w v : Watch}
  {e : Event} {x : Watch.Step}

theorem Step.alert (step : d.Step move d')
    (alert : ∀ (n : Nat) (w : Watch), d.watches[n]? = some w → w.Alert d.log d.owed)
    (n : Nat) (v : Watch) (here : d'.watches[n]? = some v) : v.Alert d'.log d'.owed := by
  cases step with
  | put | markClosed => exact (alert n v here).of_change rfl
  | announce => exact (alert n v here).of_announce
  | fire | pass => exact alert n v here
  | begin wanted timeout token =>
    have step := Step.begin (d := d) wanted timeout token
    rcases step.watch here with ⟨_, _, _, rfl⟩ | before | ⟨_, _, other, -⟩
    · exact .begin
    · exact alert n v before
    · cases other
  | go listed goes =>
    have step := Step.go listed goes
    rcases step.watch here with ⟨_, _, _, rfl⟩ | before | ⟨w, x, -, before, goes⟩
    · exact .begin
    · exact alert n v before
    · exact (alert n w before).go goes

theorem Run.alert (run : Run capacity now past d) :
    ∀ (n : Nat) (w : Watch), d.watches[n]? = some w → w.Alert d.log d.owed := by
  induction run with
  | new => nofun
  | step _ stepped ih => exact (step?_cases stepped).alert ih

/-! ## What waits return -/

/-- At a moment a wait searches for something, and an event is the oldest one of the log that is
wanted. -/
def Moment.Finds (m : Moment) (n : Nat) (wanted : Wanted) (e : Event) : Prop :=
  m.move = .go n .search ∧ m.before.log.Oldest wanted e ∧
    ∃ v, m.before.watches[n]? = some v ∧ v.stage = .searching ∧ v.waiter.wanted = wanted

/-- Who goes on wants what he wanted, and whoever ends with an event has just found it. -/
theorem go?_ended (goes : d.go? w x = some v) : v.waiter.wanted = w.waiter.wanted ∧
    (v.stage = .ended (.ok e) →
      x = .search ∧ w.stage = .searching ∧ d.log.Oldest w.waiter.wanted e) := by
  cases x with
  | search =>
    simp only [go?, Watch.go?] at goes
    split at goes
    · next searching =>
      cases goes
      refine ⟨rfl, fun ended => ⟨rfl, searching, ?_⟩⟩
      cases found : d.log.first? w.waiter.wanted with
      | none => simp only [Watch.searched, found, reduceCtorEq] at ended
      | some e' =>
        simp only [Watch.searched, found] at ended
        cases ended
        exact EventLog.oldest_of_first? found
    · cases goes
  | ask =>
    simp only [go?, Watch.go?] at goes
    split at goes
    · cases goes
      refine ⟨rfl, fun ended => ?_⟩
      simp only [Watch.asked] at ended
      split at ended <;> cases ended
    · cases goes
  | wake why =>
    simp only [go?, Watch.go?] at goes
    split at goes
    · split at goes <;> cases goes
      exact ⟨rfl, nofun⟩
    · split at goes <;> cases goes
      exact ⟨rfl, nofun⟩
    · split at goes <;> cases goes
      exact ⟨rfl, nofun⟩
    · cases goes

theorem Run.finds (run : Run capacity now past d) (here : d.watches[n]? = some w)
    (ended : w.stage = .ended (.ok e)) :
    Once (fun _ m => m.Finds n w.waiter.wanted e) past := by
  induction run generalizing w with
  | new => cases here
  | @step past d d' move run stepped ih =>
    rcases (step?_cases stepped).watch here with ⟨_, _, _, rfl⟩ | before | ⟨v, x, rfl, before, goes⟩
    · cases ended
    · exact (ih before ended).append _
    · obtain ⟨same, found⟩ := go?_ended goes
      obtain ⟨rfl, searching, oldest⟩ := found ended
      rw [same]
      exact .last ⟨rfl, oldest, v, before, searching, rfl⟩

/-- A wait has not ended and cannot go on by itself. -/
def Blocked (d : WatchedLog) (w : Watch) : Prop :=
  (∀ outcome, w.stage ≠ .ended outcome) ∧ ∀ x, d.go? w x = none

/-- What is known of a wait that cannot go on. -/
structure Sleeps (d : WatchedLog) (w : Watch) : Prop where
  asleep : w.stage = .asleep
  unfired : w.token ∉ d.fired
  early : d.now < w.waiter.deadline
  /-- Unless a change is only half made, nothing is in the log for the wait, and the log is open. -/
  quiet : d.owed = 0 → (∀ e ∈ d.log.events, ¬ w.waiter.wanted.Fits e) ∧ d.log.closed = false
  /-- The other half of a change lets the wait go on. -/
  told : 0 < d.owed →
    ∃ d', d.step? .announce = some d' ∧ (d'.go? w (.wake .notice)).isSome = true

theorem Blocked.sleeps (blocked : d.Blocked w) (alert : w.Alert d.log d.owed) : d.Sleeps w := by
  obtain ⟨going, stuck⟩ := blocked
  have asleep : w.stage = .asleep := by
    cases stage : w.stage with
    | asleep => rfl
    | ended outcome => exact absurd stage (going outcome)
    | searching =>
      have goes := stuck .search
      simp only [go?, Watch.go?, stage, reduceCtorEq] at goes
    | asking =>
      have goes := stuck .ask
      simp only [go?, Watch.go?, stage, reduceCtorEq] at goes
  -- asleep, each way to wake is barred for a reason of its own
  have unstirred := stuck (.wake .notice)
  have unfired := stuck (.wake .interrupt)
  have early := stuck (.wake .elapse)
  simp only [go?, Watch.go?, asleep, ite_eq_right_iff, reduceCtorEq, imp_false]
    at unstirred unfired early
  rw [Waiter.isStirred, decide_eq_true_iff, not_not] at unstirred
  refine ⟨asleep, ?_, ?_, fun settled => ?_, fun owes => ?_⟩
  · simpa only [isFired, decide_eq_true_iff] using unfired
  · simpa only [Waiter.isDue, decide_eq_true_iff, Nat.not_le] using early
  · rcases alert.asleep asleep with stirred | owes | ⟨nothing, opened⟩
    · omega
    · omega
    · exact ⟨EventLog.first?_eq_none_iff.mp nothing, opened⟩
  · refine ⟨_, if_neg (Nat.ne_of_gt owes), ?_⟩
    have stirred : w.waiter.isStirred d.log.announce = true :=
      decide_eq_true (by rw [unstirred]; exact Nat.ne_of_lt (Nat.lt_succ_self _))
    simp only [go?, Watch.go?, asleep, stirred, if_true, Option.isSome_some]

/-- What waits can rely on. -/
structure Reliable (past : List Moment) (d : WatchedLog) : Prop where
  /-- Whatever event a wait has returned was the oldest one that was wanted when it searched. -/
  oldest : ∀ (n : Nat) (w : Watch) (e : Event), d.watches[n]? = some w → w.stage = .ended (.ok e) →
    Once (fun _ m => m.Finds n w.waiter.wanted e) past
  /-- A wait that searches returns an event if the log holds one for it, whether or not the log is
  closed, the token has fired or the time has run out. -/
  returns : ∀ (n : Nat) (w : Watch), d.watches[n]? = some w → w.stage = .searching →
    (∃ e ∈ d.log.events, w.waiter.wanted.Fits e) →
      ∃ e, d.log.Oldest w.waiter.wanted e ∧
        d.go? w .search = some { w with stage := .ended (.ok e) }
  sleeps : ∀ (n : Nat) (w : Watch), d.watches[n]? = some w → d.Blocked w → d.Sleeps w

/-- No event escapes a wait: it returns the oldest one that is wanted, and if it cannot go on then
there is nothing for it to go on with. -/
theorem Run.reliable (run : Run capacity now past d) : Reliable past d where
  oldest _ _ _ here ended := run.finds here ended
  returns := by
    rintro n w - searching ⟨e, listed, fits⟩
    cases found : d.log.first? w.waiter.wanted with
    | none => exact absurd fits (EventLog.first?_eq_none_iff.mp found e listed)
    | some e' =>
      refine ⟨e', EventLog.oldest_of_first? found, ?_⟩
      simp only [go?, Watch.go?, searching, Watch.searched, found]
  sleeps n w here blocked := blocked.sleeps (run.alert n w here)

end WatchedLog

namespace Sample

open WatchedLog

def stopWanted : Wanted := .ofTexts "STOP" [] ⟨0, 0⟩

def resumeWanted : Wanted := .ofTexts "RESUME" [] ⟨0, 0⟩

/-- An event comes after a wait has searched for it, and the wait is told only when it has gone to
sleep. Another wait is for something that does not come. -/
def lateTelling : List Move :=
  [.begin stopWanted 1000 1, .go 0 .search, .put ⟨"STOP", .null, ⟨5, 0⟩⟩,
    .begin resumeWanted 1000 2, .go 0 .ask, .go 1 .search, .go 1 .ask, .fire 1, .announce,
    .go 0 (.wake .notice), .go 0 .search, .go 1 (.wake .notice), .go 1 .search, .go 1 .ask]

theorem lateTelling_replayable : ((WatchedLog.new 1 0).replay? lateTelling).isSome := by
  decide +kernel

def toldLate : List Moment × WatchedLog := Option.get _ lateTelling_replayable

theorem toldLate_run : Run 1 0 toldLate.1 toldLate.2 := .of_replay? lateTelling_replayable

/-- The first wait returns its event although its token has fired, and the second one sleeps. -/
theorem toldLate_reliable : Run 1 0 toldLate.1 toldLate.2 ∧
    toldLate.2.watches.map (fun w => match w.stage with
      | .ended (.ok e) => some e.event
      | _ => none) = [some "STOP", none] ∧
    Reliable toldLate.1 toldLate.2 :=
  ⟨toldLate_run, by decide +kernel, Run.reliable toldLate_run⟩

end Sample

end VmControl
