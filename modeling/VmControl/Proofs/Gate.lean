import VmControl.Gate
import VmControl.Proofs.Past
import VmControl.Proofs.Replay

/-!
# Waiting at a gate

Any number of waits stand at one gate, each with a token. A wait listens to the gate and to its
token before it looks at either, looks at the gate first, and sleeps when the gate is shut and the
token has not fired. Whoever opens the gate or fires a token tells those who listen to look again.
All of these steps may come in any order.

* `WatchedGate.step?`: one move. A wait that looks at the gate and at its token without a break gets
  what `Gate.look` gives (`GateWait.afterSteps?_eq_look`).
* `GateWait.Alert`: what holds of a wait at every point; no move breaks it
  (`WatchedGate.Run.alert`).
* `WatchedGate.Run.dependable`: the first call alone opens a gate, an open gate lets everybody pass
  who looks at it, and no opening and no token escapes a sleeper.
-/

namespace VmControl

/-! ## One wait -/

/-- How far a wait has come. -/
inductive GateWait.Stage where
  /-- It does not listen to anything yet. -/
  | called
  /-- It is about to look at the gate. -/
  | looking
  /-- It found the gate shut and is about to look at its token. -/
  | turnedAway
  | asleep
  | ended (outcome : Except ControlError Unit)
  /-- Whoever waited has gone away. -/
  | abandoned

/-- Someone who waits at a gate. -/
structure GateWait where
  /-- The token that interrupts the wait. -/
  token : Nat
  stage : GateWait.Stage
  /-- Whether it was told to look again since it last began to look. -/
  stirred : Bool

namespace GateWait

/-- Whether a wait is told of what happens. -/
def isListening (w : GateWait) : Bool :=
  match w.stage with
  | .looking | .turnedAway | .asleep => true
  | .called | .ended _ | .abandoned => false

/-- Whether a wait has not come to an end. -/
def isGoing (w : GateWait) : Bool :=
  match w.stage with
  | .ended _ | .abandoned => false
  | .called | .looking | .turnedAway | .asleep => true

/-- The wait after it was told to look again. -/
def hear (w : GateWait) : GateWait := if w.isListening then { w with stirred := true } else w

/-- The wait after its next step, if it can take one now. -/
def go? (w : GateWait) (gate : Gate) (fired : Bool) : Option GateWait :=
  match w.stage with
  | .called => some { w with stage := .looking }
  | .looking => some { w with stage := if gate.isOpen then .ended (.ok ()) else .turnedAway }
  | .turnedAway =>
    some { w with stage := if fired then .ended (.error .interrupted) else .asleep }
  | .asleep => if w.stirred then some { w with stage := .looking, stirred := false } else none
  | .ended _ | .abandoned => none

/-- The wait after so many steps of its own, while nothing else happens. -/
def afterSteps? (gate : Gate) (fired : Bool) : Nat → GateWait → Option GateWait
  | 0, w => some w
  | steps + 1, w => (w.go? gate fired).bind (afterSteps? gate fired steps)

variable {w v : GateWait} {gate : Gate} {fired : Bool}

@[simp] theorem hear_stage : w.hear.stage = w.stage := by
  unfold hear
  split <;> rfl

@[simp] theorem hear_token : w.hear.token = w.token := by
  unfold hear
  split <;> rfl

theorem hear_stirred (listens : w.isListening = true) : w.hear.stirred = true := by
  rw [hear, if_pos listens]

/-- A wait that looks at the gate and at its token without a break gets what a look gives. -/
theorem afterSteps?_eq_look (looking : w.stage = .looking) : ∃ steps,
    w.afterSteps? gate fired steps =
      some { w with stage := (gate.look fired).elim .asleep .ended } := by
  cases opened : gate.isOpen with
  | true => exact ⟨1, by simp [afterSteps?, go?, looking, Gate.look, opened]⟩
  | false =>
    refine ⟨2, ?_⟩
    cases fired <;> simp [afterSteps?, go?, looking, Gate.look, opened]

/-- What a step finds: only a look at an open gate ends in success, and only a look at a fired token
behind a gate that was shut ends in an interruption. -/
inductive Goes (w : GateWait) (gate : Gate) (fired : Bool) : GateWait → Prop
  | listen (called : w.stage = .called) : Goes w gate fired { w with stage := .looking }
  | pass (looking : w.stage = .looking) (opened : gate.isOpen = true) :
      Goes w gate fired { w with stage := .ended (.ok ()) }
  | turn (looking : w.stage = .looking) (shut : gate.isOpen = false) :
      Goes w gate fired { w with stage := .turnedAway }
  | interrupt (turned : w.stage = .turnedAway) (hit : fired = true) :
      Goes w gate fired { w with stage := .ended (.error .interrupted) }
  | sleep (turned : w.stage = .turnedAway) (unhit : fired = false) :
      Goes w gate fired { w with stage := .asleep }
  | wake (asleep : w.stage = .asleep) (stirred : w.stirred = true) :
      Goes w gate fired { w with stage := .looking, stirred := false }

theorem go?_cases (goes : w.go? gate fired = some v) : w.Goes gate fired v := by
  unfold go? at goes
  split at goes
  · next called =>
    cases goes
    exact .listen called
  · next looking =>
    cases goes
    split
    · next opened => exact .pass looking opened
    · next shut => exact .turn looking (Bool.eq_false_iff.mpr shut)
  · next turned =>
    cases goes
    split
    · next hit => exact .interrupt turned hit
    · next unhit => exact .sleep turned (Bool.eq_false_iff.mpr unhit)
  · next asleep =>
    split at goes
    · next stirred =>
      cases goes
      exact .wake asleep stirred
    · cases goes
  · cases goes
  · cases goes

end GateWait

/-! ## All waits at one gate -/

/-- A gate and those who wait at it. -/
structure WatchedGate where
  gate : Gate
  /-- The tokens that have fired. -/
  fired : List Nat
  /-- All waits so far, in the order in which they began. -/
  waits : List GateWait

namespace WatchedGate

inductive Move where
  | openNow
  | fire (token : Nat)
  | begin (token : Nat)
  /-- The wait with a number takes a step. -/
  | go (n : Nat)
  /-- The wait with a number is told to look again for a reason that has nothing to do with it. -/
  | stir (n : Nat)
  /-- Whoever waits there goes away. -/
  | leave (n : Nat)

/-- A gate at which nobody waits. -/
def new (gate : Gate) : WatchedGate := ⟨gate, [], []⟩

def isFired (d : WatchedGate) (token : Nat) : Bool := decide (token ∈ d.fired)

/-- The waits after a token has fired: those who listen to it are told the first time. -/
def alarmed (d : WatchedGate) (token : Nat) : List GateWait :=
  if d.isFired token then d.waits
  else d.waits.map fun w => if w.token = token then w.hear else w

/-- The waits after a call that opens the gate: those who listen are told by the call that did
it. -/
def released (d : WatchedGate) : List GateWait :=
  if d.gate.openNow.1 then d.waits.map GateWait.hear else d.waits

/-- The gate and the waits after a move, if it can be made. -/
def step? (d : WatchedGate) : Move → Option WatchedGate
  | .openNow => some { d with gate := d.gate.openNow.2, waits := d.released }
  | .fire token => some { d with fired := token :: d.fired, waits := d.alarmed token }
  | .begin token => some { d with waits := d.waits ++ [⟨token, .called, false⟩] }
  | .go n =>
    match d.waits[n]? with
    | none => none
    | some w => (w.go? d.gate (d.isFired w.token)).map fun v => { d with waits := d.waits.set n v }
  | .stir n =>
    match d.waits[n]? with
    | none => none
    | some w => some { d with waits := d.waits.set n w.hear }
  | .leave n =>
    match d.waits[n]? with
    | none => none
    | some w =>
      if w.isGoing then some { d with waits := d.waits.set n { w with stage := .abandoned } }
      else none

/-- A moment at a gate. -/
structure Moment where
  /-- The gate and the waits before the move. -/
  before : WatchedGate
  move : Move

/-- The moves that lead from a gate at which nobody waits to a point, oldest first. -/
inductive Run (gate : Gate) : List Moment → WatchedGate → Prop
  | new : Run gate [] (.new gate)
  | step {past : List Moment} {d d' : WatchedGate} {move : Move} :
      Run gate past d → d.step? move = some d' → Run gate (past ++ [⟨d, move⟩]) d'

/-- Leads a gate through moves. -/
def replay? (d : WatchedGate) (moves : List Move) : Option (List Moment × WatchedGate) :=
  VmControl.replay? step? id (fun d move _ => [⟨d, move⟩]) d moves

variable {gate : Gate} {past : List Moment} {d d' : WatchedGate} {move : Move} {m : Moment}
  {n token : Nat} {w v : GateWait} {outcome : Except ControlError Unit}

theorem Run.of_replay? {moves : List Move}
    (replayable : ((WatchedGate.new gate).replay? moves).isSome) :
    Run gate (Option.get _ replayable).1 (Option.get _ replayable).2 :=
  holds_of_replay? (R := Run gate) .new (fun _ _ => .step) replayable

/-- The moves: what each of them finds and what it leaves. -/
inductive Step (d : WatchedGate) : Move → WatchedGate → Prop
  | openNow : Step d .openNow { d with gate := ⟨true⟩, waits := d.released }
  | fire (token : Nat) :
      Step d (.fire token) { d with fired := token :: d.fired, waits := d.alarmed token }
  | begin (token : Nat) :
      Step d (.begin token) { d with waits := d.waits ++ [⟨token, .called, false⟩] }
  | go {n : Nat} {w v : GateWait} (listed : d.waits[n]? = some w)
      (goes : w.Goes d.gate (d.isFired w.token) v) : Step d (.go n)
      { d with waits := d.waits.set n v }
  | stir {n : Nat} {w : GateWait} (listed : d.waits[n]? = some w) :
      Step d (.stir n) { d with waits := d.waits.set n w.hear }
  | leave {n : Nat} {w : GateWait} (listed : d.waits[n]? = some w) (going : w.isGoing = true) :
      Step d (.leave n) { d with waits := d.waits.set n { w with stage := .abandoned } }

theorem step?_cases (stepped : d.step? move = some d') : d.Step move d' := by
  cases move with
  | openNow => cases stepped; exact .openNow
  | fire token => cases stepped; exact .fire token
  | begin token => cases stepped; exact .begin token
  | go n =>
    simp only [step?] at stepped
    split at stepped
    · cases stepped
    · next w listed =>
      obtain ⟨v, goes, rfl⟩ := Option.map_eq_some_iff.mp stepped
      exact .go listed (GateWait.go?_cases goes)
  | stir n =>
    simp only [step?] at stepped
    split at stepped
    · cases stepped
    · next w listed =>
      cases stepped
      exact .stir listed
  | leave n =>
    simp only [step?] at stepped
    split at stepped
    · cases stepped
    · next w listed =>
      split at stepped
      · next going =>
        cases stepped
        exact .leave listed going
      · cases stepped

/-! ## One wait among others -/

/-- What a move does to a wait. -/
inductive Befalls (d : WatchedGate) (move : Move) (n : Nat) (v : GateWait) : Prop
  | begins (absent : d.waits[n]? = none) (called : v.stage = .called)
  /-- It stays as it is, or is told to look again. -/
  | stays {w : GateWait} (listed : d.waits[n]? = some w) (token : v.token = w.token)
      (stage : v.stage = w.stage) (other : move ≠ .go n)
  | goes {w : GateWait} (listed : d.waits[n]? = some w) (own : move = .go n)
      (goes : w.Goes d.gate (d.isFired w.token) v)
  | leaves (abandoned : v.stage = .abandoned)

theorem listed_of_set {waits : List GateWait} {k : Nat} (here : (waits.set k w)[n]? = some v) :
    (n = k ∧ v = w) ∨ (n ≠ k ∧ waits[n]? = some v) := by
  rw [List.getElem?_set] at here
  split at here
  · next same =>
    split at here
    · cases here
      exact Or.inl ⟨same.symm, rfl⟩
    · cases here
  · next apart => exact Or.inr ⟨fun same => apart same.symm, here⟩

theorem listed_of_released (here : d.released[n]? = some v) : ∃ w, d.waits[n]? = some w ∧
    v = if d.gate.openNow.1 then w.hear else w := by
  unfold released at here
  split at here
  · next did =>
    rw [List.getElem?_map] at here
    obtain ⟨w, listed, rfl⟩ := Option.map_eq_some_iff.mp here
    exact ⟨w, listed, (if_pos did).symm⟩
  · next vain => exact ⟨v, here, (if_neg vain).symm⟩

theorem listed_of_alarmed (here : (d.alarmed token)[n]? = some v) : ∃ w, d.waits[n]? = some w ∧
    v = if w.token = token ∧ token ∉ d.fired then w.hear else w := by
  unfold alarmed isFired at here
  split at here
  · next before =>
    have fired : token ∈ d.fired := of_decide_eq_true before
    exact ⟨v, here, (if_neg fun told => told.2 fired).symm⟩
  · next first =>
    have unfired : token ∉ d.fired := fun fired => first (decide_eq_true fired)
    rw [List.getElem?_map] at here
    obtain ⟨w, listed, rfl⟩ := Option.map_eq_some_iff.mp here
    exact ⟨w, listed, by simp only [unfired, not_false_eq_true, and_true]⟩

theorem Step.befalls (step : d.Step move d') (here : d'.waits[n]? = some v) :
    d.Befalls move n v := by
  cases step with
  | openNow =>
    obtain ⟨w, listed, rfl⟩ := listed_of_released here
    split <;> exact .stays listed (by simp) (by simp) nofun
  | fire token =>
    obtain ⟨w, listed, rfl⟩ := listed_of_alarmed here
    split <;> exact .stays listed (by simp) (by simp) nofun
  | begin token =>
    rw [List.getElem?_append] at here
    split at here
    · exact .stays here rfl rfl nofun
    · next beyond =>
      have new := List.mem_singleton.mp (List.mem_of_getElem? here)
      exact .begins (List.getElem?_eq_none (Nat.not_lt.mp beyond)) (by rw [new])
  | go listed goes =>
    rcases listed_of_set here with ⟨rfl, rfl⟩ | ⟨apart, listed⟩
    · exact .goes listed rfl goes
    · exact .stays listed rfl rfl fun own => apart (Move.go.inj own).symm
  | stir listed =>
    rcases listed_of_set here with ⟨rfl, rfl⟩ | ⟨apart, listed⟩
    · exact .stays listed GateWait.hear_token GateWait.hear_stage nofun
    · exact .stays listed rfl rfl nofun
  | leave listed going =>
    rcases listed_of_set here with ⟨rfl, rfl⟩ | ⟨apart, listed⟩
    · exact .leaves rfl
    · exact .stays listed rfl rfl nofun

/-- A wait that has ended stays as it ended. -/
theorem Step.ended (step : d.Step move d') (listed : d.waits[n]? = some w)
    (ended : w.stage = .ended outcome) : ∃ v, d'.waits[n]? = some v ∧ v.stage = .ended outcome := by
  have kept {k : Nat} {u v : GateWait} (there : d.waits[k]? = some u)
      (same : u.stage = .ended outcome → v.stage = .ended outcome) :
      ∃ x, (d.waits.set k v)[n]? = some x ∧ x.stage = .ended outcome := by
    by_cases own : k = n
    · subst own
      rw [listed] at there
      cases there
      have inside : k < d.waits.length := (List.getElem?_eq_some_iff.mp listed).1
      exact ⟨v, by rw [List.getElem?_set_self inside], same ended⟩
    · exact ⟨w, by rw [List.getElem?_set_ne own, listed], ended⟩
  cases step with
  | openNow =>
    simp only [released]
    split
    · exact ⟨w.hear, by rw [List.getElem?_map, listed, Option.map_some], by simpa using ended⟩
    · exact ⟨w, listed, ended⟩
  | fire token =>
    simp only [alarmed]
    split
    · exact ⟨w, listed, ended⟩
    · refine ⟨_, by rw [List.getElem?_map, listed, Option.map_some], ?_⟩
      split
      · simpa using ended
      · exact ended
  | begin token =>
    have inside : n < d.waits.length := (List.getElem?_eq_some_iff.mp listed).1
    exact ⟨w, by rw [List.getElem?_append_left inside, listed], ended⟩
  | go there goes =>
    refine kept there fun finished => ?_
    cases goes with
    | listen stage | pass stage | turn stage | interrupt stage | sleep stage | wake stage =>
      rw [stage] at finished
      cases finished
  | stir there => exact kept there fun finished => by simpa using finished
  | leave there going =>
    refine kept there fun finished => ?_
    rw [GateWait.isGoing, finished] at going
    cases going

end WatchedGate

/-! ## Nothing escapes a sleeper -/

/-- What holds of a wait that has found the gate shut: if the gate has opened since, or its token
has fired since it looked at it, then it was told to look again. -/
structure GateWait.Alert (w : GateWait) (gate : Gate) (fired : List Nat) : Prop where
  turnedAway : w.stage = .turnedAway → gate.isOpen = true → w.stirred = true
  asleep : w.stage = .asleep → gate.isOpen = true ∨ w.token ∈ fired → w.stirred = true

namespace GateWait.Alert

variable {w v : GateWait} {gate : Gate} {fired : List Nat} {hit : Bool}

/-- Who was told to look again is alert, whatever has happened. -/
theorem hear : w.hear.Alert gate fired where
  turnedAway turned _ :=
    hear_stirred (by rw [hear_stage] at turned; simp only [isListening, turned])
  asleep sleeps _ := hear_stirred (by rw [hear_stage] at sleeps; simp only [isListening, sleeps])

/-- Who neither sleeps nor is about to has nothing to be told. -/
theorem of_stage (turned : w.stage ≠ .turnedAway) (sleeps : w.stage ≠ .asleep) :
    w.Alert gate fired :=
  ⟨fun stage => absurd stage turned, fun stage => absurd stage sleeps⟩

theorem go (alert : w.Alert gate fired) (goes : w.Goes gate hit v)
    (known : hit = decide (w.token ∈ fired)) :
    v.Alert gate fired := by
  cases goes with
  | listen | pass | interrupt | wake => exact of_stage nofun nofun
  | turn _ shut => exact ⟨fun _ opened => absurd (shut.symm.trans opened) nofun, nofun⟩
  | sleep turned unhit =>
    refine ⟨nofun, fun _ reason => ?_⟩
    rcases reason with opened | hit'
    · exact alert.turnedAway turned opened
    · rw [unhit] at known
      exact absurd hit' (of_decide_eq_false known.symm)

end GateWait.Alert

namespace WatchedGate

variable {gate : Gate} {past : List Moment} {d d' : WatchedGate} {move : Move} {m : Moment}
  {n token : Nat} {w v : GateWait} {outcome : Except ControlError Unit}

/-- Everybody is alert. -/
def AllAlert (d : WatchedGate) : Prop :=
  ∀ (n : Nat) (w : GateWait), d.waits[n]? = some w → w.Alert d.gate d.fired

/-- Everybody stays alert if one of them changes and is alert. -/
theorem AllAlert.set (alert : d.AllAlert) (own : v.Alert d.gate d.fired) {k : Nat}
    (here : (d.waits.set n v)[k]? = some w) : w.Alert d.gate d.fired := by
  rcases listed_of_set here with ⟨-, rfl⟩ | ⟨-, before⟩
  · exact own
  · exact alert k w before

theorem Step.alert (step : d.Step move d') (alert : d.AllAlert) : d'.AllAlert := by
  intro n v here
  cases step with
  | openNow =>
    obtain ⟨w, listed, rfl⟩ := listed_of_released here
    split
    · exact .hear
    · next vain =>
      -- the gate was open already, so nothing has changed
      have opened : d.gate.isOpen = true := by
        rw [Gate.openNow_fst_iff, Bool.not_eq_false] at vain
        exact vain
      have before := alert n w listed
      exact ⟨fun turned _ => before.turnedAway turned opened,
        fun sleeps _ => before.asleep sleeps (Or.inl opened)⟩
  | fire token =>
    obtain ⟨w, listed, rfl⟩ := listed_of_alarmed here
    split
    · exact .hear
    · next untold =>
      have before := alert n w listed
      refine ⟨before.turnedAway, fun sleeps reason =>
        before.asleep sleeps (reason.imp_right fun hit => ?_)⟩
      rcases List.mem_cons.mp hit with own | hit
      · by_contra unfired
        exact untold ⟨own, own ▸ unfired⟩
      · exact hit
  | begin token =>
    rw [List.getElem?_append] at here
    split at here
    · exact alert n v here
    · rw [List.mem_singleton.mp (List.mem_of_getElem? here)]
      exact .of_stage nofun nofun
  | go listed goes => exact alert.set ((alert _ _ listed).go goes rfl) here
  | stir listed => exact alert.set .hear here
  | leave listed going =>
    refine alert.set ?_ here
    exact .of_stage nofun nofun

theorem Run.alert (run : Run gate past d) : d.AllAlert := by
  induction run with
  | new => nofun
  | step _ stepped ih => exact (step?_cases stepped).alert ih

/-! ## The gate -/

theorem Step.isOpen (step : d.Step move d') :
    d'.gate.isOpen = true ↔ d.gate.isOpen = true ∨ move = .openNow := by
  cases step with
  | openNow => simp
  | fire | begin | go | stir | leave => simp

/-- A gate is open if it was from the start or some call has opened it. -/
theorem Run.isOpen_iff (run : Run gate past d) :
    d.gate.isOpen = true ↔ gate.isOpen = true ∨ ∃ m ∈ past, m.move = .openNow := by
  induction run with
  | new => simp [WatchedGate.new]
  | @step past d d' move _ stepped ih =>
    rw [(step?_cases stepped).isOpen, ih, or_assoc]
    simp [or_and_right, exists_or]

theorem Run.stays_open (run : Run gate past d) :
    ∀ m ∈ past, m.before.gate.isOpen = true → d.gate.isOpen = true := by
  induction run with
  | new => nofun
  | step _ stepped ih =>
    intro m listed opened
    refine (step?_cases stepped).isOpen.mpr (Or.inl ?_)
    rcases List.mem_append.mp listed with before | last
    · exact ih m before opened
    · rw [List.mem_singleton.mp last] at opened
      exact opened

/-- A call is told that it has opened the gate exactly if it is the first one and the gate was
shut. -/
def Moment.IsFirst (gate : Gate) (earlier : List Moment) (m : Moment) : Prop :=
  m.move = .openNow →
    (m.before.gate.openNow.1 = true ↔ gate.isOpen = false ∧ ∀ x ∈ earlier, x.move ≠ .openNow)

theorem Run.opens (run : Run gate past d) : Throughout (Moment.IsFirst gate) past := by
  induction run with
  | new => exact throughout_nil
  | step run _ ih =>
    refine throughout_concat.mpr ⟨ih, fun _ => ?_⟩
    rw [Gate.openNow_fst_iff, ← Bool.not_eq_true, run.isOpen_iff, not_or, Bool.not_eq_true]
    refine and_congr_right fun _ => ⟨fun none x listed first => none ⟨x, listed, first⟩, ?_⟩
    rintro none ⟨x, listed, first⟩
    exact none x listed first

/-! ## What waits return -/

/-- A wait looks at the gate. -/
def Moment.Looks (m : Moment) (n : Nat) : Prop :=
  m.move = .go n ∧ ∃ w, m.before.waits[n]? = some w ∧ w.stage = .looking

/-- A wait finds that its token has fired. -/
def Moment.FindsFired (m : Moment) (n token : Nat) : Prop :=
  m.move = .go n ∧ token ∈ m.before.fired ∧
    ∃ w, m.before.waits[n]? = some w ∧ w.token = token ∧ w.stage = .turnedAway

/-- The gate was shut when a wait last looked at it. -/
def LastShut (past : List Moment) (n : Nat) : Prop :=
  ∃ earlier m since, past = earlier ++ m :: since ∧ m.Looks n ∧ m.before.gate.isOpen = false ∧
    ∀ x ∈ since, ¬ x.Looks n

theorem LastShut.concat (shut : LastShut past n) (other : ¬ m.Looks n) :
    LastShut (past ++ [m]) n := by
  obtain ⟨earlier, look, since, rfl, looks, found, none⟩ := shut
  refine ⟨earlier, look, since ++ [m], by rw [List.append_assoc, List.cons_append], looks,
    found, ?_⟩
  intro x listed
  rcases List.mem_append.mp listed with before | last
  · exact none x before
  · rw [List.mem_singleton.mp last]
    exact other

theorem Run.lastShut (run : Run gate past d) (here : d.waits[n]? = some w)
    (turned : w.stage = .turnedAway) : LastShut past n := by
  induction run generalizing w with
  | new => cases here
  | @step past d d' move run stepped ih =>
    cases (step?_cases stepped).befalls here with
    | begins _ called => rw [called] at turned; cases turned
    | leaves abandoned => rw [abandoned] at turned; cases turned
    | stays listed _ stage other =>
      exact (ih listed (stage ▸ turned)).concat fun looks => other looks.1
    | goes listed own goes =>
      cases goes with
      | turn looking shut =>
        exact ⟨past, ⟨d, move⟩, [], rfl, ⟨own, _, listed, looking⟩, shut, nofun⟩
      | listen | pass | interrupt | sleep | wake => cases turned

/-- How a wait that has ended came to its outcome. -/
inductive Earned (n token : Nat) (past : List Moment) : Except ControlError Unit → Prop
  /-- It found the gate open. -/
  | passed (found : Once (fun _ m => m.Looks n ∧ m.before.gate.isOpen = true) past) :
      Earned n token past (.ok ())
  /-- It found its token fired, and the gate was shut when it last looked at it before. -/
  | interrupted (found : Once (fun earlier m => LastShut earlier n ∧ m.FindsFired n token) past) :
      Earned n token past (.error .interrupted)

theorem Earned.append (earned : Earned n token past outcome) (more : List Moment) :
    Earned n token (past ++ more) outcome := by
  cases earned with
  | passed found => exact .passed (found.append more)
  | interrupted found => exact .interrupted (found.append more)

theorem Run.earned (run : Run gate past d) (here : d.waits[n]? = some w)
    (ended : w.stage = .ended outcome) : Earned n w.token past outcome := by
  induction run generalizing w with
  | new => cases here
  | @step past d d' move run stepped ih =>
    cases (step?_cases stepped).befalls here with
    | begins _ called => rw [called] at ended; cases ended
    | leaves abandoned => rw [abandoned] at ended; cases ended
    | stays listed token stage _ =>
      rw [token]
      exact (ih listed (stage ▸ ended)).append _
    | goes listed own goes =>
      cases goes with
      | pass looking opened =>
        cases ended
        exact .passed (.last ⟨⟨own, _, listed, looking⟩, opened⟩)
      | interrupt turned hit =>
        cases ended
        exact .interrupted (.last ⟨run.lastShut listed turned,
          own, of_decide_eq_true hit, _, listed, rfl, turned⟩)
      | listen | turn | sleep | wake => cases ended

/-- Whoever looked at an open gate has passed. -/
theorem Run.passed (run : Run gate past d) : ∀ m ∈ past, m.Looks n → m.before.gate.isOpen = true →
    ∃ w, d.waits[n]? = some w ∧ w.stage = .ended (.ok ()) := by
  induction run with
  | new => nofun
  | @step past d d' move run stepped ih =>
    intro m listed looks opened
    rcases List.mem_append.mp listed with before | last
    · obtain ⟨w, here, ended⟩ := ih m before looks opened
      exact (step?_cases stepped).ended here ended
    · rw [List.mem_singleton.mp last] at looks opened
      obtain ⟨own, w, here, looking⟩ := looks
      dsimp only at own here opened
      subst own
      have inside : n < d.waits.length := (List.getElem?_eq_some_iff.mp here).1
      simp only [step?, here, GateWait.go?, looking, opened, if_true, Option.map_some] at stepped
      cases stepped
      exact ⟨_, by rw [List.getElem?_set_self inside], rfl⟩

/-! ## What waits can rely on -/

/-- A wait has not come to an end and cannot take a step. -/
def Blocked (d : WatchedGate) (w : GateWait) : Prop :=
  w.isGoing = true ∧ w.go? d.gate (d.isFired w.token) = none

theorem Blocked.asleep (blocked : d.Blocked w) : w.stage = .asleep ∧ w.stirred = false := by
  obtain ⟨going, stuck⟩ := blocked
  unfold GateWait.go? at stuck
  split at stuck
  · cases stuck
  · cases stuck
  · cases stuck
  · next asleep =>
    split at stuck
    · cases stuck
    · next unstirred => exact ⟨asleep, Bool.eq_false_iff.mpr unstirred⟩
  · next finished =>
    rw [GateWait.isGoing, finished] at going
    cases going
  · next finished =>
    rw [GateWait.isGoing, finished] at going
    cases going

/-- At an open gate a wait passes by itself, unless it has looked at the gate before and not at its
token yet. -/
theorem passes_of_alert (alert : w.Alert d.gate d.fired) (opened : d.gate.isOpen = true)
    (going : w.isGoing = true) (fresh : w.stage ≠ .turnedAway) :
    ∃ steps v, w.afterSteps? d.gate (d.isFired w.token) steps = some v ∧
      v.stage = .ended (.ok ()) := by
  cases stage : w.stage with
  | turnedAway => exact absurd stage fresh
  | ended | abandoned =>
    rw [GateWait.isGoing, stage] at going
    cases going
  | called =>
    exact ⟨2, { w with stage := .ended (.ok ()) },
      by simp [GateWait.afterSteps?, GateWait.go?, stage, opened], rfl⟩
  | looking =>
    exact ⟨1, { w with stage := .ended (.ok ()) },
      by simp [GateWait.afterSteps?, GateWait.go?, stage, opened], rfl⟩
  | asleep =>
    have stirred : w.stirred = true := alert.asleep stage (Or.inl opened)
    exact ⟨2, { w with stage := .ended (.ok ()), stirred := false },
      by simp [GateWait.afterSteps?, GateWait.go?, stage, stirred, opened], rfl⟩

/-- What a gate grants to those who open it and to those who wait at it. -/
structure Dependable (gate : Gate) (past : List Moment) (d : WatchedGate) : Prop where
  /-- The first call alone is told that it has opened the gate, and none if the gate was open
  already. -/
  opens : Throughout (Moment.IsFirst gate) past
  neverShuts : ∀ m ∈ past, m.before.gate.isOpen = true → d.gate.isOpen = true
  /-- Whoever looks at an open gate passes, whether or not the token has fired. -/
  passed : ∀ (n : Nat), ∀ m ∈ past, m.Looks n → m.before.gate.isOpen = true →
    ∃ w, d.waits[n]? = some w ∧ w.stage = .ended (.ok ())
  /-- Whoever begins to look or is still to look when the gate is open passes by itself. -/
  passes : ∀ (n : Nat) (w : GateWait), d.waits[n]? = some w → d.gate.isOpen = true →
    w.isGoing = true → w.stage ≠ .turnedAway →
      ∃ steps v, w.afterSteps? d.gate (d.isFired w.token) steps = some v ∧ v.stage = .ended (.ok ())
  /-- A wait ends well only if it found the gate open, and is interrupted only if the gate was shut
  when it last looked and its own token has fired. It ends in no other way. -/
  earned : ∀ (n : Nat) (w : GateWait) (outcome : Except ControlError Unit), d.waits[n]? = some w →
    w.stage = .ended outcome → Earned n w.token past outcome
  /-- Whoever cannot go on waits at a gate that is shut, with a token that has not fired. -/
  blocked : ∀ (n : Nat) (w : GateWait), d.waits[n]? = some w → d.Blocked w →
    d.gate.isOpen = false ∧ w.token ∉ d.fired

/-- The gate is opened by the first call and for good, everybody passes who looks at it then, and
nobody is left waiting without a reason. -/
theorem Run.dependable (run : Run gate past d) : Dependable gate past d where
  opens := run.opens
  neverShuts := run.stays_open
  passed _ := run.passed
  passes n w here opened going fresh := passes_of_alert (run.alert n w here) opened going fresh
  earned _ _ _ here ended := run.earned here ended
  blocked n w here blocked := by
    obtain ⟨asleep, unstirred⟩ := blocked.asleep
    have silent (reason : d.gate.isOpen = true ∨ w.token ∈ d.fired) : False := by
      rw [(run.alert n w here).asleep asleep reason] at unstirred
      cases unstirred
    exact ⟨Bool.eq_false_iff.mpr fun opened => silent (Or.inl opened),
      fun hit => silent (Or.inr hit)⟩

end WatchedGate

namespace Sample

open WatchedGate

/-- Of three waits one is interrupted before the gate opens. One of the others sleeps when its token
fires and wakes when the gate is open, and one has found the gate shut and goes to sleep when it is
open. -/
def crowding : List WatchedGate.Move :=
  [.begin 1, .go 0, .go 0, .go 0, .begin 1, .begin 2, .go 1, .go 1, .fire 1, .go 1, .go 2,
    .go 2, .go 0, .openNow, .go 0, .openNow, .go 2, .go 2, .go 2]

theorem crowding_replayable : ((WatchedGate.new .shut).replay? crowding).isSome := by decide +kernel

def crowded : List WatchedGate.Moment × WatchedGate := Option.get _ crowding_replayable

theorem crowded_run : WatchedGate.Run .shut crowded.1 crowded.2 := .of_replay? crowding_replayable

theorem crowded_dependable : WatchedGate.Run .shut crowded.1 crowded.2 ∧
    crowded.2.waits.map (fun w => match w.stage with
      | .ended (.ok ()) => some true
      | .ended (.error .interrupted) => some false
      | _ => none) = [some true, some false, some true] ∧
    Dependable .shut crowded.1 crowded.2 :=
  ⟨crowded_run, by decide +kernel, WatchedGate.Run.dependable crowded_run⟩

end Sample

end VmControl
