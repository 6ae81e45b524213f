import VmControl.Proofs.Past
import VmControl.Task.Lifecycle

/-!
# A task in many hands

Whoever holds a task may start it, cancel it and wait for it at any moment, and all who hold it hold
the same task. The body of a run returns when it likes. What the task takes over then and the word
to those who wait for the run are two moves, and others may come between them, the start of a
further run among them.

* `SharedTask.step?`: the moves of those who hold the task, of its bodies and of those who wait.
* `SharedTask.Current`: which run is in progress, told by what has happened.
* `SharedTask.Accounted`: the runs begin and return in turns; this is what every move keeps.
* `SharedTask.Run.handles_orderly`: what those who hold the task are told, and when a wait is over.
-/

namespace VmControl

/-- A wait for a task. -/
structure TaskWait where
  /-- The run that is waited for; nothing is waited for under zero. -/
  run : Nat
  resumed : Bool
deriving DecidableEq

/-- A task with the bodies and the waits that go on around it. -/
structure SharedTask where
  task : Task
  /-- The runs whose bodies are at work. -/
  atWork : List Nat
  /-- The runs whose bodies have returned, while those who wait for them are not told yet. -/
  untold : List Nat
  /-- The waits so far, in the order in which they began. -/
  waits : List TaskWait
deriving DecidableEq

namespace SharedTask

/-- What may happen around a task. -/
inductive Move where
  /-- Somebody asks for a run. -/
  | start
  | cancel
  | wait
  /-- The body of a run returns, and the task takes the outcome over. -/
  | finish (run : Nat) (outcome : Option ControlError)
  /-- Those who wait for a run are told that it is over. -/
  | release (run : Nat)
  /-- The wait at a position finds that it is over. -/
  | resume (wait : Nat)
deriving DecidableEq

/-- A move with the answer to the one who made it. -/
structure Event where
  move : Move
  answer : Except ControlError Unit

/-- A task never started, for which nobody waits. -/
def new : SharedTask := ⟨.new, [], [], []⟩

/-- The task after a move with the answer to the one who makes it; nothing where the move cannot be
made. -/
def step? (s : SharedTask) : Move → Option (SharedTask × Except ControlError Unit)
  | .start =>
    match s.task.start? with
    | some task => some ({ s with task := task, atWork := s.atWork ++ [task.runs] }, .ok ())
    | none => some (s, .error .taskAlreadyRunning)
  | .cancel =>
    match s.task.cancel? with
    | some task => some ({ s with task := task }, .ok ())
    | none => some (s, .error .taskNotRunning)
  | .wait => some ({ s with waits := s.waits ++ [⟨s.task.awaited, false⟩] }, .ok ())
  | .finish run outcome =>
    if run ∈ s.atWork then
      some ({ s with
        task := s.task.finish outcome
        atWork := s.atWork.erase run
        untold := s.untold ++ [run] }, .ok ())
    else none
  | .release run =>
    if run ∈ s.untold then
      some ({ s with task := s.task.release run, untold := s.untold.erase run }, .ok ())
    else none
  | .resume wait =>
    match s.waits[wait]? with
    | some ⟨run, false⟩ =>
      if s.task.isReleased run then
        some ({ s with waits := s.waits.set wait ⟨run, true⟩ }, .ok ())
      else none
    | _ => none

/-- The events lead from one state of a task to another. -/
inductive Leads (s : SharedTask) : List Event → SharedTask → Prop
  | refl : Leads s [] s
  | step {past : List Event} {t u : SharedTask} {move : Move} {answer : Except ControlError Unit}
      (before : Leads s past t) (stepped : t.step? move = some (u, answer)) :
      Leads s (past ++ [⟨move, answer⟩]) u

/-- The events of a task from the beginning. -/
abbrev Run (past : List Event) (s : SharedTask) : Prop := Leads new past s

variable {s t u : SharedTask} {past later : List Event} {move : Move}
  {answer : Except ControlError Unit} {e : Event} {n position : Nat} {outcome : Option ControlError}
  {w : TaskWait}

/-! ## What has happened -/

/-- A run has begun. -/
def Event.isStart (e : Event) : Bool :=
  match e.move, e.answer with
  | .start, .ok () => true
  | _, _ => false

def Event.isWait (e : Event) : Bool :=
  match e.move with
  | .wait => true
  | _ => false

/-- The run whose body has returned, and its outcome. -/
def Event.return? (e : Event) : Option (Nat × Option ControlError) :=
  match e.move with
  | .finish run outcome => some (run, outcome)
  | _ => none

/-- How many runs have begun; they are numbered from one. -/
def runs (past : List Event) : Nat := past.countP Event.isStart

/-- How many waits have begun; they are numbered from zero. -/
def waitsBegun (past : List Event) : Nat := past.countP Event.isWait

/-- The runs whose bodies have returned, with their outcomes, in the order in which they did. -/
def returns (past : List Event) : List (Nat × Option ControlError) := past.filterMap Event.return?

/-- The body of a run has returned; nothing has to return under zero. -/
def Over (past : List Event) (run : Nat) : Prop :=
  run = 0 ∨ ∃ outcome, (run, outcome) ∈ returns past

/-- A run is in progress: it has begun, and its body has not returned. -/
def Current (past : List Event) (run : Nat) : Prop := run ≤ runs past ∧ ¬ Over past run

theorem runs_concat : runs (past ++ [e]) = runs past + if e.isStart then 1 else 0 := by
  rw [runs, List.countP_append, List.countP_singleton, runs]

theorem waitsBegun_concat :
    waitsBegun (past ++ [e]) = waitsBegun past + if e.isWait then 1 else 0 := by
  rw [waitsBegun, List.countP_append, List.countP_singleton, waitsBegun]

theorem returns_concat : returns (past ++ [e]) = returns past ++ e.return?.toList := by
  rw [returns, List.filterMap_append, returns]
  cases h : e.return? <;> simp [h]

theorem runs_mono {earlier : List Event} (split : past = earlier ++ e :: later) :
    runs earlier ≤ runs past := by
  rw [split]
  exact (List.sublist_append_left _ _).countP_le

theorem Over.append (ended : Over past n) (more : List Event) : Over (past ++ more) n := by
  rcases ended with rfl | ⟨outcome, returned⟩
  · exact .inl rfl
  · refine .inr ⟨outcome, ?_⟩
    rw [returns, List.filterMap_append]
    exact List.mem_append_left _ returned

/-! ## Moves -/

/-- What a move finds and leaves. -/
inductive Step (s : SharedTask) : Event → SharedTask → Prop
  | start (idle : s.task.token = none) : Step s ⟨.start, .ok ()⟩
      { s with
        task := { s.task with runs := s.task.runs + 1, token := some false, err := none }
        atWork := s.atWork ++ [s.task.runs + 1] }
  | refuseStart {fired : Bool} (busy : s.task.token = some fired) :
      Step s ⟨.start, .error .taskAlreadyRunning⟩ s
  | cancel {fired : Bool} (busy : s.task.token = some fired) :
      Step s ⟨.cancel, .ok ()⟩ { s with task := { s.task with token := some true } }
  | refuseCancel (idle : s.task.token = none) : Step s ⟨.cancel, .error .taskNotRunning⟩ s
  | wait : Step s ⟨.wait, .ok ()⟩ { s with waits := s.waits ++ [⟨s.task.runs, false⟩] }
  | finish {run : Nat} (outcome : Option ControlError) (works : run ∈ s.atWork) :
      Step s ⟨.finish run outcome, .ok ()⟩
        { s with
          task := { s.task with token := none, err := outcome }
          atWork := s.atWork.erase run
          untold := s.untold ++ [run] }
  | release {run : Nat} (returned : run ∈ s.untold) : Step s ⟨.release run, .ok ()⟩
      { s with
        task := { s.task with released := run :: s.task.released }
        untold := s.untold.erase run }
  | resume {wait run : Nat} (waits : s.waits[wait]? = some ⟨run, false⟩)
      (released : s.task.isReleased run = true) : Step s ⟨.resume wait, .ok ()⟩
      { s with waits := s.waits.set wait ⟨run, true⟩ }

theorem step?_cases (stepped : s.step? move = some (t, answer)) : s.Step ⟨move, answer⟩ t := by
  cases move with
  | start =>
    cases token : s.task.token with
    | none =>
      simp only [step?, Task.start?, token] at stepped
      cases stepped
      exact .start token
    | some fired =>
      simp only [step?, Task.start?, token] at stepped
      cases stepped
      exact .refuseStart token
  | cancel =>
    cases token : s.task.token with
    | none =>
      simp only [step?, Task.cancel?, token] at stepped
      cases stepped
      exact .refuseCancel token
    | some fired =>
      simp only [step?, Task.cancel?, token] at stepped
      cases stepped
      exact .cancel token
  | wait =>
    cases stepped
    exact .wait
  | finish run outcome =>
    simp only [step?] at stepped
    split at stepped
    · next works =>
      cases stepped
      exact .finish outcome works
    · cases stepped
  | release run =>
    simp only [step?] at stepped
    split at stepped
    · next returned =>
      cases stepped
      exact .release returned
    · cases stepped
  | resume wait =>
    simp only [step?] at stepped
    split at stepped
    · next run waits =>
      split at stepped
      · next released =>
        cases stepped
        exact .resume waits released
      · cases stepped
    · cases stepped

/-! ## What every move keeps -/

/-- Somebody has cancelled the task while a run was in progress. -/
def Cancelled (past : List Event) (run : Nat) : Prop :=
  Once (fun earlier e => e.move = .cancel ∧ Current earlier run) past

/-- A wait began when so many runs had begun. -/
def BeganAt (past : List Event) (wait run : Nat) : Prop :=
  Once (fun earlier e => e.isWait = true ∧ waitsBegun earlier = wait ∧ runs earlier = run) past

/-- The runs begin and return in turns, and the task keeps the account of it. -/
structure Accounted (past : List Event) (s : SharedTask) : Prop where
  runs_eq : s.task.runs = runs past
  /-- The runs that have returned, and behind them the one at work, are all runs in their order. -/
  order : (returns past).map (·.1) ++ s.atWork = List.range' 1 (runs past)
  atWork : s.atWork = if s.task.inProgress then [s.task.runs] else []
  err : s.task.err = if s.task.inProgress then none else (returns past).getLast?.bind (·.2)
  fired : s.task.inProgress = true → (s.task.isCancelled = true ↔ Cancelled past s.task.runs)
  /-- Word of a run that has returned is given or will be. -/
  told : ∀ run, (run ∈ s.untold ∨ run ∈ s.task.released) ↔ ∃ outcome, (run, outcome) ∈ returns past
  waits : s.waits.length = waitsBegun past
  began : ∀ position w, s.waits[position]? = some w → BeganAt past position w.run
  ended : ∀ w ∈ s.waits, w.resumed = true → Over past w.run

namespace Accounted

theorem over_iff (accounted : Accounted past s) :
    Over past n ↔ n = 0 ∨ n ∈ s.untold ∨ n ∈ s.task.released :=
  or_congr_right (accounted.told n).symm

/-- A run is in progress exactly if its body is at work. -/
theorem current_iff (accounted : Accounted past s) : Current past n ↔ n ∈ s.atWork := by
  have order := accounted.order
  have distinct : ((returns past).map (·.1) ++ s.atWork).Nodup := order ▸ List.nodup_range'
  have all : n ∈ (returns past).map (·.1) ∨ n ∈ s.atWork ↔ 1 ≤ n ∧ n ≤ runs past := by
    rw [← List.mem_append, order, List.mem_range'_1]
    omega
  have ended : Over past n ↔ n = 0 ∨ n ∈ (returns past).map (·.1) := by
    rw [Over, List.mem_map]
    simp
  rw [Current, ended]
  constructor
  · rintro ⟨begun, going⟩
    exact (all.mpr ⟨by omega, begun⟩).resolve_left fun returned => going (.inr returned)
  · intro works
    have begun := all.mp (.inr works)
    refine ⟨begun.2, ?_⟩
    rintro (rfl | returned)
    · omega
    · exact (List.nodup_append.mp distinct).2.2 n returned n works rfl

theorem new : Accounted [] new where
  runs_eq := rfl
  order := rfl
  atWork := rfl
  err := rfl
  fired := nofun
  told _ := iff_of_false (not_or.mpr ⟨List.not_mem_nil, List.not_mem_nil⟩) (nomatch ·)
  waits := rfl
  began := nofun
  ended := nofun

theorem atWork_of_idle (accounted : Accounted past s) (idle : s.task.token = none) :
    s.atWork = [] := by
  rw [accounted.atWork, Task.inProgress, idle]
  rfl

theorem atWork_of_busy (accounted : Accounted past s) {fired : Bool}
    (busy : s.task.token = some fired) :
    s.atWork = [s.task.runs] := by
  rw [accounted.atWork, Task.inProgress, busy]
  rfl

/-- The one body at work is that of the last run. -/
theorem of_mem_atWork (accounted : Accounted past s) (works : n ∈ s.atWork) :
    s.task.inProgress = true ∧ n = s.task.runs ∧ s.atWork = [n] := by
  have atWork := accounted.atWork
  cases busy : s.task.inProgress with
  | false =>
    rw [busy] at atWork
    rw [atWork] at works
    cases works
  | true =>
    rw [busy, if_pos rfl] at atWork
    rw [atWork] at works
    obtain rfl := List.mem_singleton.mp works
    exact ⟨rfl, rfl, atWork⟩

theorem runs_step (accounted : Accounted past s) (step : s.Step e t) :
    t.task.runs = runs (past ++ [e]) := by
  rw [runs_concat, ← accounted.runs_eq]
  cases step <;> rfl

theorem order_step (accounted : Accounted past s) (step : s.Step e t) :
    (returns (past ++ [e])).map (·.1) ++ t.atWork = List.range' 1 (runs (past ++ [e])) := by
  have order := accounted.order
  rw [returns_concat, runs_concat]
  cases step with
  | start idle =>
    -- nobody is at work, so all runs so far have returned
    rw [accounted.atWork_of_idle idle, List.append_nil] at order
    simp only [Event.return?, Event.isStart, Option.toList_none, List.append_nil, order, if_true,
      accounted.atWork_of_idle idle, List.nil_append, accounted.runs_eq, List.range'_1_concat,
      Nat.add_comm 1]
  | finish outcome works =>
    obtain ⟨-, -, only⟩ := accounted.of_mem_atWork works
    rw [only] at order
    simpa [Event.return?, Event.isStart, only] using order
  | refuseStart | cancel | refuseCancel | wait | release | resume =>
    simpa [Event.return?, Event.isStart] using order

theorem atWork_step (accounted : Accounted past s) (step : s.Step e t) :
    t.atWork = if t.task.inProgress then [t.task.runs] else [] := by
  cases step with
  | start idle =>
    rw [accounted.atWork_of_idle idle]
    rfl
  | cancel busy => exact accounted.atWork_of_busy busy
  | finish outcome works =>
    obtain ⟨-, -, only⟩ := accounted.of_mem_atWork works
    simp only [only, List.erase_cons_head]
    rfl
  | refuseStart | refuseCancel | wait | release | resume => exact accounted.atWork

theorem err_step (accounted : Accounted past s) (step : s.Step e t) :
    t.task.err =
      if t.task.inProgress then none else (returns (past ++ [e])).getLast?.bind (·.2) := by
  have err := accounted.err
  rw [returns_concat]
  cases step with
  | start => rfl
  | cancel busy =>
    rw [Task.inProgress, busy] at err
    exact err
  | finish outcome => simp [Event.return?, Task.inProgress]
  | refuseStart | refuseCancel | wait | release | resume =>
    simp only [Event.return?, Option.toList_none, List.append_nil]
    exact err

theorem fired_step (accounted : Accounted past s) (step : s.Step e t)
    (busy : t.task.inProgress = true) :
    t.task.isCancelled = true ↔ Cancelled (past ++ [e]) t.task.runs := by
  rw [Cancelled, once_concat]
  cases step with
  | start idle =>
    refine iff_of_false Bool.false_ne_true ?_
    rintro (⟨earlier, e, later, split, -, begun, -⟩ | ⟨cancel, -⟩)
    · -- whoever has cancelled before has not cancelled a run that begins now
      have less := runs_mono split
      have runs_eq := accounted.runs_eq
      simp only at begun
      omega
    · cases cancel
  | @cancel fired running =>
    have works : s.task.runs ∈ s.atWork := by
      rw [accounted.atWork_of_busy running]
      exact List.mem_singleton_self _
    exact iff_of_true rfl (.inr ⟨rfl, accounted.current_iff.mpr works⟩)
  | refuseCancel idle =>
    rw [Task.inProgress, idle] at busy
    cases busy
  | finish => cases busy
  | refuseStart | wait | release | resume =>
    refine (accounted.fired busy).trans (or_iff_left ?_).symm
    rintro ⟨cancel, -⟩
    cases cancel

theorem told_step (accounted : Accounted past s) (step : s.Step e t) (run : Nat) :
    (run ∈ t.untold ∨ run ∈ t.task.released) ↔
      ∃ outcome, (run, outcome) ∈ returns (past ++ [e]) := by
  have told := accounted.told run
  simp only [returns_concat, List.mem_append, exists_or, ← told]
  cases step with
  | @finish own outcome =>
    simp only [Event.return?, List.mem_append, List.mem_singleton, Option.toList_some,
      Prod.mk.injEq, exists_and_left, exists_eq, and_true]
    exact or_right_comm
  | @release own returned =>
    simp only [Event.return?, Option.toList_none, List.not_mem_nil, exists_false, or_false,
      List.mem_cons]
    by_cases same : run = own
    · subst same
      exact iff_of_true (.inr (.inl rfl)) (.inl returned)
    · rw [List.mem_erase_of_ne same, or_iff_right same]
  | start | refuseStart | cancel | refuseCancel | wait | resume =>
    simp only [Event.return?, Option.toList_none, List.not_mem_nil, exists_false, or_false]

theorem waits_step (accounted : Accounted past s) (step : s.Step e t) :
    t.waits.length = waitsBegun (past ++ [e]) := by
  rw [waitsBegun_concat, ← accounted.waits]
  cases step with
  | wait => exact List.length_append
  | resume => exact List.length_set
  | start | refuseStart | cancel | refuseCancel | finish | release => rfl

theorem began_step (accounted : Accounted past s) (step : s.Step e t)
    (here : t.waits[position]? = some w) : BeganAt (past ++ [e]) position w.run := by
  rw [BeganAt, once_concat]
  cases step with
  | wait =>
    simp only [List.getElem?_append] at here
    split at here
    · exact .inl (accounted.began position w here)
    · next behind =>
      obtain ⟨last, rfl⟩ := List.getElem?_eq_some_iff.mp here
      simp only [List.length_singleton] at last
      refine .inr ⟨rfl, ?_, ?_⟩
      · have waits := accounted.waits
        omega
      · rw [List.getElem_singleton]
        exact accounted.runs_eq.symm
  | @resume wait run waits =>
    simp only [List.getElem?_set] at here
    split at here
    · next same =>
      subst same
      split at here
      · cases here
        exact .inl (accounted.began wait ⟨run, false⟩ waits)
      · cases here
    · exact .inl (accounted.began position w here)
  | start | refuseStart | cancel | refuseCancel | finish | release =>
    exact .inl (accounted.began position w here)

theorem ended_step (accounted : Accounted past s) (step : s.Step e t) (listed : w ∈ t.waits)
    (resumed : w.resumed = true) : Over (past ++ [e]) w.run := by
  have before (listed : w ∈ s.waits) : Over (past ++ [e]) w.run :=
    (accounted.ended w listed resumed).append [e]
  cases step with
  | wait =>
    rcases List.mem_append.mp listed with there | new
    · exact before there
    · rw [List.mem_singleton.mp new] at resumed
      cases resumed
  | @resume wait run waits released =>
    rcases List.mem_or_eq_of_mem_set listed with there | rfl
    · exact before there
    · have word : run = 0 ∨ run ∈ s.task.released := by simpa [Task.isReleased] using released
      exact (accounted.over_iff.mpr (word.imp_right .inr)).append _
  | start | refuseStart | cancel | refuseCancel | finish | release => exact before listed

theorem step (accounted : Accounted past s) (step : s.Step e t) : Accounted (past ++ [e]) t where
  runs_eq := accounted.runs_step step
  order := accounted.order_step step
  atWork := accounted.atWork_step step
  err := accounted.err_step step
  fired := accounted.fired_step step
  told := accounted.told_step step
  waits := accounted.waits_step step
  began _ _ here := accounted.began_step step here
  ended _ listed resumed := accounted.ended_step step listed resumed

end Accounted

theorem Run.accounted (run : Run past s) : Accounted past s := by
  induction run with
  | refl => exact .new
  | step _ stepped ih => exact ih.step (step?_cases stepped)

/-! ## What the holders are told -/

/-- A wait comes to its end when its run is over, without the help of anyone but those whose run it
is. -/
def ComesToEnd (s : SharedTask) (position run : Nat) : Prop :=
  ∃ later t, s.Leads later t ∧ t.waits[position]? = some ⟨run, true⟩ ∧
    ∀ e ∈ later, e.move = .release run ∨ e.move = .resume position

/-- What holds of a wait at a position. -/
structure Waits (past : List Event) (s : SharedTask) (position : Nat) (w : TaskWait) : Prop where
  /-- It is for the run that was in progress, or was the last one, when it began. -/
  began : BeganAt past position w.run
  resumed : w.resumed = true → Over past w.run
  early : w.resumed = false → ¬ Over past w.run → s.step? (.resume position) = none
  late : w.resumed = false → Over past w.run → s.ComesToEnd position w.run

/-- What those who hold a task are told, wherever it has come to. -/
structure Orderly (past : List Event) (s : SharedTask) : Prop where
  inProgress : s.task.inProgress = true ↔ ∃ run, Current past run
  /-- One body at most is at work, that of the current run. -/
  atWork : ∀ run, run ∈ s.atWork ↔ Current past run
  single : ∀ run run', Current past run → Current past run' → run = run'
  refused : (∃ run, Current past run) → s.step? .start = some (s, .error .taskAlreadyRunning)
  started : (¬ ∃ run, Current past run) → ∃ t, s.step? .start = some (t, .ok ())
  idle : (¬ ∃ run, Current past run) → s.step? .cancel = some (s, .error .taskNotRunning)
  cancelled : (∃ run, Current past run) → ∃ t, s.step? .cancel = some (t, .ok ())
  /-- The token of the current run has fired exactly if somebody has cancelled the task during that
  run. -/
  fired : ∀ run, Current past run → (s.task.isCancelled = true ↔ Cancelled past run)
  running : (∃ run, Current past run) → s.task.err = none
  /-- While idle the task keeps the outcome of the run that was the last to return. -/
  err : (¬ ∃ run, Current past run) → s.task.err = (returns past).getLast?.bind (·.2)
  waits : ∀ position w, s.waits[position]? = some w → Waits past s position w

theorem isReleased_iff : s.task.isReleased n = true ↔ n = 0 ∨ n ∈ s.task.released := by
  simp [Task.isReleased]

theorem step?_resume (here : s.waits[position]? = some ⟨n, false⟩)
    (word : s.task.isReleased n = true) :
    s.step? (.resume position) =
      some ({ s with waits := s.waits.set position ⟨n, true⟩ }, .ok ()) := by
  simp only [step?, here, word, if_true]

/-- Where word of a run is given, a wait for it ends by itself. -/
theorem comesToEnd_of_word (here : s.waits[position]? = some ⟨n, false⟩)
    (word : s.task.isReleased n = true) : s.ComesToEnd position n := by
  obtain ⟨inside, -⟩ := List.getElem?_eq_some_iff.mp here
  refine ⟨_, _, .step .refl (step?_resume here word), ?_, fun e listed => .inr ?_⟩
  · exact List.getElem?_set_self inside
  · rw [List.mem_singleton.mp listed]

/-- Where word of a run is still to be given, it can be, and then a wait for the run ends. -/
theorem comesToEnd_of_untold (here : s.waits[position]? = some ⟨n, false⟩) (untold : n ∈ s.untold) :
    s.ComesToEnd position n := by
  have told : s.step? (.release n) =
      some ({ s with task := s.task.release n, untold := s.untold.erase n }, .ok ()) := by
    simp only [step?, if_pos untold]
  obtain ⟨inside, -⟩ := List.getElem?_eq_some_iff.mp here
  refine ⟨_, _, .step (.step .refl told) (step?_resume here (isReleased_iff.mpr (.inr ?_))), ?_, ?_⟩
  · exact List.mem_cons_self
  · exact List.getElem?_set_self inside
  · intro e listed
    rcases List.mem_append.mp listed with first | last
    · exact .inl (by rw [List.mem_singleton.mp first])
    · exact .inr (by rw [List.mem_singleton.mp last])

namespace Accounted

theorem inProgress_iff (accounted : Accounted past s) :
    s.task.inProgress = true ↔ ∃ run, Current past run := by
  simp only [accounted.current_iff, accounted.atWork]
  cases s.task.inProgress with
  | true => exact iff_of_true rfl ⟨_, List.mem_singleton_self _⟩
  | false => exact iff_of_false nofun fun ⟨_, works⟩ => List.not_mem_nil works

theorem token_of_current (accounted : Accounted past s) (current : ∃ run, Current past run) :
    ∃ fired, s.task.token = some fired :=
  Option.isSome_iff_exists.mp (accounted.inProgress_iff.mpr current)

theorem token_of_idle (accounted : Accounted past s) (idle : ¬ ∃ run, Current past run) :
    s.task.token = none :=
  Option.not_isSome_iff_eq_none.mp (mt accounted.inProgress_iff.mp idle)

theorem of_current (accounted : Accounted past s) (current : Current past n) :
    s.task.inProgress = true ∧ n = s.task.runs :=
  let ⟨busy, last, _⟩ := accounted.of_mem_atWork (accounted.current_iff.mp current)
  ⟨busy, last⟩

theorem waitsFor (accounted : Accounted past s) (here : s.waits[position]? = some w) :
    Waits past s position w := by
  have began := accounted.began position w here
  have ended := accounted.ended w (List.mem_of_getElem? here)
  obtain ⟨run, resumed⟩ := w
  refine ⟨began, ended, ?_, ?_⟩
  · rintro rfl going
    have silent : s.task.isReleased run ≠ true := fun word =>
      going (accounted.over_iff.mpr ((isReleased_iff.mp word).imp_right .inr))
    simp only [step?, here, if_neg silent]
  · rintro rfl returned
    rcases accounted.over_iff.mp returned with none | untold | released
    · exact comesToEnd_of_word here (isReleased_iff.mpr (.inl none))
    · exact comesToEnd_of_untold here untold
    · exact comesToEnd_of_word here (isReleased_iff.mpr (.inr released))

end Accounted

/-- Whatever those who hold a task do, and whenever its bodies return: at most one run is in
progress, namely from the moment at which its start is accepted until its body returns. A start is
refused exactly then, and a cancellation exactly when there is none; it fires the token of the run
that is in progress and of no other one. The outcome of the last run is kept while the task is idle.
A wait is for the run that was in progress or was the last one when it began; it ends when the body
of that run has returned and not before, also when the task has been started again meanwhile. -/
theorem Run.handles_orderly (run : Run past s) : Orderly past s where
  inProgress := run.accounted.inProgress_iff
  atWork _ := run.accounted.current_iff.symm
  single _ _ current current' :=
    (run.accounted.of_current current).2.trans (run.accounted.of_current current').2.symm
  refused current := by
    obtain ⟨fired, token⟩ := run.accounted.token_of_current current
    simp only [step?, Task.start?, token]
  started idle := by
    simp only [step?, Task.start?, run.accounted.token_of_idle idle]
    exact ⟨_, rfl⟩
  idle none := by simp only [step?, Task.cancel?, run.accounted.token_of_idle none]
  cancelled current := by
    obtain ⟨fired, token⟩ := run.accounted.token_of_current current
    simp only [step?, Task.cancel?, token]
    exact ⟨_, rfl⟩
  fired n current := by
    obtain ⟨busy, rfl⟩ := run.accounted.of_current current
    exact run.accounted.fired busy
  running current := by
    rw [run.accounted.err, if_pos (run.accounted.inProgress_iff.mpr current)]
  err idle := by
    rw [run.accounted.err, if_neg (mt run.accounted.inProgress_iff.mp idle)]
  waits _ _ here := run.accounted.waitsFor here

end SharedTask

namespace Sample

open SharedTask

/-- A run that is cancelled and returns; before word of it is given, the next one begins. -/
def restarted : SharedTask where
  task := ⟨2, some false, none, []⟩
  atWork := [2]
  untold := [1]
  waits := [⟨1, false⟩, ⟨2, false⟩]

def restarting : List SharedTask.Event :=
  [⟨.start, .ok ()⟩, ⟨.wait, .ok ()⟩, ⟨.cancel, .ok ()⟩, ⟨.finish 1 (some .interrupted), .ok ()⟩,
    ⟨.start, .ok ()⟩, ⟨.wait, .ok ()⟩]

theorem restarting_run : Run restarting restarted :=
  .step (.step (.step (.step (.step (.step .refl rfl) rfl) rfl) rfl) rfl) rfl

/-- The cancellation does not reach the second run. Who has waited for the first run need not wait
for the second one, and who waits for the second one waits on. -/
theorem restarted_orderly : Run restarting restarted ∧ Current restarting 2 ∧
    restarted.task.isCancelled = false ∧ ¬ Cancelled restarting 2 ∧
    restarted.step? .start = some (restarted, .error .taskAlreadyRunning) ∧
    restarted.ComesToEnd 0 1 ∧ restarted.step? (.resume 1) = none := by
  have orderly := Run.handles_orderly restarting_run
  have current : Current restarting 2 := (orderly.atWork 2).mp (List.mem_singleton_self _)
  have going : ¬ Over restarting 2 := current.2
  have first := orderly.waits 0 ⟨1, false⟩ rfl
  have second := orderly.waits 1 ⟨2, false⟩ rfl
  have returned : Over restarting 1 := .inr ⟨some .interrupted, List.mem_singleton_self _⟩
  exact ⟨restarting_run, current, rfl, fun cancelled =>
    (nomatch (orderly.fired 2 current).mpr cancelled), orderly.refused ⟨2, current⟩,
    first.late rfl returned, second.early rfl going⟩

end Sample

end VmControl
