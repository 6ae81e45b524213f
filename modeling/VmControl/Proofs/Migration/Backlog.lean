import VmControl.Migration.Run
import VmControl.Proofs.Task.Backlog

/-!
# A migration over older events

Every search and every wait of a migration is for events since a moment after its start. So with
older events in the logs each of its parts takes the same turns, and differs only in how many
changes of the logs its waits have taken into account.

* `Leg.shift`, `MigrationRun.shift`, …: the same state over logs that have changed more often.
* `Leg.Since`, `MigrationRun.Since`, …: nothing is looked for that is older than the start.
* `Turn.Echoes`: two turns that differ only so. Each part has one lemma for its turns
  (`Leg.react?_over`, `Mirroring.react?_over`, `Phases.react?_over`), and `MigrationRun.step?_over`
  is about the whole.
-/

namespace VmControl

/-- A turn over older events next to the turn without them: they differ in what follows only by
`shift`, and what follows has a property. -/
structure Turn.Echoes {ω σ : Type} (shift : σ → σ) (young : σ → Prop)
    (full bare : Turn ω (Except ControlError σ)) : Prop where
  same : full = bare.map (Except.map shift)
  young : ∀ a, bare.next = .ok a → young a

namespace Reaction

variable {σ : Type} {shift : σ → σ} {young : σ → Prop} {a : σ}

theorem echoes_stay (since : young a) : Turn.Echoes shift young (stay (shift a)) (stay a) :=
  ⟨rfl, fun _ next => by cases next; exact since⟩

theorem echoes_ask {order : Order} (since : young a) :
    Turn.Echoes shift young (ask (shift a) order) (ask a order) :=
  ⟨rfl, fun _ next => by cases next; exact since⟩

theorem echoes_fail {e : ControlError} : Turn.Echoes shift young (fail e) (fail e) := ⟨rfl, nofun⟩

end Reaction

/-! ## One mirror -/

def LegStage.shift (more : Nat → Nat) : LegStage → LegStage
  | .awaitingStart a => .awaitingStart (a.shift more)
  | .awaitingEnd a => .awaitingEnd (a.shift more)
  | stage => stage

def LegStage.Since (start : Timestamp) : LegStage → Prop
  | .completing since => start ≤ since
  | .awaitingStart a | .awaitingEnd a => start ≤ a.waiter.wanted.since
  | _ => True

namespace Leg

/-- The same mirror over logs that have changed more often. -/
def shift (more : Nat → Nat) (l : Leg) : Leg := { l with stage := l.stage.shift more }

/-- A mirror looks for nothing that is older than a moment. -/
structure Since (start : Timestamp) (l : Leg) : Prop where
  startedAt : start ≤ l.startedAt
  stage : l.stage.Since start

variable {start : Timestamp} {more : Nat → Nat} {s : Surroundings} {logs : Nat → EventLog}
  {plan : MigrationPlan} {target : Endpoint} {cancelled : Bool} {l : Leg}

@[simp] theorem shift_isReady : (l.shift more).isReady = l.isReady := by
  obtain ⟨disk, startedAt, meter, stage⟩ := l
  cases stage <;> rfl

@[simp] theorem shift_isConcluded : (l.shift more).isConcluded = l.isConcluded := by
  obtain ⟨disk, startedAt, meter, stage⟩ := l
  cases stage <;> rfl

/-- The turn of a mirror that follows a wait. -/
def afterWait (l : Leg) (stage : Await → LegStage)
    (ended : Except ControlError Event → Reaction Leg) :
    AwaitResult → Reaction Leg
  | .waits a => .stay { l with stage := stage a }
  | .over outcome => ended outcome

section

variable (overlain : s.Overlain start more logs) (since : l.Since start)

include overlain since

theorem vanished_over : (l.shift more).vanished plan (s.over logs) = l.vanished plan s := by
  have found : (s.over logs).find plan.options.vmName (l.wants Event.blockJobError l.startedAt) =
      s.find plan.options.vmName (l.wants Event.blockJobError l.startedAt) :=
    Surroundings.find_over overlain since.startedAt
  rw [vanished, vanished, ← found]
  rfl

omit overlain

theorem list_echoes : Turn.Echoes (shift more) (Since start) (l.shift more).list l.list :=
  Reaction.echoes_ask (a := { l with stage := .listing }) ⟨since.startedAt, trivial⟩

theorem onRunning_echoes (outcome : Except ControlError Event) :
    Turn.Echoes (shift more) (Since start) ((l.shift more).onRunning outcome)
      (l.onRunning outcome) := by
  cases outcome with
  | ok e => exact list_echoes since
  | error e => exact Reaction.echoes_fail

theorem conclude_echoes :
    Turn.Echoes (shift more) (Since start) (l.shift more).conclude l.conclude :=
  ⟨rfl, fun _ next => by cases next; exact ⟨since.startedAt, trivial⟩⟩

theorem onEnded_echoes (outcome : Except ControlError Event) :
    Turn.Echoes (shift more) (Since start) ((l.shift more).onEnded outcome)
      (l.onEnded outcome) := by
  cases outcome with
  | error e => exact Reaction.echoes_fail
  | ok e =>
    simp only [onEnded]
    cases e.text? "error" with
    | some reason => exact Reaction.echoes_fail
    | none => exact conclude_echoes since

/-- A mirror goes on from a wait as it does without the older events. -/
theorem afterWait_echoes (stage : Await → LegStage) {result : AwaitResult}
    {full bare : Except ControlError Event → Reaction Leg}
    (shifts : ∀ a, (stage a).shift more = stage (a.shift more))
    (waits : result.Since start)
    (young : ∀ a, start ≤ a.waiter.wanted.since → (stage a).Since start)
    (ended : ∀ outcome, Turn.Echoes (shift more) (Since start) (full outcome) (bare outcome)) :
    Turn.Echoes (shift more) (Since start)
      ((l.shift more).afterWait stage full (result.shift more))
      (l.afterWait stage bare result) := by
  rcases result with a | outcome
  · have same : ({ l.shift more with stage := stage (a.shift more) } : Leg) =
        ({ l with stage := stage a } : Leg).shift more := by
      rw [← shifts a]
      rfl
    simp only [afterWait, AwaitResult.shift, same]
    exact Reaction.echoes_stay ⟨since.startedAt, young a (waits a rfl)⟩
  · exact ended outcome

include overlain

theorem onStarted_echoes (answer : Except ControlError Json) :
    Turn.Echoes (shift more) (Since start) ((l.shift more).onStarted plan (s.over logs) answer)
      (l.onStarted plan s answer) := by
  cases answer with
  | error e => exact Reaction.echoes_fail
  | ok v =>
    have begun : Await.begin (s.over logs) plan.options.vmName
        (.ofTexts Event.jobStatusChange [("id", l.job), ("status", "running")] l.startedAt)
        plan.config.jobStartTimeout = (Await.begin s plan.options.vmName _ _).shift more :=
      Await.begin_over overlain since.startedAt
    simp only [onStarted]
    rw [show (l.shift more).job = l.job from rfl,
      show (l.shift more).startedAt = l.startedAt from rfl, begun]
    exact afterWait_echoes since .awaitingStart (fun _ => rfl) (Await.begin_since since.startedAt)
      (fun _ young => young) (onRunning_echoes since)

theorem onListing_echoes (reply : Except ControlError Json) :
    Turn.Echoes (shift more) (Since start) ((l.shift more).onListing plan (s.over logs) reply)
      (l.onListing plan s reply) := by
  simp only [onListing]
  cases reply.bind (Reply.interpret Order.queryBlockJobs.command.name BlockJob.listing) with
  | error e => exact Reaction.echoes_fail
  | ok jobs =>
    dsimp only
    rw [show (l.shift more).job = l.job from rfl, vanished_over overlain since]
    cases BlockJob.find? jobs l.job with
    | none => exact Reaction.echoes_fail
    | some entry =>
      dsimp only
      cases entry.ready with
      | true => exact ⟨rfl, fun _ next => by cases next; exact ⟨since.startedAt, trivial⟩⟩
      | false => exact ⟨rfl, fun _ next => by cases next; exact ⟨since.startedAt, trivial⟩⟩

theorem onGone_echoes :
    Turn.Echoes (shift more) (Since start) ((l.shift more).onGone plan (s.over logs))
    (l.onGone plan s) := by
  have found (kind : String) : (s.over logs).find plan.options.vmName
      ((l.shift more).wants kind (l.shift more).startedAt) =
        s.find plan.options.vmName (l.wants kind l.startedAt) :=
    Surroundings.find_over overlain since.startedAt
  simp only [onGone, found, vanished_over overlain since]
  cases s.find plan.options.vmName (l.wants Event.blockJobError l.startedAt) with
  | error e => exact Reaction.echoes_fail
  | ok errors =>
    cases errors with
    | cons e rest => exact Reaction.echoes_fail
    | nil =>
      cases s.find plan.options.vmName (l.wants Event.blockJobCompleted l.startedAt) with
      | error e => exact Reaction.echoes_fail
      | ok ends =>
        simp only
        cases ends.findSome? (·.text? "error") with
        | some reason => exact Reaction.echoes_fail
        | none => exact conclude_echoes since

theorem onCompleted_echoes {moment : Timestamp} (young : start ≤ moment)
    (answer : Except ControlError Json) :
    Turn.Echoes (shift more) (Since start)
      ((l.shift more).onCompleted plan (s.over logs) moment answer)
      (l.onCompleted plan s moment answer) := by
  cases answer with
  | error e =>
    simp only [onCompleted]
    cases e.isJobNotFound with
    | true => exact onGone_echoes overlain since
    | false => exact Reaction.echoes_fail
  | ok v =>
    have begun : Await.begin (s.over logs) plan.options.vmName
        ((l.shift more).wants Event.blockJobCompleted moment) plan.config.jobFinishTimeout =
          (Await.begin s plan.options.vmName (l.wants Event.blockJobCompleted moment)
            _).shift more :=
      Await.begin_over overlain young
    simp only [onCompleted]
    rw [begun]
    exact afterWait_echoes since .awaitingEnd (fun _ => rfl) (Await.begin_since young)
      (fun _ young => young) (onEnded_echoes since)

theorem woken_echoes (stage : Await → LegStage) {a : Await} {why : Wake}
    {full bare : Except ControlError Event → Reaction Leg} (young : start ≤ a.waiter.wanted.since)
    (shifts : ∀ a, (stage a).shift more = stage (a.shift more))
    (waits : ∀ b, start ≤ b.waiter.wanted.since → (stage b).Since start)
    (ended : ∀ outcome, Turn.Echoes (shift more) (Since start) (full outcome) (bare outcome)) :
    Option.Rel (Turn.Echoes (shift more) (Since start))
      (((a.shift more).wake (s.over logs) cancelled why).map ((l.shift more).afterWait stage full))
      ((a.wake s cancelled why).map (l.afterWait stage bare)) := by
  refine rel_map (Await.wake_echoes overlain young) fun _ result same => ?_
  obtain ⟨rfl, still⟩ := same
  exact afterWait_echoes since stage shifts still waits ended

/-- A mirror takes the same turns over older events. -/
theorem react?_over (h : Happening) : Option.Rel (Turn.Echoes (shift more) (Since start))
    ((l.shift more).react? plan target (s.over logs) cancelled h)
    (l.react? plan target s cancelled h) := by
  obtain ⟨disk, startedAt, meter, stage⟩ := l
  cases stage with
  | toStart =>
    cases h with
    | enter => exact .some ⟨rfl, fun _ next => by cases next; exact ⟨overlain.young, trivial⟩⟩
    | _ => exact .none
  | starting =>
    cases h with
    | reply answer => exact .some (onStarted_echoes overlain since answer)
    | _ => exact .none
  | awaitingStart a =>
    cases h with
    | wake why =>
      exact woken_echoes overlain since .awaitingStart since.stage (fun _ => rfl)
        (fun _ young => young)
        (onRunning_echoes since)
    | _ => exact .none
  | listing =>
    cases h with
    | reply answer => exact .some (onListing_echoes overlain since answer)
    | _ => exact .none
  | pausing p =>
    cases h with
    | wake why =>
      simp only [react?, shift, LegStage.shift]
      rw [show p.wake (s.over logs) cancelled why = p.wake s cancelled why from rfl]
      cases p.wake s cancelled why with
      | none => exact .none
      | some rested =>
        cases rested with
        | ok _ => exact .some (list_echoes since)
        | error e => exact .some Reaction.echoes_fail
    | _ => exact .none
  | ready | concluded => exact .none
  | toComplete =>
    cases h with
    | enter =>
      exact .some ⟨rfl, fun _ next => by cases next; exact ⟨since.startedAt, overlain.young⟩⟩
    | _ => exact .none
  | completing moment =>
    cases h with
    | reply answer => exact .some (onCompleted_echoes overlain since since.stage answer)
    | _ => exact .none
  | awaitingEnd a =>
    cases h with
    | wake why =>
      exact woken_echoes overlain since .awaitingEnd since.stage (fun _ => rfl)
        (fun _ young => young)
        (onEnded_echoes since)
    | _ => exact .none

end

end Leg

/-! ## All mirrors -/

namespace Mirroring

/-- The same phase over logs that have changed more often. -/
def shift (more : Nat → Nat) : Mirroring → Mirroring
  | .syncing legs => .syncing (legs.map (·.shift more))
  | .listing legs => .listing (legs.map (·.shift more))
  | .resting legs p => .resting (legs.map (·.shift more)) p
  | .completing legs => .completing (legs.map (·.shift more))
  | .ended outcome => .ended outcome

/-- No mirror looks for anything that is older than a moment. -/
def Since (start : Timestamp) (m : Mirroring) : Prop := ∀ leg ∈ m.legs, leg.Since start

variable {start : Timestamp} {more : Nat → Nat} {s : Surroundings} {logs : Nat → EventLog}
  {plan : MigrationPlan} {target : Endpoint} {cancelled : Bool} {legs : List Leg} {position : Nat}
  {m : Mirroring}

@[simp] theorem shift_isSynced : (m.shift more).isSynced = m.isSynced := by cases m <;> rfl

@[simp] theorem shift_outcome? : (m.shift more).outcome? = m.outcome? := by cases m <;> rfl

theorem since_new {stamp : Timestamp} {disks : List Disk} (young : start ≤ stamp) :
    (new stamp disks).Since start := by
  intro leg listed
  obtain ⟨disk, -, rfl⟩ := List.mem_map.mp listed
  exact ⟨young, trivial⟩

theorem shift_new {stamp : Timestamp} {disks : List Disk} :
    (new stamp disks).shift more = new stamp disks := by
  simp only [new, shift, List.map_map]
  rfl

section

variable (since : ∀ leg ∈ legs, leg.Since start)

include since

theorem since_set {leg : Leg} (young : leg.Since start) :
    ∀ k ∈ legs.set position leg, k.Since start := by
  intro k listed
  rcases List.mem_or_eq_of_mem_set listed with before | rfl
  · exact since k before
  · exact young

theorem advance_echoes {full bare : Reaction Leg}
    (echoes : Turn.Echoes (Leg.shift more) (Leg.Since start) full bare) :
    Turn.Echoes (shift more) (Since start) (advance (legs.map (·.shift more)) position full)
      (advance legs position bare) := by
  obtain ⟨rfl, young⟩ := echoes
  obtain ⟨next, order, reports⟩ := bare
  cases next with
  | error e => exact ⟨rfl, nofun⟩
  | ok leg =>
    have kept : ∀ k ∈ legs.set position leg, k.Since start := since_set since (young leg rfl)
    have moved : (legs.map (·.shift more)).set position (leg.shift more) =
        (legs.set position leg).map (·.shift more) := List.map_set.symm
    have ready : ((legs.set position leg).map (·.shift more)).all (·.isReady) =
        (legs.set position leg).all (·.isReady) := by
      rw [List.all_map]
      exact congrArg _ (funext fun k => Leg.shift_isReady)
    simp only [advance, Turn.map, Except.map, moved, ready]
    cases (legs.set position leg).all (·.isReady) with
    | true => exact ⟨rfl, fun _ next => by cases next; exact kept⟩
    | false => exact ⟨rfl, fun _ next => by cases next; exact kept⟩

theorem settle_echoes {full bare : Reaction Leg}
    (echoes : Turn.Echoes (Leg.shift more) (Leg.Since start) full bare) :
    Turn.Echoes (shift more) (Since start) (settle (legs.map (·.shift more)) position full)
      (settle legs position bare) := by
  obtain ⟨rfl, young⟩ := echoes
  obtain ⟨next, order, reports⟩ := bare
  cases next with
  | error e => exact ⟨rfl, nofun⟩
  | ok leg =>
    have kept : ∀ k ∈ legs.set position leg, k.Since start := since_set since (young leg rfl)
    have moved : (legs.map (·.shift more)).set position (leg.shift more) =
        (legs.set position leg).map (·.shift more) := List.map_set.symm
    have concluded : ((legs.set position leg).map (·.shift more)).all (·.isConcluded) =
        (legs.set position leg).all (·.isConcluded) := by
      rw [List.all_map]
      exact congrArg _ (funext fun k => Leg.shift_isConcluded)
    simp only [settle, Turn.map, Turn.mapOrder, Except.map, moved, concluded]
    cases (legs.set position leg).all (·.isConcluded) with
    | true => exact ⟨rfl, fun _ next => by cases next; exact List.forall_mem_nil _⟩
    | false => exact ⟨rfl, fun _ next => by cases next; exact kept⟩

omit since

theorem measureAll_over (overlain : s.Overlain start more logs) (jobs : List BlockJob)
    (since : ∀ leg ∈ legs, leg.Since start) :
    measureAll plan (s.over logs) jobs (legs.map (·.shift more)) =
        ((measureAll plan s jobs legs).1.map (List.map (·.shift more)),
          (measureAll plan s jobs legs).2) ∧
      ∀ measured, (measureAll plan s jobs legs).1 = .ok measured →
        ∀ leg ∈ measured, leg.Since start := by
  induction legs with
  | nil => exact ⟨rfl, fun _ next => by cases next; exact List.forall_mem_nil _⟩
  | cons leg rest ih =>
    obtain ⟨own, others⟩ := List.forall_mem_cons.mp since
    obtain ⟨same, young⟩ := ih others
    simp only [List.map_cons, measureAll]
    rw [show (leg.shift more).job = leg.job from rfl, Leg.vanished_over overlain own, same]
    cases BlockJob.find? jobs leg.job with
    | none => exact ⟨rfl, nofun⟩
    | some entry =>
      dsimp only
      generalize measureAll plan s jobs rest = result at young
      obtain ⟨measured, reports⟩ := result
      cases measured with
      | error e => exact ⟨rfl, nofun⟩
      | ok measured =>
        refine ⟨rfl, fun _ next => ?_⟩
        cases next
        exact List.forall_mem_cons.mpr ⟨⟨own.startedAt, own.stage⟩, young _ rfl⟩

include since

theorem onListing_echoes (overlain : s.Overlain start more logs)
    (reply : Except ControlError Json) :
    Turn.Echoes (shift more) (Since start)
      (onListing plan (s.over logs) (legs.map (·.shift more)) reply)
      (onListing plan s legs reply) := by
  simp only [onListing]
  cases reply.bind (Reply.interpret Order.queryBlockJobs.command.name BlockJob.listing) with
  | error e => exact ⟨rfl, nofun⟩
  | ok jobs =>
    dsimp only
    obtain ⟨same, young⟩ := measureAll_over overlain jobs since
    rw [same]
    generalize measureAll plan s jobs legs = result at young
    obtain ⟨measured, reports⟩ := result
    cases measured with
    | error e => exact ⟨rfl, nofun⟩
    | ok measured => exact ⟨rfl, fun _ next => by cases next; exact young _ rfl⟩

theorem onMigrated_echoes (outcome : Except ControlError Unit) :
    Turn.Echoes (shift more) (Since start) (onMigrated (legs.map (·.shift more)) outcome)
      (onMigrated legs outcome) := by
  cases outcome with
  | error e => exact ⟨rfl, nofun⟩
  | ok _ =>
    refine ⟨?_, fun _ next => ?_⟩
    · simp only [onMigrated, Turn.map, Except.map, shift, List.map_map]
      rfl
    · cases next
      intro leg listed
      obtain ⟨old, before, rfl⟩ := List.mem_map.mp listed
      exact ⟨(since old before).startedAt, trivial⟩

end

/-- The mirrors take the same turns over older events. -/
theorem react?_over (overlain : s.Overlain start more logs) (since : m.Since start)
    (migrated : Gate) (part : Part) (h : Happening) :
    Option.Rel (Turn.Echoes (shift more) (Since start))
      ((m.shift more).react? plan target (s.over logs) cancelled migrated part h)
      (m.react? plan target s cancelled migrated part h) := by
  have leg? (legs : List Leg) (position : Nat) :
      (legs.map (·.shift more))[position]? = (legs[position]?).map (·.shift more) :=
        List.getElem?_map
  cases m with
  | syncing legs =>
    cases part with
    | leg position =>
      simp only [react?, shift, leg?]
      cases here : legs[position]? with
      | none => exact .none
      | some leg =>
        have own := since leg (List.mem_of_getElem? here)
        exact rel_map (leg.react?_over overlain own h) fun _ _ => advance_echoes since
    | course | watch | transfer => exact .none
  | listing legs =>
    cases part with
    | watch =>
      cases h with
      | reply answer => exact .some (onListing_echoes since overlain answer)
      | _ => exact .none
    | course | leg | transfer => exact .none
  | resting legs p =>
    cases part with
    | watch =>
      cases h with
      | enter =>
        simp only [react?, shift]
        cases migrated.look cancelled with
        | none => exact .none
        | some outcome => exact .some (onMigrated_echoes since outcome)
      | wake why =>
        cases why with
        | elapse =>
          have due : p.isDue (s.over logs) = p.isDue s := rfl
          simp only [react?, shift, due]
          split
          · exact .some ⟨rfl, fun _ next => by cases next; exact since⟩
          · exact .none
        | notice | interrupt => exact .none
      | _ => exact .none
    | course | leg | transfer => exact .none
  | completing legs =>
    cases part with
    | leg position =>
      simp only [react?, shift, leg?]
      cases here : legs[position]? with
      | none => exact .none
      | some leg =>
        have own := since leg (List.mem_of_getElem? here)
        exact rel_map (leg.react?_over overlain own h) fun _ _ => settle_echoes since
    | course | watch | transfer => exact .none
  | ended outcome => exact .none

end Mirroring

/-! ## Both phases -/

theorem Bound.resolve?_over {b : Bound} {s : Surroundings} {logs : Nat → EventLog}
    {interrupted : Bool} {h : Happening} :
    b.resolve? (s.over logs) interrupted h = b.resolve? s interrupted h := by
  cases h with
  | wake why => cases why <;> rfl
  | _ => rfl

theorem Transfer.react?_over {plan : MigrationPlan} {target : Endpoint} {s : Surroundings}
    {logs : Nat → EventLog} {cancelled : Bool} {ready : Gate} {t : Transfer} {h : Happening} :
    t.react? plan target (s.over logs) cancelled ready h =
      t.react? plan target s cancelled ready h := by
  cases t <;> cases h <;> rfl

namespace Phases

/-- The same phases over logs that have changed more often. -/
def shift (more : Nat → Nat) (p : Phases) : Phases := { p with mirroring := p.mirroring.shift more }

/-- No mirror looks for anything that is older than a moment. -/
def Since (start : Timestamp) (p : Phases) : Prop := p.mirroring.Since start

/-- A turn of the phases over older events next to the turn without them. -/
def Echoes (start : Timestamp) (more : Nat → Nat) (full bare : PhaseTurn) : Prop :=
  full = bare.map (shift more) ∧ bare.next.Since start

variable {start : Timestamp} {more : Nat → Nat} {s : Surroundings} {logs : Nat → EventLog}
  {plan : MigrationPlan} {cancelled : Bool} {p : Phases}

@[simp] theorem shift_outcome? : (p.shift more).outcome? = p.outcome? := by
  rw [outcome?, outcome?, shift, Mirroring.shift_outcome?]

theorem shift_withDisks {stamp : Timestamp} {incoming offered : Endpoint} {disks : List Disk} :
    (withDisks stamp incoming offered disks).shift more =
      withDisks stamp incoming offered disks := by
  simp only [withDisks, shift, Mirroring.shift_new]

theorem afterMirror_echoes {full bare : Mirroring.MirrorTurn}
    (echoes : Turn.Echoes (Mirroring.shift more) (Mirroring.Since start) full bare) :
    Echoes start more (full.map (p.shift more).afterMirror) (bare.map p.afterMirror) := by
  obtain ⟨rfl, young⟩ := echoes
  obtain ⟨next, order, reports⟩ := bare
  cases next with
  | error e => exact ⟨rfl, List.forall_mem_nil _⟩
  | ok m =>
    refine ⟨?_, young m rfl⟩
    simp only [Turn.map, Except.map, afterMirror, shift, Mirroring.shift_isSynced]

theorem afterTransfer_echoes (since : p.Since start)
    (t : Turn (Part × Order) (Except ControlError Transfer)) :
    Echoes start more (t.map (p.shift more).afterTransfer) (t.map p.afterTransfer) := by
  obtain ⟨next, order, reports⟩ := t
  cases next <;> exact ⟨rfl, since⟩

/-- Every part but the transfer acts within the mirrors. -/
theorem react?_of_ne_transfer {part : Part} {h : Happening} (other : part ≠ .transfer) :
    p.react? plan s cancelled part h = p.offered.bind fun target =>
      (p.mirroring.react? plan target s (p.isStopped cancelled) p.migrated part h).map
        (·.map p.afterMirror) := by
  cases part with
  | transfer => exact absurd rfl other
  | course | leg | watch =>
    simp only [react?]
    cases p.offered <;> rfl

/-- The phases take the same turns over older events. -/
theorem react?_over (overlain : s.Overlain start more logs) (since : p.Since start) (part : Part)
    (h : Happening) : Option.Rel (Echoes start more)
      ((p.shift more).react? plan (s.over logs) cancelled part h)
      (p.react? plan s cancelled part h) := by
  have stopped : (p.shift more).isStopped cancelled = p.isStopped cancelled := rfl
  by_cases transferring : part = .transfer
  · subst transferring
    simp only [react?, stopped]
    rw [show (p.shift more).transfer = p.transfer from rfl,
      show (p.shift more).incoming = p.incoming from rfl,
      show (p.shift more).disksReady = p.disksReady from rfl, Transfer.react?_over]
    cases p.transfer.react? plan p.incoming s (p.isStopped cancelled) p.disksReady h with
    | none => exact .none
    | some t => exact .some (afterTransfer_echoes since _)
  · rw [react?_of_ne_transfer transferring, react?_of_ne_transfer transferring, stopped,
      show (p.shift more).offered = p.offered from rfl]
    cases p.offered with
    | none => exact .none
    | some target =>
      exact rel_map (Mirroring.react?_over overlain since p.migrated part h) fun _ _ =>
        afterMirror_echoes

end Phases

/-! ## The whole run -/

def RunStage.shift (more : Nat → Nat) : RunStage → RunStage
  | .transferring p => .transferring (p.shift more)
  | stage => stage

def RunStage.Since (start : Timestamp) : RunStage → Prop
  | .transferring p => p.Since start
  | _ => True

namespace MigrationRun

/-- The same run over logs that have changed more often. -/
def shift (more : Nat → Nat) (r : MigrationRun) : MigrationRun :=
  { r with stage := r.stage.shift more }

/-- A run looks for nothing that is older than a moment. -/
def Since (start : Timestamp) (r : MigrationRun) : Prop := r.stage.Since start

/-- A step over older events next to the step without them. -/
def Echoes (start : Timestamp) (more : Nat → Nat) (full bare : RunStep) : Prop :=
  full = (bare.1.shift more, bare.2) ∧ bare.1.Since start

variable {start : Timestamp} {more : Nat → Nat} {s : Surroundings} {logs : Nat → EventLog}
  {cancelled : Bool} {r : MigrationRun} {cause : RollbackCause}

theorem shift_outcome? : (r.shift more).outcome? = r.outcome? := by
  obtain ⟨plan, stage, account⟩ := r
  cases stage <;> rfl

theorem cancelNext_echoes (left : List String) :
    Echoes start more ((r.shift more).cancelNext cause left) (r.cancelNext cause left) := by
  cases left <;> exact ⟨rfl, trivial⟩

theorem rollBack_echoes (r : MigrationRun) {e : ControlError} :
    Echoes start more ((r.shift more).rollBack cancelled e) (r.rollBack cancelled e) :=
  cancelNext_echoes _

theorem onPhases_echoes {full bare : PhaseTurn} (echoes : Phases.Echoes start more full bare) :
    Echoes start more ((r.shift more).onPhases (s.over logs) cancelled full)
      (r.onPhases s cancelled bare) := by
  obtain ⟨rfl, since⟩ := echoes
  simp only [onPhases, Turn.map_next, Phases.shift_outcome?]
  cases bare.next.outcome? with
  | none => exact ⟨rfl, since⟩
  | some outcome =>
    cases outcome with
    | error e => exact rollBack_echoes (r.report bare.reports)
    | ok _ =>
      simp only [finishPhases]
      rw [show (bare.next.shift more).offered = bare.next.offered from rfl]
      cases bare.next.offered.isSome <;> exact ⟨rfl, trivial⟩

theorem begin_echoes : Echoes start more ((r.shift more).begin (s.over logs) cancelled)
    (r.begin s cancelled) := by
  simp only [begin]
  rw [show ((r.shift more).report [.status .inMigrate]).plan = r.plan from rfl,
    show (r.report [.status .inMigrate]).plan = r.plan from rfl]
  cases r.plan.options.primaryAddr with
  | error e => exact rollBack_echoes (r.report [.status .inMigrate])
  | ok address =>
    cases cancelled with
    | true => exact rollBack_echoes (r.report [.status .inMigrate])
    | false => exact ⟨rfl, trivial⟩

theorem onProvisioned_echoes {address : IpAddress} (answer : Except ControlError PeerReply) :
    Echoes start more ((r.shift more).onProvisioned (s.over logs) cancelled address answer)
      (r.onProvisioned s cancelled address answer) := by
  cases answer with
  | error e => exact rollBack_echoes r
  | ok answer =>
    simp only [onProvisioned]
    rw [show (r.shift more).plan = r.plan from rfl]
    cases r.plan.options.disks.isEmpty with
    | true => exact ⟨rfl, List.forall_mem_nil _⟩
    | false => exact ⟨rfl, trivial⟩

theorem onOffered_echoes (overlain : s.Overlain start more logs) {incoming : Endpoint}
    (answer : Except ControlError PeerReply) :
    Echoes start more ((r.shift more).onOffered (s.over logs) cancelled incoming answer)
      (r.onOffered s cancelled incoming answer) := by
  cases answer with
  | error e => exact rollBack_echoes r
  | ok answer =>
    refine ⟨?_, Mirroring.since_new overlain.young⟩
    simp only [onOffered, goTo, shift, RunStage.shift, Phases.shift_withDisks,
      Surroundings.over_stamp]

theorem resolved_echoes {b : Bound} {interrupted : Bool} {h : Happening}
    {full bare : Except ControlError PeerReply → RunStep}
    (answered : ∀ answer, Echoes start more (full answer) (bare answer)) :
    Option.Rel (Echoes start more) ((b.resolve? (s.over logs) interrupted h).map full)
      ((b.resolve? s interrupted h).map bare) := by
  rw [Bound.resolve?_over]
  cases b.resolve? s interrupted h with
  | none => exact .none
  | some answer => exact .some (answered answer)

/-- A run takes the same turns over older events. -/
theorem act?_over (overlain : s.Overlain start more logs) (since : r.Since start) (part : Part)
    (h : Happening) : Option.Rel (Echoes start more)
      ((r.shift more).act? (s.over logs) cancelled part h) (r.act? s cancelled part h) := by
  obtain ⟨plan, stage, account⟩ := r
  cases stage with
  | transferring p => exact rel_map (Phases.react?_over overlain since part h) fun _ _ =>
    onPhases_echoes
  | fresh =>
    cases part with
    | course =>
      cases h with
      | enter => exact .some begin_echoes
      | _ => exact .none
    | leg | watch | transfer => exact .none
  | provisioning address b =>
    cases part with
    | course => exact resolved_echoes onProvisioned_echoes
    | leg | watch | transfer => exact .none
  | offering incoming b =>
    cases part with
    | course => exact resolved_echoes (onOffered_echoes overlain)
    | leg | watch | transfer => exact .none
  | withdrawing b =>
    cases part with
    | course => exact resolved_echoes fun _ => ⟨rfl, trivial⟩
    | leg | watch | transfer => exact .none
  | resuming b =>
    cases part with
    | course => exact resolved_echoes fun _ => by cases cancelled <;> exact ⟨rfl, trivial⟩
    | leg | watch | transfer => exact .none
  | removing b cause =>
    cases part with
    | course => exact resolved_echoes fun _ => ⟨rfl, trivial⟩
    | leg | watch | transfer => exact .none
  | quitting | cancellingTransfer cause =>
    cases part with
    | course =>
      cases h with
      | reply => exact .some ⟨rfl, trivial⟩
      | _ => exact .none
    | leg | watch | transfer => exact .none
  | cancellingJobs left cause =>
    cases part with
    | course =>
      cases h with
      | reply => exact .some (cancelNext_echoes left)
      | _ => exact .none
    | leg | watch | transfer => exact .none
  | closing e => exact .none

/-- A run takes the same steps over older events. -/
theorem step?_over (overlain : s.Overlain start more logs) (since : r.Since start) (x : Stimulus) :
    Option.Rel (Echoes start more) ((r.shift more).step? (s.over logs) cancelled x)
      (r.step? s cancelled x) := by
  cases x with
  | act part h => exact act?_over overlain since part h
  | fold =>
    simp only [step?, Surroundings.over_stamp]
    rw [show (r.shift more).account = r.account from rfl]
    cases r.account.fold? s.stamp with
    | none => exact .none
    | some account => exact .some ⟨rfl, since⟩
  | persist | kept =>
    obtain ⟨plan, stage, account⟩ := r
    cases stage with
    | closing e =>
      exact rel_map rel_eq fun _ next same => by cases same; exact ⟨rfl, trivial⟩
    | fresh | provisioning | offering | transferring | withdrawing | resuming | quitting
    | cancellingJobs | cancellingTransfer | removing => exact .none

end MigrationRun

end VmControl
