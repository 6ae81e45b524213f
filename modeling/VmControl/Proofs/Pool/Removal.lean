import VmControl.Proofs.Migration.Rollback
import VmControl.Proofs.Pool.Courses
import VmControl.Proofs.Pool.Overlap

/-!
# What a migration asks the receiving host to remove

A migration is rolled back whenever it fails, and the last step of the rollback asks the receiving
host to remove the machine. The first thing that a migration sends decides what is removed there: it
is the request to start the machine, unless the migration was cancelled before its first step. Then
it is a step of the rollback already (`Course.entered`), and all that is ever sent is the rollback.

* `History.RemovesRequested`: nothing is removed whose start was not requested before.
* `Host.Run.removes_requested`: this is so unless the task was cancelled at once.
* `Sample.removes_unrequested`: a task that was cancelled at once removes what it has not started.
-/

namespace VmControl

open History

/-- The receiving host is asked to remove a machine only after this run has asked for its start. -/
def History.RemovesRequested (past : History) : Prop :=
  Throughout (fun earlier m => ∀ vm, .request (.removeConfig vm) ∈ m.effects →
    ∃ manifest, .request (.startIncoming manifest) ∈ wire earlier) past

/-- At its first step the run was cancelled already. -/
def History.CancelledAtOnce (past : History) : Prop := ∃ m, past.head? = some m ∧ m.cancelled = true

/-- Accepted options have an address. -/
theorem MigrationOptions.primaryAddr_of_validate {o : MigrationOptions}
    (valid : o.validate = .ok ()) :
    ∃ address, o.primaryAddr = .ok address := by
  rw [primaryAddr]
  cases addresses : o.dstAddrs with
  | cons address => exact ⟨address, rfl⟩
  | nil =>
    rw [validate] at valid
    split at valid
    · cases valid
    · rw [if_pos addresses] at valid
      cases valid

namespace MigrationRun

variable {r r' : MigrationRun} {s : Surroundings} {cancelled : Bool} {effects : List Effect}
  {x : Stimulus} {address : IpAddress}

/-- The first thing that a run sends is the request to start the machine, unless it was
cancelled. -/
theorem begin_sends (s : Surroundings) (cancelled : Bool)
    (addressed : r.plan.options.primaryAddr = .ok address) :
    cancelled = false ∧ (r.begin s cancelled).2 = [.request (.startIncoming r.manifest)] ∨
      cancelled = true ∧ ∃ e more, (r.begin s cancelled).2 = e :: more ∧ e.isWire = true ∧
        e.isUndo = true := by
  cases cancelled with
  | false =>
    have same : (r.report [.status .inMigrate]).plan = r.plan := rfl
    refine Or.inl ⟨rfl, ?_⟩
    simp only [begin, same, addressed]
    rfl
  | true =>
    refine Or.inr ⟨rfl, ?_⟩
    rw [begin_cancelled r s addressed, rollBack]
    cases (r.report [.status .inMigrate]).jobs <;> exact ⟨_, _, rfl, rfl, rfl⟩

/-- All that a run can do before its first step is to take it. -/
theorem step?_fresh (stage : r.stage = .fresh) (none : r.account.left = [])
    (h : r.step? s cancelled x = some (r', effects)) : (r', effects) = r.begin s cancelled := by
  cases x with
  | act part happening =>
    cases part with
    | course =>
      cases happening with
      | enter =>
        have begun : some (r.begin s cancelled) = some (r', effects) := by
          simpa only [step?, act?, stage] using h
        exact (Option.some.inj begun).symm
      | _ => simp [step?, act?, stage] at h
    | leg | watch | transfer => simp [step?, act?, stage] at h
  | fold => simp [step?, Account.fold?, none] at h
  | persist | kept => simp [step?, stage] at h

end MigrationRun

variable {plan : MigrationPlan} {past : History}

/-- What a run has sent at its first step, if it has taken it. -/
inductive Entered (r : MigrationRun) : History → Prop
  | fresh (stage : r.stage = .fresh) (none : r.account.left = []) : Entered r []
  | requested {first : Moment} {rest : History} (uncancelled : first.cancelled = false)
      (sent : first.effects = [.request (.startIncoming r.manifest)]) : Entered r (first :: rest)
  | undone {first : Moment} {rest : History} {e : Effect} (cancelled : first.cancelled = true)
      (sent : first.wire.head? = some e) (undo : e.isUndo = true) : Entered r (first :: rest)

theorem Course.entered {cancelled : Bool} {r : MigrationRun} {address : IpAddress}
    (course : Course plan past cancelled r) (addressed : plan.options.primaryAddr = .ok address) :
    Entered r past := by
  induction course with
  | new stamp => exact .fresh rfl rfl
  | cancel _ ih => exact ih
  | @step past cancelled r r' s x effects course step ih =>
    have planned := MigrationRun.plan_of_step? step
    have same : r'.manifest = r.manifest := by
      rw [MigrationRun.manifest, planned, MigrationRun.manifest]
    cases ih with
    | fresh stage none =>
      have begun := MigrationRun.step?_fresh stage none step
      rw [← course.traced.1] at addressed
      rcases MigrationRun.begin_sends s cancelled addressed with
        ⟨rfl, sent⟩ | ⟨rfl, e, more, sent, wired, undo⟩
      · rw [← begun] at sent
        exact .requested rfl (by rw [same]; exact sent)
      · rw [← begun] at sent
        refine .undone rfl ?_ undo
        obtain rfl : effects = e :: more := sent
        rw [Moment.wire, List.filter_cons_of_pos wired]
        rfl
    | requested uncancelled sent => exact .requested uncancelled (by rw [same]; exact sent)
    | undone cancelled sent undo => exact .undone cancelled sent undo

/-- Where the work is empty, only the rollback was sent. -/
theorem undone_of_first {work more : List Effect} {e : Effect}
    (all : ∀ e ∈ work, e.isWork = true) (first : (work ++ more).head? = some e)
    (undo : e.isUndo = true) (undoing : ∀ e ∈ more, e.isUndo = true) :
    ∀ e ∈ work ++ more, e.isUndo = true := by
  cases work with
  | nil => exact undoing
  | cons other rest =>
    cases first
    rw [Effect.isUndo_of_isWork (all e List.mem_cons_self)] at undo
    cases undo

/-- If the first thing that was sent is a step of the rollback, then so is everything. -/
theorem RunStage.Traced.undone_of_first {r : MigrationRun} {e : Effect}
    (traced : r.stage.Traced r.plan past) (first : (wire past).head? = some e)
    (undo : e.isUndo = true) : ∀ e ∈ wire past, e.isUndo = true := by
  have steps : ∀ e ∈ r.plan.rollback, e.isUndo = true :=
    fun _ => MigrationPlan.isUndo_of_mem_rollback
  cases undoing : r.rollbackLeft? with
  | some left =>
    have rolling : RollingBack r.plan past left ∧ r.GoesOn false past left :=
      MigrationRun.goesOn traced undoing
    obtain ⟨work, before, last, sent, all, parts, -⟩ := rolling.1
    rw [sent] at first ⊢
    refine VmControl.undone_of_first all first undo fun e there => steps e ?_
    rw [← parts, List.append_cons]
    exact List.mem_append_left _ there
  | none =>
    by_cases failed : ∃ e, r.verdict? = some (.error e)
    · obtain ⟨_, failed⟩ := failed
      obtain ⟨work, sent, all, -⟩ := traced.rolledBack failed
      rw [sent] at first ⊢
      exact VmControl.undone_of_first all first undo steps
    · have none := traced.undone undoing (not_exists.mp failed) e (List.mem_of_head? first)
      rw [none] at undo
      cases undo

/-- A run that was not cancelled at once asks for the start of the machine before anything else, and
one that was cancelled at once sends nothing but its rollback. -/
theorem Course.removes {cancelled : Bool} {r : MigrationRun} {address : IpAddress}
    (course : Course plan past cancelled r) (addressed : plan.options.primaryAddr = .ok address) :
    (¬ CancelledAtOnce past → RemovesRequested past) ∧
      (CancelledAtOnce past → ∀ e ∈ wire past, e.isUndo = true) := by
  obtain ⟨rfl, traced⟩ := course.traced
  cases course.entered addressed with
  | fresh => exact ⟨fun _ => throughout_nil, fun ⟨_, empty, _⟩ => nomatch empty⟩
  | @requested first rest uncancelled sent =>
    refine ⟨fun _ earlier m later split vm removes => ?_, ?_⟩
    · cases earlier with
      | nil =>
        -- the request that is sent at the first step is another one
        cases split
        rw [sent] at removes
        cases List.mem_singleton.mp removes
      | cons other before =>
        cases split
        refine ⟨r.manifest, mem_wire.mpr ⟨first, List.mem_cons_self, ?_⟩⟩
        rw [Moment.wire, sent]
        exact List.mem_cons_self
    · rintro ⟨m, head, cancelled⟩
      obtain rfl : first = m := Option.some.inj head
      rw [uncancelled] at cancelled
      cases cancelled
  | @undone first rest e cancelled sent undo =>
    have head : (wire (first :: rest)).head? = some e := by
      rw [wire, List.flatMap_cons, List.head?_append, sent]
      rfl
    exact ⟨fun uncancelled => absurd ⟨first, rfl, cancelled⟩ uncancelled,
      fun _ => traced.undone_of_first head undo⟩

namespace Host

variable {config : Config} {past : List Moment} {h : Host} {number : Nat} {j : Job}
  {r : MigrationRun}

/-- Whenever a migration is cancelled, it asks the receiving host to remove only what it has asked
it to start, unless it was cancelled before its first step. Then it asks for no start, and all that
it sends is the cancellation of its mirrors and of the transfer, and the removal. -/
theorem Run.removes_requested (run : Run config past h) (here : h.pool.jobs[number]? = some j)
    (work : j.work = .migration r) :
    (¬ CancelledAtOnce (historyOf number past) → RemovesRequested (historyOf number past)) ∧
      (CancelledAtOnce (historyOf number past) →
        ∀ e ∈ wire (historyOf number past), e.isUndo = true) := by
  obtain ⟨cancelled, course, -⟩ := run.courses.courses number j r here work
  obtain ⟨address, addressed⟩ := MigrationOptions.primaryAddr_of_validate (run.plan_valid here work)
  exact course.removes addressed

end Host

namespace Sample

/-- The start of a migration is accepted. -/
def acceptedMoves : List Host.Move :=
  [.call (surroundings 0) (.startMigration bareOptions),
    .goOn 0 (surroundings 0) (.answer (.ok .done)),
    .goOn 0 (surroundings 0) (.answer (.ok (.flag false)))]

def cancelMigration : List Host.Move :=
  [.call (surroundings 0) (.cancel (.migration "web")), .goOn 1 (surroundings 0) .enter]

def bareSteps (xs : List Stimulus) : List Host.Move :=
  xs.map fun x => .task 0 (surroundings 0) (.work x)

/-- The migration is cancelled after its first step. -/
def startedMoves : List Host.Move :=
  acceptedMoves ++ bareSteps [.act .course .enter] ++ cancelMigration ++
    bareSteps [.act .course (.wake .interrupt), .act .course (.reply (.ok .null))]

/-- The migration is cancelled before its first step. -/
def unstartedMoves : List Host.Move :=
  acceptedMoves ++ cancelMigration ++
    bareSteps [.act .course .enter, .act .course (.reply (.ok .null))]

theorem started_replayable : ((Host.new .default).replay? startedMoves).isSome := rfl

theorem unstarted_replayable : ((Host.new .default).replay? unstartedMoves).isSome := rfl

def started : List Host.Moment × Host := Option.get _ started_replayable

def unstarted : List Host.Moment × Host := Option.get _ unstarted_replayable

theorem started_run : Host.Run .default started.1 started.2 := .of_replay? started_replayable

theorem unstarted_run : Host.Run .default unstarted.1 unstarted.2 :=
  .of_replay? unstarted_replayable

def startedJob : Job := (started.2.pool.jobs[0]?).get rfl

def unstartedJob : Job := (unstarted.2.pool.jobs[0]?).get rfl

def runOf (j : Job) : MigrationRun :=
  match j.work with
  | .migration r => r
  | .copying _ => start

/-- The removal is requested in both runs, after the start in the one and after a step of the
rollback in the other. -/
theorem cancelled_removes : started.2.pool.jobs[0]? = some startedJob ∧
    unstarted.2.pool.jobs[0]? = some unstartedJob ∧
    .request (.removeConfig "web") ∈ wire (Host.historyOf 0 started.1) ∧
    RemovesRequested (Host.historyOf 0 started.1) ∧
    .request (.removeConfig "web") ∈ wire (Host.historyOf 0 unstarted.1) ∧
    ∀ e ∈ wire (Host.historyOf 0 unstarted.1), e.isUndo = true := by
  have late : ¬ CancelledAtOnce (Host.historyOf 0 started.1) := by
    rintro ⟨m, first, cancelled⟩
    cases first
    cases cancelled
  have atOnce : CancelledAtOnce (Host.historyOf 0 unstarted.1) := ⟨_, rfl, rfl⟩
  have here : started.2.pool.jobs[0]? = some startedJob := rfl
  have here' : unstarted.2.pool.jobs[0]? = some unstartedJob := rfl
  refine ⟨here, here', ?_, ?_, ?_, ?_⟩
  · exact List.mem_cons_of_mem _ (List.mem_cons_of_mem _ List.mem_cons_self)
  · exact (started_run.removes_requested here (r := runOf startedJob) rfl).1 late
  · exact List.mem_cons_of_mem _ List.mem_cons_self
  · exact (unstarted_run.removes_requested here' (r := runOf unstartedJob) rfl).2 atOnce

/-- Not everything that is removed was requested before: the removal is sent although the start of
the machine was not. -/
theorem removes_unrequested : ¬ ∀ config past h number j r, Host.Run config past h →
    h.pool.jobs[number]? = some j → j.work = .migration r →
      RemovesRequested (Host.historyOf number past) := by
  intro always
  have requested := always .default unstarted.1 unstarted.2 0 unstartedJob (runOf unstartedJob)
    unstarted_run rfl rfl
  obtain ⟨manifest, sent⟩ := requested (Host.historyOf 0 unstarted.1 |>.take 1) _ [] rfl "web"
    List.mem_cons_self
  have first : wire ((Host.historyOf 0 unstarted.1).take 1) = [.order .course .migrateCancel] := rfl
  rw [first] at sent
  cases List.mem_singleton.mp sent

end Sample

end VmControl
