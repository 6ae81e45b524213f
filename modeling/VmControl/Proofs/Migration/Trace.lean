import VmControl.Proofs.Migration.Course

/-!
# What goes out in the course of a migration

While the work is done nothing is undone and the machine here is not ended. A run that fails then
sends the steps of its rollback, each when the one before is settled and whatever has come of it
(`RollingBack`). A run that succeeds may send the order to end the machine here, and nothing after
it. `RunStage.Traced` says this of every stage, and every step keeps it (`Course.traced`).
-/

namespace VmControl

open History

namespace Effect

/-- Whether something is sent to undo a migration. -/
def isUndo : Effect → Bool
  | .order _ (.blockJobCancel _) | .order _ .migrateCancel | .request (.removeConfig _) => true
  | _ => false

/-- Whether the machine here is to be ended. -/
def isQuit : Effect → Bool
  | .order _ .quit => true
  | _ => false

/-- Whether something is sent for the work itself. -/
def isWork (e : Effect) : Bool := !e.isUndo && !e.isQuit

/-- What settles something that was sent: an order is answered, a request is answered or its time
runs out. -/
def SettledBy : Effect → Happening → Prop
  | .order .., .reply _ | .request _, .answer _ | .request _, .wake .elapse => True
  | _, _ => False

end Effect

namespace MigrationPlan

/-- Cancels the mirror of a disk. -/
def cancels (job : String) : Effect := .order .course (.blockJobCancel job)

/-- The rollback when the mirrors that are left are still to be cancelled. -/
def rollbackFrom (plan : MigrationPlan) (jobs : List String) : List Effect :=
  jobs.map cancels ++ [.order .course .migrateCancel,
    .request (.removeConfig plan.options.dstVmName)]

def rollback (plan : MigrationPlan) : List Effect :=
  plan.rollbackFrom (plan.options.disks.map (·.mirrorJob))

end MigrationPlan

/-- Something is settled that was the last of what had been sent. -/
def Settles (sent : List Effect) (earlier : History) (m : Moment) : Prop :=
  wire earlier = sent ∧ ∃ e h, sent.getLast? = some e ∧ m.stimulus = .act .course h ∧ e.SettledBy h

/-- The first `n` steps are settled, each after it was sent and before the next one was. -/
def SettledSteps (work steps : List Effect) (n : Nat) (past : History) : Prop :=
  ∀ i < n, Once (Settles (work ++ steps.take (i + 1))) past

/-- Only work was sent. -/
def Working (past : History) : Prop := ∀ e ∈ wire past, e.isWork = true

/-- The machine here was ordered to end after the work. -/
def Stopped (past : History) : Prop :=
  ∃ work, wire past = work ++ [.order .course .quit] ∧ ∀ e ∈ work, e.isWork = true

/-- After the work the rollback was sent up to what is left, and all but the last of it is
settled. -/
def RollingBack (plan : MigrationPlan) (past : History) (left : List Effect) : Prop :=
  ∃ work steps last, wire past = work ++ (steps ++ [last]) ∧ (∀ e ∈ work, e.isWork = true) ∧
    steps ++ last :: left = plan.rollback ∧ SettledSteps work plan.rollback steps.length past

/-- After the work the whole rollback was sent, and all of it is settled. -/
def RolledBack (plan : MigrationPlan) (past : History) : Prop :=
  ∃ work, wire past = work ++ plan.rollback ∧ (∀ e ∈ work, e.isWork = true) ∧
    SettledSteps work plan.rollback plan.rollback.length past

/-- What has gone out when a run has an outcome. -/
def Sealed (plan : MigrationPlan) (past : History) : Except ControlError Unit → Prop
  | .ok () => Working past ∨ Stopped past
  | .error _ => RolledBack plan past

/-- What has gone out when a run has come to a stage. -/
def RunStage.Traced (plan : MigrationPlan) (past : History) : RunStage → Prop
  | .fresh | .provisioning .. | .offering .. | .transferring _ | .withdrawing _ | .resuming _ =>
    Working past
  | .quitting => Stopped past
  | .cancellingJobs left _ => RollingBack plan past (plan.rollbackFrom left)
  | .cancellingTransfer _ => RollingBack plan past [.request (.removeConfig plan.options.dstVmName)]
  | .removing .. => RollingBack plan past []
  | .closing e => Sealed plan past e.verdict

/-! ## Moments -/

variable {plan : MigrationPlan} {past : History} {m : Moment}

theorem Working.concat (working : Working past) (work : ∀ e ∈ m.wire, e.isWork = true) :
    Working (past ++ [m]) := by
  intro e sent
  rw [wire_append, wire_singleton] at sent
  rcases List.mem_append.mp sent with before | now
  · exact working e before
  · exact work e now

theorem Working.stop (working : Working past) (sent : m.wire = [.order .course .quit]) :
    Stopped (past ++ [m]) :=
  ⟨wire past, by rw [wire_append, wire_singleton, sent], working⟩

theorem Stopped.frame (stopped : Stopped past) (quiet : m.wire = []) : Stopped (past ++ [m]) := by
  obtain ⟨work, sent, all⟩ := stopped
  exact ⟨work, by rw [wire_append, wire_singleton, quiet, List.append_nil, sent], all⟩

theorem SettledSteps.append {work steps : List Effect} {n : Nat}
    (settled : SettledSteps work steps n past) (more : History) :
    SettledSteps work steps n (past ++ more) :=
  fun i below => (settled i below).append more

/-- The last step that was sent is settled. -/
theorem SettledSteps.last {work steps left : List Effect} {last : Effect} {h : Happening}
    (settled : SettledSteps work (steps ++ last :: left) steps.length past)
    (sent : wire past = work ++ (steps ++ [last])) (happens : m.stimulus = .act .course h)
    (settles : last.SettledBy h) :
    SettledSteps work (steps ++ last :: left) (steps.length + 1) (past ++ [m]) := by
  intro i below
  rcases Nat.lt_succ_iff_lt_or_eq.mp below with earlier | rfl
  · exact (settled i earlier).append [m]
  · refine Once.last ⟨?_, last, h, ?_, happens, settles⟩
    · rw [sent, List.take_length_add_append]
      rfl
    · rw [List.take_length_add_append, List.take_succ_cons, List.take_zero, ← List.append_assoc,
        List.getLast?_concat]

/-- The first step of a rollback follows the work. -/
theorem Working.first {step : Effect} {left : List Effect} (working : Working past)
    (sent : m.wire = [step]) (begins : plan.rollback = step :: left) :
    RollingBack plan (past ++ [m]) left := by
  refine ⟨wire past, [], step, ?_, working, begins.symm, nofun⟩
  rw [wire_append, wire_singleton, sent]
  rfl

theorem RollingBack.frame {left : List Effect} (rolling : RollingBack plan past left)
    (quiet : m.wire = []) : RollingBack plan (past ++ [m]) left := by
  obtain ⟨work, steps, last, sent, all, parts, settled⟩ := rolling
  refine ⟨work, steps, last, ?_, all, parts, settled.append [m]⟩
  rw [wire_append, wire_singleton, quiet, List.append_nil, sent]

/-- The next step of a rollback follows when the one before is settled. -/
theorem RollingBack.next {step before : Effect} {left : List Effect} {h : Happening}
    (rolling : RollingBack plan past (step :: left)) (sent : m.wire = [step])
    (happens : m.stimulus = .act .course h) (latest : (wire past).getLast? = some before)
    (settles : before.SettledBy h) : RollingBack plan (past ++ [m]) left := by
  obtain ⟨work, steps, last, all, working, parts, settled⟩ := rolling
  rw [all, ← List.append_assoc, List.getLast?_concat] at latest
  cases latest
  rw [← parts] at settled
  refine ⟨work, steps ++ [before], step, ?_, working, ?_, ?_⟩
  · rw [wire_append, wire_singleton, sent, all, List.append_assoc]
  · rw [List.append_assoc, ← parts]
    rfl
  · rw [← parts, List.length_append]
    exact settled.last all happens settles

/-- A rollback is over when its last step is settled. -/
theorem RollingBack.over {before : Effect} {h : Happening} (rolling : RollingBack plan past [])
    (quiet : m.wire = []) (happens : m.stimulus = .act .course h)
    (latest : (wire past).getLast? = some before) (settles : before.SettledBy h) :
    RolledBack plan (past ++ [m]) := by
  obtain ⟨work, steps, last, all, working, parts, settled⟩ := rolling
  rw [all, ← List.append_assoc, List.getLast?_concat] at latest
  cases latest
  rw [← parts] at settled
  refine ⟨work, ?_, working, ?_⟩
  · rw [wire_append, wire_singleton, quiet, List.append_nil, all, parts]
  · rw [← parts, List.length_append]
    exact settled.last all happens settles

theorem RolledBack.frame (rolled : RolledBack plan past) (quiet : m.wire = []) :
    RolledBack plan (past ++ [m]) := by
  obtain ⟨work, sent, all, settled⟩ := rolled
  refine ⟨work, ?_, all, settled.append [m]⟩
  rw [wire_append, wire_singleton, quiet, List.append_nil, sent]

/-! ## What waits to be settled -/

theorem MigrationPlan.rollback_eq (plan : MigrationPlan) :
    plan.rollback = (plan.options.disks.map fun d => cancels d.mirrorJob) ++
      [.order .course .migrateCancel] ++ [.request (.removeConfig plan.options.dstVmName)] := by
  rw [rollback, rollbackFrom, List.map_map, List.append_assoc]
  rfl

/-- A step of the rollback that is not the last one is an order. -/
theorem RollingBack.latest_order {left : List Effect} (rolling : RollingBack plan past left)
    (more : left ≠ []) : ∃ o, (wire past).getLast? = some (.order .course o) := by
  obtain ⟨work, steps, last, all, -, parts, -⟩ := rolling
  rw [all, ← List.append_assoc, List.getLast?_concat]
  rw [MigrationPlan.rollback_eq, ← List.dropLast_append_getLast more, ← List.cons_append,
    ← List.append_assoc] at parts
  have orders := (List.append_inj' parts rfl).1
  have there : last ∈ (plan.options.disks.map fun d => MigrationPlan.cancels d.mirrorJob) ++
      [.order .course .migrateCancel] := by
    rw [← orders]
    exact List.mem_append_right _ List.mem_cons_self
  rcases List.mem_append.mp there with cancel | final
  · obtain ⟨d, -, rfl⟩ := List.mem_map.mp cancel
    exact ⟨_, rfl⟩
  · obtain rfl := List.mem_singleton.mp final
    exact ⟨_, rfl⟩

/-- The last step of the rollback is a request. -/
theorem RollingBack.latest_request (rolling : RollingBack plan past []) :
    (wire past).getLast? = some (.request (.removeConfig plan.options.dstVmName)) := by
  obtain ⟨work, steps, last, all, -, parts, -⟩ := rolling
  rw [MigrationPlan.rollback_eq] at parts
  obtain rfl := List.singleton_inj.mp (List.append_inj' parts rfl).2
  rw [all, ← List.append_assoc, List.getLast?_concat]

/-- What a request under a bound comes to settles it. -/
theorem Effect.settledBy_resolved {b : Bound} {s : Surroundings} {h : Happening}
    {answer : Except ControlError PeerReply} (q : PeerRequest)
    (resolved : b.resolve? s false h = some answer) : (request q).SettledBy h := by
  cases h with
  | answer => exact trivial
  | wake w =>
    cases w with
    | elapse => exact trivial
    | notice | interrupt => cases resolved
  | _ => cases resolved

/-! ## The work -/

theorem Leg.Step.work {target : Endpoint} {s : Surroundings} {l : Leg} {h : Happening}
    {t : Reaction Leg} {o : Order} (step : Leg.Step plan target s l h t) (given : t.order = some o)
    (part : Part) : (Effect.order part o).isWork = true := by
  cases step with
  | start | running | rested | complete => cases given; rfl
  | awaitStart | listed | taken | awaitEnd | endedAtOnce | ended | gone | fail => cases given

theorem Transfer.Step.work {target : Endpoint} {s : Surroundings} {ready : Gate} {t : Transfer}
    {h : Happening} {r : Reaction Transfer} {o : Order}
    (step : Transfer.Step plan target s ready t h r) (given : r.order = some o) (part : Part) :
    (Effect.order part o).isWork = true := by
  cases step with
  | setCapabilities | setParameters | migrate | query => cases given; rfl
  | started | completed | goesOn | fail => cases given

theorem Mirroring.Step.work {target : Endpoint} {s : Surroundings} {migrated : Gate} {g : Mirroring}
    {part : Part} {h : Happening} {t : MirrorTurn}
    (step : Mirroring.Step plan target s migrated g part h t) :
    ∀ e ∈ turnEffects t.order, e.isWork = true := by
  have single {l k : Leg} {n : Nat} {order : Option Order} {reports : List StatUpdate}
      (turn : l.Step plan target s h ⟨.ok k, order, reports⟩) :
      ∀ e ∈ turnEffects (order.map (Part.leg n, ·)), e.isWork = true := by
    intro e sent
    cases order with
    | none => cases sent
    | some o =>
      obtain rfl := List.mem_singleton.mp sent
      exact turn.work rfl _
  cases step with
  | syncing _ turn | completing _ turn | ended _ turn => exact single turn
  | synced | poll =>
    intro e sent
    obtain rfl := List.mem_singleton.mp sent
    rfl
  | measured | migrated | fail => exact List.forall_mem_nil _

/-- The phases order nothing but work. -/
theorem Phases.Step.work {s : Surroundings} {p : Phases} {part : Part} {h : Happening}
    {t : PhaseTurn} (step : p.Step plan s part h t) :
    ∀ e ∈ turnEffects t.order, e.isWork = true := by
  cases step with
  | @transfer _ _ order _ turn =>
    intro e sent
    cases order with
    | none => cases sent
    | some o =>
      obtain rfl := List.mem_singleton.mp sent
      exact turn.work rfl _
  | mirrors _ turn => exact turn.work

/-! ## Steps -/

theorem Sealed.frame {verdict : Except ControlError Unit} (sealed : Sealed plan past verdict)
    (quiet : m.wire = []) : Sealed plan (past ++ [m]) verdict := by
  cases verdict with
  | ok => exact sealed.imp (·.concat (by rw [quiet]; exact List.forall_mem_nil _)) (·.frame quiet)
  | error => exact RolledBack.frame sealed quiet

theorem RunStage.Traced.frame {stage : RunStage} (traced : stage.Traced plan past)
    (quiet : m.wire = []) : stage.Traced plan (past ++ [m]) := by
  cases stage with
  | fresh | provisioning | offering | transferring | withdrawing | resuming =>
    exact Working.concat traced (by rw [quiet]; exact List.forall_mem_nil _)
  | quitting => exact Stopped.frame traced quiet
  | cancellingJobs | cancellingTransfer | removing => exact RollingBack.frame traced quiet
  | closing => exact Sealed.frame traced quiet

namespace MigrationRun

variable {r : MigrationRun}

theorem traced_rollBack {cancelled : Bool} {e : ControlError} (same : r.plan = plan)
    (working : Working past) (sent : m.effects = (r.rollBack cancelled e).2) :
    (r.rollBack cancelled e).1.stage.Traced plan (past ++ [m]) := by
  subst same
  have begins : r.plan.rollback = r.plan.rollbackFrom r.jobs := rfl
  rw [rollBack] at sent ⊢
  cases jobs : r.jobs with
  | nil =>
    rw [jobs] at sent begins
    exact working.first (by rw [Moment.wire, sent]; rfl) begins
  | cons job left =>
    rw [jobs] at sent begins
    exact working.first (by rw [Moment.wire, sent]; rfl) begins

/-- The next step of the rollback, when others are left after a mirror was cancelled. -/
theorem traced_cancelNext {cause : RollbackCause} {left : List String}
    {answer : Except ControlError Json}
    (same : r.plan = plan) (rolling : RollingBack plan past (plan.rollbackFrom left))
    (happens : m.stimulus = .act .course (.reply answer))
    (sent : m.effects = (r.cancelNext cause left).2) :
    (r.cancelNext cause left).1.stage.Traced plan (past ++ [m]) := by
  subst same
  have more : r.plan.rollbackFrom left ≠ [] := List.append_ne_nil_of_right_ne_nil _ nofun
  obtain ⟨o, latest⟩ := rolling.latest_order more
  cases left with
  | nil => exact rolling.next (by rw [Moment.wire, sent]; rfl) happens latest trivial
  | cons job left => exact rolling.next (by rw [Moment.wire, sent]; rfl) happens latest trivial

/-- An act of a run keeps the trace of what goes out. -/
theorem traced_act {part : Part} {h : Happening} {st : RunStep} (same : r.plan = plan)
    (traced : r.stage.Traced plan past) (act : r.Act m.surroundings m.cancelled part h st)
    (happens : m.stimulus = .act part h) (sent : m.effects = st.2) :
    st.1.stage.Traced plan (past ++ [m]) := by
  have quiet (none : st.2 = []) : m.wire = [] := by rw [Moment.wire, sent, none]; rfl
  have request (q : PeerRequest) (only : st.2 = [.request q]) : m.wire = [.request q] := by
    rw [Moment.wire, sent, only]
    rfl
  have working {q : PeerRequest} (before : Working past) (only : st.2 = [.request q])
      (work : (Effect.request q).isWork = true) : Working (past ++ [m]) := by
    refine before.concat fun e there => ?_
    rw [request q only] at there
    obtain rfl := List.mem_singleton.mp there
    exact work
  cases act with
  | provision stage | offer stage | withdraw stage | resume stage | withdrawn stage =>
    rw [stage] at traced
    exact working traced rfl rfl
  | withoutDisks stage | withDisks stage =>
    rw [stage] at traced
    exact Working.concat traced (by rw [quiet rfl]; exact List.forall_mem_nil _)
  | turn stage turn =>
    rw [stage] at traced
    exact Working.concat traced (by rw [Moment.wire_turn sent]; exact turn.work)
  | spare stage =>
    rw [stage] at traced
    exact Or.inl (Working.concat traced (by rw [quiet rfl]; exact List.forall_mem_nil _))
  | stop stage =>
    rw [stage] at traced
    exact Working.stop traced (by rw [Moment.wire, sent]; rfl)
  | quit stage =>
    rw [stage] at traced
    exact Or.inr (Stopped.frame traced (quiet rfl))
  | fail e underway =>
    have before : Working past := by
      cases stage : r.stage with
      | fresh | provisioning | offering | transferring => rw [stage] at traced; exact traced
      | _ => rw [stage] at underway; cases underway
    exact traced_rollBack same before sent
  | jobCancelled stage =>
    rw [stage] at traced
    exact traced_cancelNext same traced happens sent
  | transferCancelled stage =>
    rw [stage] at traced
    have rolling : RollingBack plan past [.request (.removeConfig plan.options.dstVmName)] := traced
    obtain ⟨o, latest⟩ := rolling.latest_order (List.cons_ne_nil _ _)
    subst same
    exact rolling.next (request _ rfl) happens latest trivial
  | removed stage resolved =>
    rw [stage] at traced
    have rolling : RollingBack plan past [] := traced
    exact rolling.over (quiet rfl) happens rolling.latest_request
      (Effect.settledBy_resolved _ resolved)

end MigrationRun

/-- Every course of a migration has sent what its stage tells. -/
theorem Course.traced {cancelled : Bool} {r : MigrationRun}
    (course : Course plan past cancelled r) :
    r.plan = plan ∧ r.stage.Traced plan past := by
  induction course with
  | new stamp => exact ⟨rfl, List.forall_mem_nil _⟩
  | cancel _ ih => exact ih
  | @step past cancelled r r' s x effects _ step ih =>
    obtain ⟨same, traced⟩ := ih
    rcases MigrationRun.step?_cases step with ⟨part, h, rfl, act⟩ | ⟨account, rfl, -, rfl, rfl⟩ |
      ⟨e, e', stage, verdict, rfl, silent, -⟩
    · exact ⟨act.plan.trans same, MigrationRun.traced_act
        (m := ⟨s, cancelled, .act part h, effects⟩) same traced act rfl rfl⟩
    · exact ⟨same, traced.frame rfl⟩
    · refine ⟨same, ?_⟩
      rw [stage] at traced
      have kept := Sealed.frame (m := ⟨s, cancelled, x, effects⟩) traced silent
      rw [← verdict] at kept
      exact kept

end VmControl
