import VmControl.Proofs.Migration.Phases

/-!
# A migration keeps its order

How far a run has come is borne out by its history (`RunStage.BorneOut`), and the history is orderly
(`Course.ordered`). This is shown step by step: an act of the course of a run gives no order of a
phase, and a turn of a phase is left to what is known of the phases.
-/

namespace VmControl

open History

/-- No phase has ordered anything. -/
def Silent (past : History) : Prop := ∀ part, part ≠ .course → ordersOf part past = []

/-- The history bears out how far a run has come. -/
def RunStage.BorneOut (plan : MigrationPlan) (past : History) : RunStage → Prop
  | .fresh | .provisioning .. => Silent past
  | .offering .. => Silent past ∧ plan.options.disks ≠ []
  | .transferring p => p.BorneOut plan past
  | .withdrawing _ | .resuming _ | .quitting => Handover plan past
  | .closing e => e.verdict = .ok () → Handover plan past
  | .cancellingJobs .. | .cancellingTransfer _ | .removing .. => True

variable {plan : MigrationPlan} {past : History} {m : Moment}

theorem Silent.concat (silent : Silent past) (gives : m.Gives none) : Silent (past ++ [m]) :=
  fun part phase => (gives.other phase nofun).trans (silent part phase)

/-- A moment of a run that is no turn of a phase. -/
theorem RunStage.BorneOut.frame {stage : RunStage} (borne : stage.BorneOut plan past)
    (gives : m.Gives none) : stage.BorneOut plan (past ++ [m]) := by
  cases stage with
  | fresh | provisioning => exact Silent.concat borne gives
  | offering => exact ⟨borne.1.concat gives, borne.2⟩
  | transferring p =>
    exact ⟨borne.disks, borne.unhindered, fun passed => (borne.disksReady passed).append [m],
      fun passed => (borne.migrated passed).append [m],
      borne.mirroring.frame fun n => gives.other nofun nofun,
      borne.transfer.frame (gives.other nofun nofun)⟩
  | withdrawing | resuming | quitting => exact Handover.append borne [m]
  | closing => exact fun sound => (borne sound).append [m]
  | cancellingJobs | cancellingTransfer | removing => exact trivial

/-! ## Moments of the course -/

/-- A request is an act of the course. -/
theorem Moment.Gives.of_request {q : PeerRequest} (sent : m.effects = [.request q]) :
    m.Gives none := by
  refine .of_silent fun e there part _ => ?_
  rw [sent] at there
  obtain rfl := List.mem_singleton.mp there
  rfl

theorem Moment.Gives.of_course {o : Order} (sent : m.effects = [.order .course o]) :
    m.Gives none := by
  refine .of_silent fun e there part phase => ?_
  rw [sent] at there
  obtain rfl := List.mem_singleton.mp there
  exact Effect.orderOf?_other (Ne.symm phase) o

theorem Moment.Gives.of_quiet (quiet : m.wire = []) : m.Gives none := by
  refine ⟨List.forall_mem_nil _, fun part _ => ?_⟩
  rw [quiet]
  rfl

theorem Orderly.single {e : Effect} (orderly : Orderly plan past) (sent : m.effects = [e])
    (permitted : Permitted plan past m e) (gives : m.Gives none) : Orderly plan (past ++ [m]) := by
  refine orderly.concat (fun other there => ?_) gives
  rw [sent] at there
  obtain rfl := List.mem_singleton.mp there
  exact permitted

theorem Orderly.quiet (orderly : Orderly plan past) (quiet : m.wire = []) :
    Orderly plan (past ++ [m]) := by
  refine orderly.concat (fun e there => .keep ?_) (.of_quiet quiet)
  cases inside : e.isWire with
  | false => rfl
  | true =>
    have sent : e ∈ m.wire := List.mem_filter.mpr ⟨there, inside⟩
    rw [quiet] at sent
    cases sent

/-- A run of the plan whose history is orderly and bears out how far it has come. -/
structure MigrationRun.Ordered (plan : MigrationPlan) (past : History) (r : MigrationRun) :
    Prop where
  same : r.plan = plan
  orderly : Orderly plan past
  borne : r.stage.BorneOut plan past

namespace MigrationRun

variable {r : MigrationRun} {s : Surroundings} {cancelled : Bool}

theorem Ordered.cancelNext {cause : RollbackCause} {jobs : List String} (same : r.plan = plan)
    (orderly : Orderly plan past) (sent : m.effects = (r.cancelNext cause jobs).2) :
    (r.cancelNext cause jobs).1.Ordered plan (past ++ [m]) := by
  cases jobs with
  | nil => exact ⟨same, orderly.single sent (.undo rfl) (.of_course sent), trivial⟩
  | cons job left => exact ⟨same, orderly.single sent (.undo rfl) (.of_course sent), trivial⟩

/-- A turn of a phase. -/
theorem Ordered.turn {p : Phases} {part : Part} {h : Happening} {t : PhaseTurn}
    (orderly : Orderly plan past) (borne : p.BorneOut plan past)
    (turn : p.Step plan m.surroundings part h t) (happens : m.stimulus = .act part h)
    (sent : m.effects = turnEffects t.order) :
    Orderly plan (past ++ [m]) ∧ t.next.BorneOut plan (past ++ [m]) := by
  have after := borne.step turn happens (.of_turn sent)
  refine ⟨⟨throughout_concat.mpr ⟨orderly.permitted, ?_⟩, after.inTurn.1, after.inTurn.2⟩, after⟩
  rw [sent]
  exact borne.permitted turn

/-- The turn after which both phases are over with success. -/
theorem handover_of_over {p : Phases} {part : Part} {h : Happening} {t : PhaseTurn}
    (borne : p.BorneOut plan past) (turn : p.Step plan m.surroundings part h t)
    (happens : m.stimulus = .act part h) (finished : t.next.outcome? = some (.ok ()))
    (gives : m.Gives none) : t.next.BorneOut plan (past ++ [m]) ∧ Handover plan (past ++ [m]) := by
  have silent : t.order = none := turn.silent_of_over (by rw [finished]; nofun)
  have after := borne.step turn happens (by rw [silent]; exact gives)
  exact ⟨after, after.handover finished⟩

/-- An act of a run keeps its order. -/
theorem Ordered.act {part : Part} {h : Happening} {st : RunStep} (ordered : r.Ordered plan past)
    (act : r.Act m.surroundings m.cancelled part h st) (happens : m.stimulus = .act part h)
    (sent : m.effects = st.2) : st.1.Ordered plan (past ++ [m]) := by
  obtain ⟨rfl, orderly, borne⟩ := ordered
  have quiet (none : st.2 = []) : m.wire = [] := by rw [Moment.wire, sent, none]; rfl
  cases act with
  | provision stage =>
    rw [stage] at borne
    exact ⟨rfl, orderly.single sent (.request rfl) (.of_request sent),
      Silent.concat borne (.of_request sent)⟩
  | offer stage disks =>
    rw [stage] at borne
    exact ⟨rfl, orderly.single sent (.offer _ _ disks) (.of_request sent),
      Silent.concat borne (.of_request sent), disks⟩
  | withoutDisks stage none =>
    rw [stage] at borne
    have silent := Silent.concat borne (.of_quiet (quiet rfl))
    exact ⟨rfl, orderly.quiet (quiet rfl), Phases.BorneOut.withoutDisks silent none⟩
  | withDisks stage =>
    rw [stage] at borne
    obtain ⟨silent, disks⟩ := borne
    have silent := silent.concat (.of_quiet (quiet rfl))
    exact ⟨rfl, orderly.quiet (quiet rfl), Phases.BorneOut.withDisks silent disks⟩
  | turn stage turn goesOn =>
    rw [stage] at borne
    obtain ⟨orderly, after⟩ := Ordered.turn orderly borne turn happens sent
    exact ⟨rfl, orderly, after⟩
  | withdraw stage turn finished offered =>
    rw [stage] at borne
    obtain ⟨after, handover⟩ := handover_of_over borne turn happens finished (.of_request sent)
    exact ⟨rfl, orderly.single sent (.withdraw _ (after.disks offered)) (.of_request sent),
      handover⟩
  | resume stage turn finished =>
    rw [stage] at borne
    obtain ⟨after, handover⟩ := handover_of_over borne turn happens finished (.of_request sent)
    exact ⟨rfl, orderly.single sent (.request rfl) (.of_request sent), handover⟩
  | withdrawn stage =>
    rw [stage] at borne
    exact ⟨rfl, orderly.single sent (.request rfl) (.of_request sent), Handover.append borne [m]⟩
  | spare stage =>
    rw [stage] at borne
    exact ⟨rfl, orderly.quiet (quiet rfl), fun _ => Handover.append borne [m]⟩
  | stop stage wanted =>
    rw [stage] at borne
    exact ⟨rfl, orderly.single sent (.quit wanted borne) (.of_course sent),
      Handover.append borne [m]⟩
  | quit stage =>
    rw [stage] at borne
    exact ⟨rfl, orderly.quiet (quiet rfl), fun _ => Handover.append borne [m]⟩
  | fail => exact .cancelNext rfl orderly sent
  | jobCancelled => exact .cancelNext rfl orderly sent
  | transferCancelled =>
    exact ⟨rfl, orderly.single sent (.request rfl) (.of_request sent), trivial⟩
  | removed => exact ⟨rfl, orderly.quiet (quiet rfl), fun sound => by cases sound⟩

end MigrationRun

/-- Every course of a migration is orderly, and its history bears out how far it has come. -/
theorem Course.ordered {cancelled : Bool} {r : MigrationRun}
    (course : Course plan past cancelled r) :
    r.Ordered plan past := by
  induction course with
  | new stamp => exact ⟨rfl, .nil, fun _ _ => rfl⟩
  | cancel _ ih => exact ih
  | @step past cancelled r r' s x effects _ step ih =>
    rcases MigrationRun.step?_cases step with ⟨part, h, rfl, act⟩ | ⟨account, rfl, -, rfl, rfl⟩ |
      ⟨e, e', stage, verdict, rfl, silent, -⟩
    · exact ih.act (m := ⟨s, cancelled, .act part h, effects⟩) act rfl rfl
    · exact ⟨ih.same, ih.orderly.quiet rfl, ih.borne.frame (.of_quiet rfl)⟩
    · refine ⟨ih.same, ih.orderly.quiet silent, fun sound => ?_⟩
      have borne := ih.borne
      rw [stage] at borne
      exact (borne (verdict ▸ sound)).append _

end VmControl
