import VmControl.Proofs.Task.Candour

/-!
# Failure and interruption

A task counts as interrupted exactly if its failure is the signal of cancellation and the operator
has cancelled it, provided that no one outside answers with that signal (`Job.Honest`). For a
migration this is not obvious, since a phase that fails gives the signal to the other one: but then
the phase that failed first decides how the task ends (`Job.Life.failure_or_interruption`).

`Job.Moment.EndsPhase` names the moments at which a phase fails, and `Job.Blamed` ties them to what
the run comes to.
-/

namespace VmControl

namespace Job

/-- What befalls a task does not bring the signal of cancellation from outside. -/
def Move.Genuine : Move → Prop
  | .step _ (.work x) => x.Genuine
  | .cancel | .step _ _ => True

/-- No one outside has answered with the signal of cancellation. -/
def Honest (past : List Moment) : Prop := ∀ m ∈ past, m.move.Genuine

def Move.isAct : Move → Bool
  | .step _ (.work (.act ..)) => true
  | _ => false

/-- At a moment a phase of a migration comes to its end with a failure. -/
def Moment.EndsPhase (m : Moment) (phase : Phase) (e : ControlError) : Prop :=
  ∃ r p s part h t, m.before.work = .migration r ∧ r.stage = .transferring p ∧
    m.move = .step s (.work (.act part h)) ∧
    p.react? r.plan s m.before.task.isCancelled part h = some t ∧
    p.over? phase = none ∧ t.next.over? phase = some (.error e)

/-- A phase has come to its end with a failure. -/
def PhaseEnded (past : List Moment) (e : ControlError) : Prop :=
  ∃ m ∈ past, ∃ phase, m.EndsPhase phase e

variable {past : List Moment} {j k : Job} {move : Move} {effects : List Effect}

theorem PhaseEnded.concat {e : ControlError} (ended : PhaseEnded past e) (m : Moment) :
    PhaseEnded (past ++ [m]) e := by
  obtain ⟨old, here, ends⟩ := ended
  exact ⟨old, List.mem_append_left _ here, ends⟩

theorem phaseEnded_concat {e : ControlError} {m : Moment} (ended : PhaseEnded (past ++ [m]) e) :
    PhaseEnded past e ∨ ∃ phase, m.EndsPhase phase e := by
  obtain ⟨other, here, ends⟩ := ended
  rcases List.mem_append.mp here with old | new
  · exact Or.inl ⟨other, old, ends⟩
  · rw [List.mem_singleton.mp new] at ends
    exact Or.inr ends

/-- A task to which no one has answered with the signal of cancellation is candid. -/
theorem Life.candid (life : Life past j) (honest : Honest past) : j.work.Candid (asked past) := by
  induction life with
  | migration => trivial
  | copying => trivial
  | @move past j k move effects life moved ih =>
    obtain ⟨before, genuine⟩ := forall_mem_concat.mp honest
    have candid := ih before
    have still : asked past = true → asked (past ++ [⟨j, move, effects⟩]) = true := asked_mono _
    cases move?_cases moved with
    | cancel | finish | release => exact candid.mono still
    | work busy step =>
      obtain ⟨cancelled, -⟩ := life.settling.standing.busy busy
      have told := life.settling.told
      rw [← cancelled] at told candid still
      exact (step.candid genuine told candid).mono still

/-- How the failures of phases bear on a run. Of the phases that work now, a failure is known from
some moment. And a failure by itself, at whatever moment, is there still, or the run fails for such
a one. -/
structure Blamed (past : List Moment) (w : Work) : Prop where
  known : ∀ r p, w = .migration r → r.stage = .transferring p → ∀ e, p.FailedWith e →
    PhaseEnded past e
  lasting : ∀ e, e ≠ .interrupted → PhaseEnded past e → ∃ r, w = .migration r ∧
    ((∃ p, r.stage = .transferring p ∧ p.FailedWith e) ∨
      ∃ f, r.cause? = some f ∧ f ≠ .interrupted ∧ PhaseEnded past f)

variable {w : Work} {m : Moment}

/-- A moment at which nothing acts ends no phase. -/
theorem Moment.not_endsPhase (idle : m.move.isAct = false) (phase : Phase) (e : ControlError) :
    ¬ m.EndsPhase phase e := by
  intro ends
  obtain ⟨_, _, s, part, h, _, -, -, acts, -⟩ := ends
  rw [acts] at idle
  cases idle

/-- Where no phase ends, the run stays to blame for the same. -/
theorem Blamed.frame (blamed : Blamed past w) (quiet : ∀ phase e, ¬ m.EndsPhase phase e) :
    Blamed (past ++ [m]) w where
  known r p same stage e failed := (blamed.known r p same stage e failed).concat m
  lasting e genuine ended := by
    rcases phaseEnded_concat ended with before | ⟨phase, now⟩
    · obtain ⟨r, same, failing | ⟨f, caused, other, since⟩⟩ := blamed.lasting e genuine before
      · exact ⟨r, same, Or.inl failing⟩
      · exact ⟨r, same, Or.inr ⟨f, caused, other, since.concat m⟩⟩
    · exact absurd now (quiet phase e)

theorem Blamed.copying {r : CopyRun} (blamed : Blamed past (.copying r)) (r' : CopyRun) :
    Blamed past (.copying r') where
  known _ _ same := nomatch same
  lasting e genuine ended := by
    obtain ⟨_, same, -⟩ := blamed.lasting e genuine ended
    cases same

/-- A run whose phases do not act keeps what it is to blame for. -/
theorem Blamed.migration {r r' : MigrationRun} (blamed : Blamed past (.migration r))
    (known : ∀ p, r'.stage = .transferring p → ∀ e, p.FailedWith e → PhaseEnded past e)
    (lasting : ∀ e, e ≠ .interrupted → (∃ p, r.stage = .transferring p ∧ p.FailedWith e) →
      ∃ p, r'.stage = .transferring p ∧ p.FailedWith e)
    (caused : ∀ f, r.cause? = some f → r'.cause? = some f) : Blamed past (.migration r') where
  known _ p same stage e failed := by
    cases same
    exact known p stage e failed
  lasting e genuine ended := by
    obtain ⟨_, same, failing | ⟨f, cause, other, since⟩⟩ := blamed.lasting e genuine ended
    · cases same
      exact ⟨r', rfl, Or.inl (lasting e genuine failing)⟩
    · cases same
      exact ⟨r', rfl, Or.inr ⟨f, caused f cause, other, since⟩⟩

/-- The turn of a phase: the failures of the phases are those at which a phase has ended, now or
before. -/
theorem Blamed.turn {r : MigrationRun} {p : Phases} {s : Surroundings} {part : Part} {h : Happening}
    {t : PhaseTurn} (blamed : Blamed past (.migration r)) (stage : r.stage = .transferring p)
    (turn : p.react? r.plan s j.task.isCancelled part h = some t) (work : j.work = .migration r)
    (here : m.before = j) (acts : m.move = .step s (.work (.act part h))) :
    Blamed (past ++ [m]) (.migration (r.onPhases s j.task.isCancelled t).1) := by
  obtain ⟨phase, acted⟩ := Phases.react?_acts turn
  have known (e : ControlError) (failed : t.next.FailedWith e) : PhaseEnded (past ++ [m]) e := by
    rcases (acted.failedWith_iff e).mp failed with before | ⟨ends, going, broke⟩
    · exact (blamed.known r p rfl stage e before).concat m
    · refine ⟨m, List.mem_append_right _ (List.mem_singleton.mpr rfl), ends, ?_⟩
      exact ⟨r, p, s, part, h, t, by rw [here, work], stage, acts, by rw [here, turn], going, broke⟩
  have lasting (e : ControlError) (genuine : e ≠ .interrupted)
      (ended : PhaseEnded (past ++ [m]) e) : t.next.FailedWith e := by
    rcases phaseEnded_concat ended with before
      | ⟨ends, r', p', s', part', h', t', work', stage', acts', turn', -, broke⟩
    · obtain ⟨_, same, ⟨p', stage', failed⟩ | ⟨f, caused, -⟩⟩ := blamed.lasting e genuine before
      · cases same
        cases stage.symm.trans stage'
        exact (acted.failedWith_iff e).mpr (Or.inl failed)
      · cases same
        rw [MigrationRun.cause?, stage] at caused
        cases caused
    · rw [here, work] at work'
      cases work'
      cases stage.symm.trans stage'
      cases acts.symm.trans acts'
      rw [here, turn] at turn'
      cases turn'
      exact ⟨ends, broke⟩
  rcases r.onPhases_cases s j.task.isCancelled t with ⟨-, next⟩ | ⟨finished, apart⟩ |
    ⟨f, finished, caused, apart⟩
  · refine ⟨fun _ q same begun e failed => ?_, fun e genuine ended => ?_⟩
    · cases same
      cases next.symm.trans begun
      exact known e failed
    · exact ⟨_, rfl, Or.inl ⟨t.next, next, lasting e genuine ended⟩⟩
  · refine ⟨fun _ q same begun => ?_, fun e genuine ended => ?_⟩
    · cases same
      exact absurd begun (apart q)
    · exact absurd (lasting e genuine ended) (Phases.not_failedWith_of_outcome finished e)
  · rcases Phases.failedWith_of_outcome finished with ⟨failed, only⟩
    refine ⟨fun _ q same begun => ?_, fun e genuine ended => ?_⟩
    · cases same
      exact absurd begun (apart q)
    · have other : f ≠ .interrupted := fun signal =>
        genuine (only signal e (lasting e genuine ended))
      exact ⟨_, rfl, Or.inr ⟨f, caused, other, known f failed⟩⟩

theorem Blamed.close {e e' : Ending} (blamed : Blamed past w) (ending : w.ending? = some e)
    (same : e'.verdict = e.verdict) : Blamed past (w.close e') := by
  cases w with
  | copying r => exact blamed.copying _
  | migration r =>
    have stage : r.stage = .closing e := RunStage.eq_closing ending
    refine blamed.migration (fun p begun => ?_) (fun _ _ failing => ?_) fun f caused => ?_
    · cases begun
    · obtain ⟨p, working, -⟩ := failing
      cases stage.symm.trans working
    · rw [MigrationRun.cause?, stage] at caused
      rw [MigrationRun.cause?, MigrationRun.goTo]
      dsimp only at caused ⊢
      rw [same]
      exact caused

theorem Blamed.befall (blamed : Blamed past j.work) (befalls : j.Befalls move k effects) :
    Blamed (past ++ [⟨j, move, effects⟩]) k.work := by
  cases befalls with
  | cancel | finish | release => exact blamed.frame (Moment.not_endsPhase rfl)
  | @work s x w effects busy step =>
    generalize work : j.work = before at blamed step
    cases step with
    | @migrate r r' part h effects act =>
      rcases MigrationRun.act?_phases act with ⟨p, t, stage, turn, same⟩ | ⟨apart, fresh, keeps⟩
      · obtain rfl : r' = (r.onPhases s j.task.isCancelled t).1 := congrArg Prod.fst same
        exact blamed.turn stage turn work rfl rfl
      · have quiet (phase : Phase) (e : ControlError) :
            ¬ Moment.EndsPhase ⟨j, .step s (.work (.act part h)), effects⟩ phase e := by
          intro ends
          obtain ⟨r', p, _, _, _, _, work', stage, -⟩ := ends
          cases work.symm.trans work'
          exact apart p stage
        refine (blamed.frame quiet).migration (fun p begun e failed => ?_)
          (fun e _ failing => ?_) keeps
        · exact absurd failed (fresh p begun e)
        · obtain ⟨p, stage, -⟩ := failing
          exact absurd stage (apart p)
    | copy act =>
      refine (blamed.frame fun phase e => ?_).copying _
      intro ends
      obtain ⟨_, _, _, _, _, _, work', -⟩ := ends
      cases work.symm.trans work'
    | fold folds =>
      have kept : Blamed (past ++ [⟨j, .step s (.work .fold), []⟩]) before :=
        blamed.frame (Moment.not_endsPhase rfl)
      cases folds with
      | migration =>
        exact kept.migration (fun p stage e failed => kept.known _ p rfl stage e failed)
          (fun _ _ failing => failing) fun _ caused => caused
      | copying => exact kept.copying _
    | @persist _ outcome ending =>
      have kept : Blamed (past ++ [⟨j, .step s (.work .persist), [before.record]⟩]) before :=
        blamed.frame (Moment.not_endsPhase rfl)
      have verdict : (Ending.keeping outcome).verdict = (Ending.draining outcome).verdict := rfl
      exact kept.close ending verdict
    | @kept _ outcome ending =>
      have kept : Blamed (past ++ [⟨j, .step s (.work .kept), []⟩]) before :=
        blamed.frame (Moment.not_endsPhase rfl)
      have verdict : (Ending.ended outcome).verdict = (Ending.keeping outcome).verdict := rfl
      exact kept.close ending verdict

theorem Life.blamed (life : Life past j) : Blamed past j.work := by
  have nothing (e : ControlError) : ¬ PhaseEnded [] e := by
    intro ended
    obtain ⟨_, none, -⟩ := ended
    cases none
  induction life with
  | migration o config stamp =>
    refine ⟨fun r p same stage => ?_, fun e _ ended => absurd ended (nothing e)⟩
    cases same
    cases stage
  | copying o config stamp =>
    refine ⟨fun r p same => ?_, fun e _ ended => absurd ended (nothing e)⟩
    cases same
  | move _ moved ih => exact ih.befall (move?_cases moved)

/-- Nobody sees an interruption unless the operator has cancelled the task and it has failed with
the signal of that. -/
theorem Life.interrupted (life : Life past j) (seen : j.work.status = .interrupted) :
    asked past = true ∧ ∃ e, j.work.ending? = some e ∧ e.verdict = .error .interrupted := by
  have status : j.work.summary.status = .interrupted := by
    rw [Work.summary_eq]
    exact seen
  have final : j.work.forecast = j.work.summary :=
    Work.forecast_of_terminal (by rw [status]; rfl)
  exact life.settling.told.interrupted (by rw [final, status])

theorem Life.seen_of_signal (life : Life past j) (honest : Honest past)
    (signal : j.task.err = some .interrupted) : j.work.status = .interrupted := by
  have idle : j.inProgress = false := by
    by_contra busy
    rw [Bool.not_eq_false] at busy
    exact nomatch (life.settling.standing.busy busy).2.symm.trans signal
  rcases life.settling.over idle with ⟨outcome, ended, err, -, seen⟩
  have failed : outcome = .error .interrupted := by
    cases outcome with
    | ok => exact nomatch err.symm.trans signal
    | error e =>
      cases err.symm.trans signal
      rfl
  have status := (life.candid honest).signal ended failed
  rwa [seen, Work.summary_eq] at status

/-- Failure and interruption are never confused. What is seen as interrupted was cancelled by the
operator; where no one outside gives the signal of cancellation, a task that was not cancelled never
fails with it, and one that has left off is seen as interrupted exactly if it was cancelled and has
failed with it. And a migration of which a phase fails by itself fails with such a failure, whether
it is cancelled or not. -/
theorem Life.failure_or_interruption (life : Life past j) :
    (j.work.status = .interrupted →
      asked past = true ∧ ∃ e, j.work.ending? = some e ∧ e.verdict = .error .interrupted) ∧
    (Honest past →
      (asked past = false → j.task.err ≠ some .interrupted ∧ j.work.status ≠ .interrupted) ∧
      (j.inProgress = false → (j.work.status = .interrupted ↔
        j.task.err = some .interrupted ∧ asked past = true))) ∧
    (∀ m ∈ past, ∀ phase e, m.EndsPhase phase e → e ≠ .interrupted → j.inProgress = false →
      j.work.status = .failed ∧
        ∃ f, j.task.err = some f ∧ f ≠ .interrupted ∧ PhaseEnded past f) := by
  refine ⟨life.interrupted, fun honest => ⟨fun unasked => ?_, fun idle => ?_⟩, ?_⟩
  · have unseen : j.work.status ≠ .interrupted := by
      intro seen
      exact nomatch unasked.symm.trans (life.interrupted seen).1
    exact ⟨fun signal => unseen (life.seen_of_signal honest signal), unseen⟩
  · refine ⟨fun seen => ?_, fun signal => life.seen_of_signal honest signal.1⟩
    rcases life.interrupted seen with ⟨asks, e, ending, verdict⟩
    rcases life.settling.over idle with ⟨outcome, ended, err, -⟩
    cases ending.symm.trans ended
    obtain rfl : outcome = .error .interrupted := verdict
    exact ⟨err, asks⟩
  · intro m here phase e ends genuine idle
    rcases life.settling.tells idle with ⟨outcome, ended, err, tells⟩
    obtain ⟨r, work, ⟨p, stage, -⟩ | ⟨f, caused, other, since⟩⟩ :=
      life.blamed.lasting e genuine ⟨m, here, phase, ends⟩
    · rw [work, Work.ending?, stage] at ended
      cases ended
    · have failed : outcome = .error f := by
        rw [work] at ended
        rw [MigrationRun.cause?, RunStage.eq_closing ended] at caused
        cases outcome with
        | ok => cases caused
        | error e' =>
          cases caused
          rfl
      rw [Work.summary_eq] at tells
      subst failed
      refine ⟨?_, f, err, other, since⟩
      cases tells with
      | failed status => exact status
      | interrupted => exact absurd rfl other

/-- A task that is led through genuine moves has had no other ones. -/
theorem Honest.of_replay? {moves : List Move} {j : Job} (genuine : ∀ move ∈ moves, move.Genuine)
    (replayable : (j.replay? moves).isSome) : Honest (Option.get _ replayable).1 := by
  refine holds_of_replay? (R := fun past _ => Honest past) (List.forall_mem_nil _) ?_ replayable
  intro move listed _ _ _ honest _
  exact forall_mem_concat.mpr ⟨honest, genuine move listed⟩

end Job

namespace Sample

/-- What happens to a copy that is cancelled while its job is expected to run, up to its end. -/
def stoppingMoves : List Job.Move :=
  ([.act .course .enter,
    .act .course (.prepared (CopyTarget.prepare ⟨[], false⟩ copying).1),
    .act .course (.reply (.ok .null))].map fun x => .step (surroundings 0) (.work x)) ++
  [.cancel] ++
  ([.act .course (.wake .interrupt), .act .course (.reply (.ok .null)),
    .fold, .fold, .fold, .persist, .kept].map fun x => .step (surroundings 0) (.work x)) ++
  [.step (surroundings 0) .finish]

theorem stopped_replayable :
    ((Job.copying copying .default ⟨100, 0⟩).replay? stoppingMoves).isSome := rfl

def stopped : List Job.Moment × Job := Option.get _ stopped_replayable

theorem stopped_life : Job.Life stopped.1 stopped.2 :=
  .of_replay? (.copying copying .default ⟨100, 0⟩) stopped_replayable

theorem stopped_honest : Job.Honest stopped.1 := by
  have genuine (move : Job.Move) (here : move ∈ stoppingMoves) : move.Genuine := by
    simp only [stoppingMoves, List.map_cons, List.map_nil, List.cons_append, List.nil_append,
      List.mem_cons, List.not_mem_nil, or_false] at here
    rcases here with rfl | rfl | rfl | rfl | rfl | rfl | rfl | rfl | rfl | rfl | rfl | rfl
    case inr.inl => exact Happening.genuine_prepared _ _
    case inr.inr.inl | inr.inr.inr.inr.inr.inl =>
      intro failing
      cases failing
    all_goals trivial
  exact .of_replay? genuine stopped_replayable

/-- The copy that was cancelled is seen as interrupted, and the migration of which the mirror could
not be started as failed, although its transfer was given the signal of cancellation. -/
theorem told_apart :
    (Job.asked stopped.1 = true ∧ stopped.2.work.status = .interrupted) ∧
    undone.2.work.status = .failed ∧
      ∃ f, undone.2.task.err = some f ∧ f ≠ .interrupted ∧ Job.PhaseEnded undone.1 f := by
  refine ⟨⟨rfl, ?_⟩, ?_⟩
  · exact ((stopped_life.failure_or_interruption.2.1 stopped_honest).2 rfl).mpr ⟨rfl, rfl⟩
  · refine undone_life.failure_or_interruption.2.2 _ (List.mem_of_getElem? (i := 4) rfl) .mirrors
      (.mirror disk.path disk.mirrorJob
        ("start: " ++ (ControlError.protocol "no space left").message)) ?_ nofun rfl
    exact ⟨_, _, _, _, _, _, rfl, rfl, rfl, rfl, rfl, rfl⟩

end Sample

end VmControl
