import VmControl.Proofs.Pool.Cancellation

/-!
# What the cancellation of all tasks of a machine leaves behind

The call looks up once who is registered, tells each of them to stop, waits until all of them have
come to their end, and unregisters them one by one. Meanwhile they may end by themselves, and other
calls may cancel them and unregister them. What the call has found stays complete as long as no
other task of the machine is started (`Pool.Covers`), so nobody is at work once everyone who was
found has come to the end.

* `CancelAllCall.Progress` says what has been achieved at each point of the call;
  `CancelAllCall.step?_progress` is its step lemma.
* `Pool.SparesOthers`: whoever has nothing to do with the machine stays as it is, in every step of
  the call.
* `Host.Run.clears`: what is so when the call returns, and of what was there ever after.
-/

namespace VmControl

namespace Pool

variable {p q : Pool} {vm : String} {task : FoundTask} {found : List FoundTask}

/-- All tasks that involve a machine have ended, and none of them is registered. -/
structure Cleared (p : Pool) (vm : String) : Prop where
  unregistered : ∀ entry ∈ p.table.entries, ¬ entry.1.Involves vm
  ended : ∀ (number : Nat) (j : Job), p.jobs[number]? = some j → j.id.Involves vm →
    j.inProgress = false ∧ ∃ outcome, j.work.outcome? = some outcome

/-- Every task that does not involve a machine stays as it is, and is registered as it was. -/
def SparesOthers (p : Pool) (vm : String) (q : Pool) : Prop :=
  ∀ (number : Nat) (j : Job), p.jobs[number]? = some j → ¬ j.id.Involves vm →
    q.jobs[number]? = some j ∧ ∀ id, q.table.get? id = some number ↔ p.table.get? id = some number

theorem SparesOthers.refl (p : Pool) (vm : String) : p.SparesOthers vm p :=
  fun _ _ here _ => ⟨here, fun _ => .rfl⟩

theorem Spares.others (spares : p.Spares task.2 q) (holds : p.Holds task)
    (own : task.1.Involves vm) : p.SparesOthers vm q := by
  intro number j here apart
  obtain ⟨k, there, named⟩ := holds
  have other : number ≠ task.2 := by
    rintro rfl
    rw [here] at there
    cases there
    rw [named] at apart
    exact apart own
  obtain ⟨same, registered⟩ := spares number other
  exact ⟨same.trans here, registered⟩

/-- Whoever is registered and involves a machine is among those that were found. -/
def Covers (p : Pool) (vm : String) (found : List FoundTask) : Prop :=
  ∀ id number, p.table.get? id = some number → id.Involves vm → (id, number) ∈ found

/-- Nobody who involves a machine is at work. -/
def Quiet (p : Pool) (vm : String) : Prop :=
  ∀ number j, p.AtWork number j → ¬ j.id.Involves vm

section

variable (unbegun : ∀ j, q.jobs[p.jobs.length]? = some j → ¬ j.id.Involves vm)

include unbegun

theorem Covers.change (covers : p.Covers vm found) (change : p.Change q) : q.Covers vm found := by
  intro id number registered own
  cases change with
  | nothing | setJob => exact covers id number registered own
  | @start j =>
    rw [Pool.start, TaskTable.get?_insert] at registered
    split at registered
    · next same =>
      have other : ¬ j.id.Involves vm := unbegun j List.getElem?_concat_length
      rw [same] at own
      exact absurd own other
    · exact covers id number registered own
  | unregister =>
    rw [Pool.unregister, TaskTable.get?_release] at registered
    split at registered
    · cases registered
    · exact covers id number registered own

theorem Quiet.change (quiet : p.Quiet vm) (change : p.Change q) : q.Quiet vm := by
  intro number k work
  cases change with
  | nothing | unregister => exact quiet number k work
  | @start j =>
    rcases atWork_of_start work with before | ⟨-, rfl⟩
    · exact quiet number k before
    · exact unbegun k List.getElem?_concat_length
  | setJob here becomes =>
    obtain ⟨j, before, named⟩ := atWork_of_setJob here becomes work
    rw [named]
    exact quiet number j before

end

/-- Once one of them is unregistered, the others are left. -/
theorem Covers.unregister (covers : p.Covers vm (task :: found)) :
    (p.unregister task).Covers vm found := by
  intro id number registered own
  rw [Pool.unregister, TaskTable.get?_release] at registered
  split at registered
  · cases registered
  · next other =>
    rcases List.mem_cons.mp (covers id number registered own) with rfl | left
    · exact absurd ⟨rfl, registered⟩ other
    · exact left

/-- Everyone who is at work is registered, so where all of them have come to the end nobody is. -/
theorem Sound.quiet (sound : p.Sound) (covers : p.Covers vm found)
    (settled : ∀ task ∈ found, p.Settled task) : p.Quiet vm := by
  intro number j work involved
  have listed := covers j.id number (sound.registered number j work) involved
  have busy : p.isBusy number = true := isBusy_iff.mpr ⟨j, work⟩
  rw [sound.idle (settled _ listed)] at busy
  cases busy

/-- Where nobody is at work and nobody is left to unregister, nothing is left of the machine. -/
theorem Sound.cleared (sound : p.Sound) (quiet : p.Quiet vm) (covers : p.Covers vm []) :
    p.Cleared vm where
  unregistered entry listed := by
    intro involved
    cases found : p.table.get? entry.1 with
    | none =>
      have absent := List.lookup_eq_none_iff.mp found entry listed
      rw [bne_self_eq_false] at absent
      cases absent
    | some number => cases covers entry.1 number found involved
  ended number j here involved := by
    have idle : j.inProgress = false := by
      cases busy : j.inProgress with
      | false => rfl
      | true => exact absurd involved (quiet number j ⟨here, busy⟩)
    exact ⟨idle, (sound.jobs number j here).ended idle⟩

end Pool

open Pool

/-! ## The steps of the call -/

namespace CancelAllCall

variable {p q : Pool} {vm : String} {c : CancelAllCall} {turn : CallTurn CancelAllCall Unit}

/-- What the call has achieved: whom it goes on with involves the machine, and nobody else who is
registered does. -/
def Progress (p : Pool) (vm : String) : CancelAllCall → Prop
  | .firing left all => (∀ task ∈ left, task.1.Involves vm) ∧
      (∀ task ∈ all, task.1.Involves vm) ∧ p.Covers vm all
  | .awaiting all => (∀ task ∈ all, task.1.Involves vm) ∧ p.Covers vm all
  | .unregistering left => (∀ task ∈ left, task.1.Involves vm) ∧ p.Covers vm left ∧ p.Quiet vm

theorem begin_progress (p : Pool) (vm : String) : (begin p vm).Progress p vm := by
  have own (task : FoundTask) (here : task ∈ p.table.entries.filter (·.1.involves vm)) :
      task.1.Involves vm := TaskId.involves_iff.mp (List.mem_filter.mp here).2
  exact ⟨own, own, fun id number registered involved =>
    List.mem_filter.mpr ⟨TaskTable.mem_of_get? registered, TaskId.involves_iff.mpr involved⟩⟩

/-- What has been achieved stays so, whatever the tasks and the other calls do. -/
theorem Progress.change (progress : c.Progress p vm) (change : p.Change q)
    (unbegun : ∀ j, q.jobs[p.jobs.length]? = some j → ¬ j.id.Involves vm) :
    c.Progress q vm := by
  cases c with
  | firing => exact ⟨progress.1, progress.2.1, progress.2.2.change unbegun change⟩
  | awaiting => exact ⟨progress.1, progress.2.change unbegun change⟩
  | unregistering =>
    exact ⟨progress.1, progress.2.1.change unbegun change, progress.2.2.change unbegun change⟩

/-- A step of the call does nothing to the tasks of other machines, and after the last one nothing
is left of this machine. -/
theorem step?_progress (sound : p.Sound) (relied : c.Sound p) (progress : c.Progress p vm)
    (h : c.step? p = some (q, turn)) : p.SparesOthers vm q ∧
      ((∃ d, turn = .goesOn d [] ∧ d.Progress q vm) ∨ turn = .over () ∧ q.Cleared vm) := by
  unfold step? at h
  split at h
  · next task left all =>
    cases h
    obtain ⟨ownLeft, ownAll, covers⟩ := progress
    have kept : ∀ other ∈ left, other.1.Involves vm :=
      fun other here => ownLeft other (List.mem_cons_of_mem _ here)
    cases fired : p.fire? task.2 with
    | none => exact ⟨.refl p vm, Or.inl ⟨_, rfl, kept, ownAll, covers⟩⟩
    | some q =>
      have spares := Spares.of_fire? fired
      obtain ⟨j, stopped, -, -, rfl⟩ := fire?_eq_some fired
      refine ⟨spares.others (relied.1 task List.mem_cons_self) (ownLeft task List.mem_cons_self),
        ?_⟩
      exact Or.inl ⟨_, rfl, kept, ownAll, covers⟩
  · next all =>
    cases h
    exact ⟨.refl p vm, Or.inl ⟨_, rfl, progress.2⟩⟩
  · next all =>
    split at h
    · next released =>
      cases h
      have settled (task : FoundTask) (here : task ∈ all) : p.Settled task :=
        (relied task here).settled (List.all_eq_true.mp released task here)
      exact ⟨.refl p vm, Or.inl ⟨_, rfl, progress.1, progress.2, sound.quiet progress.2 settled⟩⟩
    · cases h
  · next task left =>
    cases h
    obtain ⟨own, covers, quiet⟩ := progress
    have holds := (relied task List.mem_cons_self).holds
    refine ⟨(Spares.unregister p task).others holds (own task List.mem_cons_self), Or.inl ?_⟩
    exact ⟨_, rfl, fun other here => own other (List.mem_cons_of_mem _ here),
      covers.unregister, quiet⟩
  · cases h
    exact ⟨.refl p vm, Or.inr ⟨rfl, sound.cleared progress.2.2 progress.2.1⟩⟩

end CancelAllCall

/-! ## Runs -/

namespace Host

variable {config : Config} {past : List Moment} {h h' : Host} {move : Move} {errands : List Errand}
  {call number : Nat} {vm : String} {state next : CallState} {j : Job}

/-- A move starts a task. -/
def Moment.Begins (m : Moment) (j : Job) : Prop :=
  ∃ after, m.before.step? m.move = some (after, m.errands) ∧
    after.pool.jobs[m.before.pool.jobs.length]? = some j

/-- A move does nothing to the tasks that do not involve a machine. -/
def Moment.SparesOthers (m : Moment) (vm : String) : Prop :=
  ∃ after, m.before.step? m.move = some (after, m.errands) ∧
    m.before.pool.SparesOthers vm after.pool

/-- The call has returned, and left a host at which all tasks of the machine have ended. Nothing has
been done since on behalf of those that it had. -/
structure Clears (past : List Moment) (call : Nat) (vm : String) (after : Host) : Prop where
  returned : ∃ m ∈ past, m.before.step? m.move = some (after, m.errands) ∧
    m.before.Returns after call (.cancelAll vm) (.ok ())
  cleared : after.pool.Cleared vm
  silent : ∀ m ∈ past, m.before.calls[call]? = some ⟨.cancelAll vm, .returned (.ok ())⟩ →
    ∀ (number : Nat) (j : Job), after.pool.jobs[number]? = some j → j.id.Involves vm →
      m.Silent number

/-- How far the cancellation of all tasks of a machine has come. -/
inductive Clearing (past : List Moment) (h : Host) (call : Nat) (vm : String) : CallState → Prop
  | underWay {c : CancelAllCall} (progress : c.Progress h.pool vm) :
      Clearing past h call vm (.cancellingAll c)
  | finished {after : Host} (clears : Clears past call vm after)
      (idle : ∀ (number : Nat) (j : Job), after.pool.jobs[number]? = some j →
        j.id.Involves vm → ∃ k, h.pool.jobs[number]? = some k ∧ k.inProgress = false) :
      Clearing past h call vm (.returned (.ok ()))

/-- What the call has achieved stays so, whatever the tasks and the other calls do. -/
theorem Clearing.pass (clearing : Clearing past h call vm state) (sound : h.Sound)
    (moved : h.step? move = some (h', errands))
    (here : h.calls[call]? = some ⟨.cancelAll vm, state⟩)
    (unbegun : h.UnderWay call → ∀ j, Moment.Begins ⟨h, move, errands⟩ j → ¬ j.id.Involves vm) :
    Clearing (past ++ [⟨h, move, errands⟩]) h' call vm state := by
  have step := step?_cases moved
  have change := step.change sound
  cases clearing with
  | underWay progress =>
    have going : h.UnderWay call := ⟨_, here, fun _ => nofun⟩
    exact .underWay (progress.change change fun j begun => unbegun going j ⟨h', moved, begun⟩)
  | @finished after clears idle =>
    refine .finished ⟨?_, clears.cleared, ?_⟩ fun number j there own => ?_
    · exact exists_mem_concat clears.returned
    · refine forall_mem_concat.mpr ⟨clears.silent, fun _ number j there own => ?_⟩
      obtain ⟨k, now, ended⟩ := idle number j there own
      exact step.silent_of_idle now ended
    · obtain ⟨k, now, ended⟩ := idle number j there own
      obtain ⟨l, next, becomes⟩ := change.grows number k now
      exact ⟨l, next, Bool.eq_false_iff.mpr fun busy => by simp [becomes.inProgress busy] at ended⟩

/-- The call goes on, and perhaps returns. -/
theorem Clearing.goOn {s : Surroundings} {x : Happening} {effects : List CallEffect} {p : Pool}
    (clearing : Clearing past h call vm state) (run : Run config past h)
    (here : h.calls[call]? = some ⟨.cancelAll vm, state⟩)
    (there : h'.calls[call]? = some ⟨.cancelAll vm, next⟩)
    (moved : h.step? (.goOn call s x) = some (h', errands))
    (stepped : state.step? h.pool s x = some (p, next, effects)) (same : h'.pool = p) :
    Moment.SparesOthers ⟨h, .goOn call s x, errands⟩ vm ∧
      Clearing (past ++ [⟨h, .goOn call s x, errands⟩]) h' call vm next := by
  cases clearing with
  | finished => cases stepped
  | underWay progress =>
    obtain ⟨⟨q, turn⟩, went, came⟩ := Option.map_eq_some_iff.mp stepped
    have relied := (run.sound.calls _ (List.mem_of_getElem? here)).2
    obtain ⟨spares, ⟨d, rfl, further⟩ | ⟨rfl, cleared⟩⟩ :=
      CancelAllCall.step?_progress run.sound.pool relied progress went
    · cases came
      exact ⟨⟨h', moved, by rwa [same]⟩, .underWay (by rwa [same])⟩
    · cases came
      refine ⟨⟨h', moved, by rwa [same]⟩,
        .finished ⟨?_, by rwa [same], ?_⟩ fun number j ended own => ?_⟩
      · refine ⟨_, List.mem_append_right _ List.mem_cons_self, moved, there, ?_⟩
        rw [here, there]
        simp
      · -- this is the move at which the call returns, so it had not returned at any moment before
        have fresh : h.calls[call]? ≠ some ⟨.cancelAll vm, .returned (.ok ())⟩ := by
          rw [here]
          simp
        exact forall_mem_concat.mpr ⟨fun m old out => absurd (run.returned rfl m old out) fresh,
          fun out => absurd out fresh⟩
      · rw [same] at ended ⊢
        exact ⟨j, ended, (cleared.ended number j ended own).1⟩

/-- The invariant of the call holds at every host that is reached, unless another task of the
machine was started meanwhile. -/
theorem Run.clearing (run : Run config past h)
    (unbegun : ∀ m ∈ past, m.before.UnderWay call → ∀ j, m.Begins j → ¬ j.id.Involves vm)
    (made : h.calls[call]? = some ⟨.cancelAll vm, state⟩) :
    (∀ m ∈ past, m.call? = some call → m.SparesOthers vm) ∧ Clearing past h call vm state := by
  induction run generalizing state with
  | new => cases made
  | @step past h h' move errands run moved ih =>
    have step := step?_cases moved
    obtain ⟨earlier, now⟩ := forall_mem_concat.mp unbegun
    by_cases own : Moment.call? ⟨h, move, errands⟩ = some call
    · cases step with
      | call begun =>
        cases own
        rw [List.getElem?_concat_length] at made
        cases made
        cases begun
        refine ⟨forall_mem_concat.mpr ⟨fun m old own => ?_, fun _ => ⟨_, moved, .refl _ _⟩⟩, ?_⟩
        · -- the number of the call was not yet given to any
          exact absurd (run.call_lt m old own) (Nat.lt_irrefl _)
        · exact .underWay (CancelAllCall.begin_progress h.pool vm)
      | @goOn number s x c p next effects here stepped =>
        cases own
        have there := made
        rw [List.getElem?_set_self (List.getElem?_eq_some_iff.mp here).1] at made
        obtain ⟨operation, state⟩ := c
        cases made
        obtain ⟨spared, clearing⟩ := ih earlier here
        obtain ⟨spares, further⟩ := clearing.goOn run here there moved stepped rfl
        exact ⟨forall_mem_concat.mpr ⟨spared, fun _ => spares⟩, further⟩
      | task => cases own
    · have bound := (List.getElem?_eq_some_iff.mp made).1
      rw [step.calls own bound] at made
      obtain ⟨spared, clearing⟩ := ih earlier made
      exact ⟨forall_mem_concat.mpr ⟨spared, fun mine => absurd mine own⟩,
        clearing.pass run.sound moved made now⟩

/-- If no task of a machine is started while a call cancels all of them, then at the host that the
call leaves when it returns none of them is registered or in progress. Nothing is done on their
behalf ever after, and the call does nothing to the tasks that do not involve the machine. -/
theorem Run.clears {outcome : Except ControlError Unit} (run : Run config past h)
    (returned : h.calls[call]? = some ⟨.cancelAll vm, .returned outcome⟩)
    (unbegun : ∀ m ∈ past, m.before.UnderWay call → ∀ j, m.Begins j → ¬ j.id.Involves vm) :
    (∃ after, Clears past call vm after) ∧ ∀ m ∈ past, m.call? = some call → m.SparesOthers vm := by
  obtain ⟨spared, clearing⟩ := run.clearing unbegun returned
  cases clearing with
  | finished clears => exact ⟨⟨_, clears⟩, spared⟩

end Host

namespace Sample

/-- Two machines are on their connections. -/
def neighbours : Surroundings :=
  { surroundings 0 with registry := (surroundings 0).registry.register "db" 1 }

/-- Another disk of the machine is to be copied. -/
def copyingData : CopyOptions := { copying with disk := { disk with path := "/dev/vg/data" } }

/-- What happens within a task. -/
def within (number : Nat) (stimuli : List Stimulus) : List Host.Move :=
  stimuli.map fun x => .task number neighbours (.work x)

/-- A migration of one machine has failed and a disk of it is being copied, and so is a disk of
another machine. Then all tasks of the first one are cancelled: its copy is told to stop, and both
its tasks are unregistered. -/
def clearingMoves : List Host.Move :=
  [.call neighbours (.startMigration bareOptions),
    .goOn 0 neighbours (.answer (.ok .done)),
    .goOn 0 neighbours (.answer (.ok (.flag false))),
    .call neighbours (.startCopying { copying with vmName := "db" })] ++
  within 0 [.act .course .enter, .act .course (.answer (.error (.protocol "no room"))),
    .act .course (.reply (.ok .null)), .act .course (.answer (.ok .done)),
    .fold, .fold, .fold, .persist, .kept] ++
  [.task 0 neighbours .finish, .task 0 neighbours .release,
    .call neighbours (.startCopying copyingData)] ++
  within 2 [.act .course .enter, .act .course (.prepared (.ok ⟨"/backup/root", false, none⟩)),
    .act .course (.reply (.ok .null))] ++
  [.call neighbours (.cancelAll "web"), .task 1 neighbours (.work (.act .course .enter)),
    .goOn 3 neighbours .enter, .goOn 3 neighbours .enter, .goOn 3 neighbours .enter] ++
  within 2 [.act .course (.wake .interrupt), .act .course (.reply (.ok .null)),
    .fold, .fold, .fold, .persist, .kept] ++
  [.task 2 neighbours .finish, .task 2 neighbours .release,
    .goOn 3 neighbours .enter, .goOn 3 neighbours .enter, .goOn 3 neighbours .enter,
    .goOn 3 neighbours .enter]

theorem clearing_replayable : ((Host.new .default).replay? clearingMoves).isSome := by
  decide +kernel

def leftClear : List Host.Moment × Host := Option.get _ clearing_replayable

theorem leftClear_run : Host.Run .default leftClear.1 leftClear.2 := .of_replay? clearing_replayable

/-- Once the call was made, the tasks have not become more. -/
theorem leftClear_unbegun : ∀ m ∈ leftClear.1, m.before.UnderWay 3 → ∀ j, ¬ m.Begins j := by
  have same : leftClear.1.all (fun m => decide (m.before.calls.length ≤ 3) ||
      (m.before.step? m.move).all fun next =>
        decide (next.1.pool.jobs.length ≤ m.before.pool.jobs.length)) = true := by decide +kernel
  intro m listed underWay j begins
  obtain ⟨c, made, -⟩ := underWay
  obtain ⟨after, moved, begun⟩ := begins
  have late := (List.getElem?_eq_some_iff.mp made).1
  have more := (List.getElem?_eq_some_iff.mp begun).1
  have holds := List.all_eq_true.mp same m listed
  simp only [moved, Option.all_some, Bool.or_eq_true, decide_eq_true_eq] at holds
  omega

/-- A call has cancelled all tasks of a machine and has returned. -/
def hasCleared (vm : String) : Host.Call → Bool
  | ⟨.cancelAll named, .returned (.ok ())⟩ => named = vm
  | _ => false

theorem leftClear_returned :
    leftClear.2.calls[3]? = some ⟨.cancelAll "web", .returned (.ok ())⟩ := by
  have cleared : (leftClear.2.calls[3]?).any (hasCleared "web") = true := by decide +kernel
  obtain ⟨c, made, own⟩ := (Option.any_eq_true _ _).mp cleared
  unfold hasCleared at own
  split at own
  · rw [made, of_decide_eq_true own]
  · cases own

/-- Both tasks of the machine are gone, and the copy of the disk of the other one goes on, as
registered as it was. -/
theorem leftClear_clears :
    leftClear.2.calls[3]? = some ⟨.cancelAll "web", .returned (.ok ())⟩ ∧
    leftClear.2.pool.jobs.map (·.id) =
      [.migration "web", .diskCopying disk.path "db", .diskCopying copyingData.disk.path "web"] ∧
    (leftClear.1[19]?).map (fun m =>
      (m.before.pool.table.entries.map (·.2), m.before.pool.isBusy 2)) =
      some ([0, 2, 1], true) ∧
    leftClear.2.pool.table.entries.map (·.2) = [1] ∧
    leftClear.2.pool.isBusy 2 = false ∧ leftClear.2.pool.isBusy 1 = true ∧
    (∃ after, Host.Clears leftClear.1 3 "web" after) ∧
    ∀ m ∈ leftClear.1, m.call? = some 3 → m.SparesOthers "web" := by
  obtain ⟨clears, spared⟩ := leftClear_run.clears leftClear_returned
    fun m listed underWay j begins =>
    absurd begins (leftClear_unbegun m listed underWay j)
  refine ⟨leftClear_returned, ?_, ?_, ?_, ?_, ?_, clears, spared⟩
  all_goals decide +kernel

end Sample

end VmControl
