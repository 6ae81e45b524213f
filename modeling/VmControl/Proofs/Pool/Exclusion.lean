import VmControl.Proofs.Migration.Replay
import VmControl.Proofs.Peer
import VmControl.Proofs.Pool.Interleaving

/-!
# Mutual exclusion

A migration claims its machine and a copy claims its disk. Whatever calls are made to a host, and in
whatever order they and the tasks go on, no two tasks in progress claim the same thing, and every
task in progress is registered (`Pool.Exclusive`). What a host says about a task in the way of a
start is true at that moment, and whatever starts has nothing in its way (`Host.Admits`). Both hold
of every host that is reached (`Host.Run.excludes`).
-/

namespace VmControl

namespace Pool

variable {p : Pool}

/-- A migration is in progress. -/
def Migrating (p : Pool) (number : Nat) (r : MigrationRun) : Prop :=
  ∃ j, p.AtWork number j ∧ j.work = .migration r

/-- A copy is in progress. -/
def Copying (p : Pool) (number : Nat) (r : CopyRun) : Prop :=
  ∃ j, p.AtWork number j ∧ j.work = .copying r

/-- Tasks in progress keep out of each other's way, and all of them are registered. -/
structure Exclusive (p : Pool) : Prop where
  /-- At most one migration of a machine is in progress. -/
  migrations : ∀ n m r r', p.Migrating n r → p.Migrating m r' → r.vm = r'.vm → n = m
  /-- No disk is copied whose machine is being migrated. -/
  owners : ∀ n m r r', p.Migrating n r → p.Copying m r' → r'.vm ≠ r.vm
  /-- At most one copy of a disk is in progress. -/
  disks : ∀ n m r r', p.Copying n r → p.Copying m r' → r.disk.path = r'.disk.path → n = m
  /-- Every task in progress is found under its own identifier, which names what it works on. -/
  registered : ∀ n j, p.AtWork n j → j.id = j.work.id ∧ p.find? j.id = some (n, j)

/-- Of two tasks in progress, one was started later and did not find the other one in its way. -/
theorem Sound.not_conflicts (sound : p.Sound) {n m : Nat} {j k : Job} (apart : n ≠ m)
    (work : p.AtWork n j) (work' : p.AtWork m k) :
    ¬ k.work.id.Conflicts j.work.id ∨ ¬ j.work.id.Conflicts k.work.id := by
  rw [← (sound.jobs n j work.1).own, ← (sound.jobs m k work'.1).own]
  rcases Nat.lt_or_gt_of_ne apart with lower | higher
  · exact Or.inl (sound.apart n m j k lower work work')
  · exact Or.inr (sound.apart m n k j higher work' work)

theorem Sound.exclusive (sound : p.Sound) : p.Exclusive where
  migrations n m r r' := by
    rintro ⟨j, work, moves⟩ ⟨k, work', moves'⟩ same
    by_contra apart
    have clash := sound.not_conflicts apart work work'
    rw [moves, moves', Work.id, Work.id, same, or_self] at clash
    exact clash (conflicts_self (.migration r'))
  owners n m r r' := by
    rintro ⟨j, work, moves⟩ ⟨k, work', copies⟩ same
    have apart : n ≠ m := by
      rintro rfl
      have alike : some j = some k := work.1.symm.trans work'.1
      cases alike
      rw [moves] at copies
      cases copies
    have clash := sound.not_conflicts apart work work'
    rw [moves, copies, Work.id, Work.id, same] at clash
    -- whichever of the two was started later would have found the other one in its way
    rcases clash with copyFree | moveFree
    · exact copyFree (.migrated r'.disk.path r.vm)
    · exact moveFree (.involved (Or.inr rfl))
  disks n m r r' := by
    rintro ⟨j, work, copies⟩ ⟨k, work', copies'⟩ same
    by_contra apart
    have clash := sound.not_conflicts apart work work'
    rw [copies, copies', Work.id, Work.id, same] at clash
    rcases clash with free | free
    · exact free (.copied r'.disk.path r'.vm r.vm)
    · exact free (.copied r'.disk.path r.vm r'.vm)
  registered n j work := ⟨(sound.jobs n j work.1).own, sound.find? work⟩

end Pool

namespace Host

variable {config : Config} {past : List Moment} {h h' : Host}

/-- At a move a call comes to an outcome. -/
def Returns (h h' : Host) (number : Nat) (o : Operation) (outcome : Except ControlError Unit) :
    Prop :=
  h'.calls[number]? = some ⟨o, .returned outcome⟩ ∧ h.calls[number]? ≠ h'.calls[number]?

/-- How a host treats what is to be started. -/
structure Admits (h : Host) : Prop where
  /-- The last step of the start of a migration is decided by what is in progress. -/
  register : ∀ s (c : StartCall), ∃ outcome, (c.register h.pool s).2 = .over outcome ∧
    h.pool.Attempt (.migration c.options h.pool.config s.stamp) outcome (c.register h.pool s).1
  /-- So is the start of a copy, of a machine that has a monitor. -/
  startCopying : ∀ s o, s.registry.get? o.vmName ≠ none →
    h.pool.Attempt (.copying o h.pool.config s.stamp) (h.pool.startCopying s o).1
      (h.pool.startCopying s o).2
  /-- What has been started had nothing in its way, and now it is registered and in progress. -/
  accepted : ∀ move h' errands number o wanted, h.step? move = some (h', errands) →
    h.Returns h' number o (.ok ()) → o.wanted? = some wanted →
    (∀ n j, h.pool.AtWork n j → ¬ wanted.Conflicts j.id) ∧
      ∃ n j, h'.pool.find? wanted = some (n, j) ∧ j.id = wanted ∧ j.inProgress = true
  /-- What is said to be in the way is registered, in progress and in the way. No receiving host can
  make a call say otherwise, unless its failures are none of those that clients tell. -/
  refused : ∀ move h' errands number o kind object owner, h.step? move = some (h', errands) →
    h.Returns h' number o (.error (.alreadyRunning kind object owner)) →
    (∃ wanted n j, o.wanted? = some wanted ∧ h.pool.Blocks wanted n j ∧
      j.id = ⟨kind, object, owner⟩) ∨
    (∃ s, move = .goOn number s (.answer (.error (.alreadyRunning kind object owner)))) ∧
      ¬ PeerClient.Fails (.alreadyRunning kind object owner)

/-- The failures with which the receiving host has answered at a move. -/
def Move.Says (number : Nat) : Move → ControlError → Prop
  | .goOn n _ x, e => n = number ∧ x = .answer (.error e)
  | _, _ => False

/-- Whatever a call comes to at a move is one of the things that it may come to. -/
theorem Sound.returns (sound : h.Sound) {move : Move} {errands : List Errand}
    (step : h.Step move h' errands) {number : Nat} {o : Operation}
    {outcome : Except ControlError Unit} (returns : h.Returns h' number o outcome) :
    o.Returns h.pool (move.Says number) outcome h'.pool := by
  obtain ⟨there, new⟩ := returns
  cases step with
  | @call s o' p state effects begun =>
    have goes := Operation.begin_spec sound.pool begun
    rw [List.getElem?_append] at there new
    split at there
    · next low =>
      rw [if_pos low] at new
      exact absurd rfl new
    · have last := List.mem_singleton.mp (List.mem_of_getElem? there)
      cases last
      exact goes.returns outcome rfl
  | @goOn n s x c p state effects here stepped =>
    have relied := sound.calls c (List.mem_of_getElem? here)
    have goes := CallState.step?_spec sound.pool relied stepped
    by_cases same : n = number
    · subst same
      rw [List.getElem?_set_self (List.getElem?_eq_some_iff.mp here).1] at there
      cases there
      exact (goes.returns outcome rfl).mono fun e said => ⟨rfl, said⟩
    · rw [List.getElem?_set_ne same] at new
      exact absurd rfl new
  | task => exact absurd rfl new

theorem Sound.admits (sound : h.Sound) : h.Admits where
  register := sound.pool.register
  startCopying _ _ running := sound.pool.startCopying running
  accepted move h' errands number o wanted moved returned named := by
    have returns := sound.returns (step?_cases moved) returned
    generalize h'.pool = q at returns ⊢
    cases returns with
    | @started j wants busy free =>
      rw [named] at wants
      obtain rfl := Option.some.inj wants
      exact ⟨free, h.pool.jobs.length, j, Pool.find?_start h.pool j, rfl, busy⟩
    | done none =>
      rw [named] at none
      cases none
  refused move h' errands number o kind object owner moved returned := by
    have returns := sound.returns (step?_cases moved) returned
    generalize h'.pool = q at returns
    cases returns with
    | @blocked id n k wanted blocks => exact Or.inl ⟨id, n, k, wanted, blocks, rfl⟩
    | failed other =>
      have said := other kind object owner rfl
      have answered :
          ∃ s, move = .goOn number s (.answer (.error (.alreadyRunning kind object owner))) := by
        cases move with
        | goOn n s x =>
          obtain ⟨rfl, rfl⟩ := said
          exact ⟨s, rfl⟩
        | call | task => cases said
      refine Or.inr ⟨answered, fun fails => ?_⟩
      have kinds := fails.isOfPeer
      cases kinds

/-- Mutual exclusion, and admission by nothing else, in every host that is reached. -/
theorem Run.excludes (run : Run config past h) : h.pool.Exclusive ∧ h.Admits :=
  ⟨run.sound.pool.exclusive, run.sound.admits⟩

end Host

namespace Sample

/-- The copy of the disk of the machine that is to be moved. -/
def copying : CopyOptions := ⟨"web", disk, "/backup/root", false, "nightly", none⟩

/-- The machine is to be moved; while the receiving host is asked for room, a copy of its disk is
started. -/
def overtakingMoves : List Host.Move :=
  [.call (surroundings 0) (.startMigration plan.options),
    .goOn 0 (surroundings 0) (.answer (.ok .done)),
    .goOn 0 (surroundings 0) (.answer (.ok (.flag false))),
    .call (surroundings 0) (.startCopying copying),
    .goOn 0 (surroundings 0) (.answer (.ok .done))]

theorem overtaking_replayable : ((Host.new .default).replay? overtakingMoves).isSome := rfl

/-- The moves with what they found, and the host after them. -/
def overtaken : List Host.Moment × Host := Option.get _ overtaking_replayable

theorem overtaken_run : Host.Run .default overtaken.1 overtaken.2 :=
  .of_replay? overtaking_replayable

/-- The migration is refused in the name of the copy, which is in progress. -/
theorem overtaken_excludes : (overtaken.2.calls[0]?).map (·.state) =
      some (.returned (.error (.alreadyRunning .diskCopying "/dev/vg/root" (some "web")))) ∧
    overtaken.2.pool.isBusy 0 = true ∧ overtaken.2.pool.Exclusive ∧ overtaken.2.Admits :=
  ⟨rfl, rfl, overtaken_run.excludes⟩

end Sample

end VmControl
