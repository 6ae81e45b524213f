import Mathlib.Data.List.Destutter
import VmControl.Proofs.Task.Outcome
import VmControl.Proofs.Task.Reports

/-!
# What can be seen of a task

`Job.snapshots past j` are all the statistics that could be read of a task, one for every moment of
its life and one for now. A reader who looks less often sees some of them, in this order.

`Job.Life.snapshots_sound` says what holds of them: they tell of the disks of the task and of no
others, every progress adds up, the status goes through at most three stages, and what is final
stays as it is, whatever is sent afterwards. `Job.Shown` is the invariant. It also says what the
updates that are left will still tell, since a status is seen only when its update is taken in.
-/

namespace VmControl

/-! ## Snapshots -/

/-- What a caller sees of a task. -/
inductive Snapshot where
  | migration (stat : MigrationStat)
  | copying (stat : CopyStat)

namespace Snapshot

def status : Snapshot → TaskStatus
  | .migration stat => stat.status
  | .copying stat => stat.status

/-- The disks that it tells of. -/
def disks : Snapshot → List String
  | .migration stat => stat.disks.keys
  | .copying stat => [stat.disk]

/-- Everything that it tells of progress. -/
def progress : Snapshot → List Progress
  | .migration stat => stat.state :: stat.disks.values
  | .copying stat => [stat.progress]

/-- The snapshot after an update. -/
def apply (now : Timestamp) (u : StatUpdate) : Snapshot → Snapshot
  | .migration stat => .migration (stat.apply now u)
  | .copying stat => .copying (stat.apply now u)

variable {shown : Snapshot} {now : Timestamp} {u : StatUpdate}

theorem apply_of_terminal (terminal : shown.status.isTerminal = true) (now : Timestamp)
    (u : StatUpdate) : shown.apply now u = shown := by
  cases shown with
  | migration stat => exact congrArg migration (stat.apply_terminal terminal now u)
  | copying stat => exact congrArg copying (stat.apply_terminal terminal now u)

theorem foldl_apply_of_terminal (terminal : shown.status.isTerminal = true)
    (sent : List (Timestamp × StatUpdate)) :
    sent.foldl (fun shown u => shown.apply u.1 u.2) shown = shown := by
  induction sent with
  | nil => rfl
  | cons u rest ih => rw [List.foldl_cons, apply_of_terminal terminal, ih]

theorem status_apply (going : shown.status.isTerminal = false) :
    (shown.apply now u).status = u.status?.getD shown.status := by
  have ahead : ¬ shown.status.isTerminal = true := Bool.eq_false_iff.mp going
  cases shown with
  | migration stat =>
    have changed : stat.apply now u = stat.change now u := if_neg ahead
    rw [apply, changed]
    cases u <;> rfl
  | copying stat =>
    have changed : stat.apply now u = stat.change now u := if_neg ahead
    rw [apply, changed]
    cases u <;> rfl

theorem disks_apply : (shown.apply now u).disks = shown.disks := by
  cases shown with
  | migration stat =>
    rw [apply, MigrationStat.apply]
    split
    · rfl
    · cases u with
      | disk path progress => exact stat.disks.keys_replace path progress
      | status | state | error => rfl
  | copying stat =>
    rw [apply, CopyStat.apply]
    split
    · rfl
    · cases u <;> rfl

/-- A snapshot tells only of progress that it was told. -/
theorem fair_apply (shares : ∀ p ∈ shown.progress, p.Fair) (fair : u.Fair) :
    ∀ p ∈ (shown.apply now u).progress, p.Fair := by
  cases shown with
  | migration stat =>
    rw [apply, MigrationStat.apply]
    split
    · exact shares
    · cases u with
      | status | error => exact shares
      | state progress =>
        exact List.forall_mem_cons.mpr ⟨fair, (List.forall_mem_cons.mp shares).2⟩
      | disk path progress =>
        refine List.forall_mem_cons.mpr ⟨(List.forall_mem_cons.mp shares).1, fun p listed => ?_⟩
        rcases OrderedMap.mem_values_replace listed with rfl | before
        · exact fair
        · exact (List.forall_mem_cons.mp shares).2 p before
  | copying stat =>
    rw [apply, CopyStat.apply]
    split
    · exact shares
    · cases u with
      | status | state | error => exact shares
      | disk path progress => exact List.forall_mem_singleton.mpr fair

end Snapshot

/-! ## Steps -/

namespace Work

/-- The statistics that everyone sees. -/
def snapshot : Work → Snapshot
  | .migration r => .migration r.account.stat
  | .copying r => .copying r.account.stat

/-- The disks that are worked on. -/
def disks : Work → List String
  | .migration r => r.plan.options.disks.map (·.path)
  | .copying r => [r.disk.path]

/-- The status of a run that is at work. -/
def working : Work → TaskStatus
  | .migration _ => .inMigrate
  | .copying _ => .inProgress

def chapter : Work → Chapter
  | .migration r => r.stage.chapter
  | .copying r => r.stage.chapter

variable {w w' : Work} {s : Surroundings} {cancelled : Bool} {x : Stimulus} {effects : List Effect}

theorem chapter_of_ending {e : Ending} (ending : w.ending? = some e) : w.chapter = .told := by
  cases w with
  | migration r => exact congrArg RunStage.chapter (RunStage.eq_closing ending)
  | copying r => exact congrArg CopyStage.chapter (CopyStage.eq_closing ending)

/-- What a step does to the statistics and to the updates that are left: it sends some, or it takes
one in. -/
inductive Evolves (w w' : Work) : Prop
  | sends {updates : List StatUpdate} (seen : w'.snapshot = w.snapshot)
      (left : w'.left = w.left ++ updates) (fair : ∀ u ∈ updates, u.Fair)
      (tells : w.chapter.Tells w.working (updates.filterMap StatUpdate.status?) w'.chapter)
  | folds {now : Timestamp} {u : StatUpdate} (seen : w'.snapshot = w.snapshot.apply now u)
      (left : w.left = u :: w'.left) (same : w'.chapter = w.chapter)

theorem Evolves.same (seen : w'.snapshot = w.snapshot) (left : w'.left = w.left)
    (chapter : w'.chapter = w.chapter) : w.Evolves w' := by
  have tells : w.chapter.Tells w.working [] w'.chapter := by
    rw [chapter]
    exact .nothing _
  exact .sends seen (left.trans (List.append_nil _).symm) (List.forall_mem_nil _) tells

theorem Folds.evolves {now : Timestamp} (folds : Folds now w w') : w.Evolves w' := by
  cases folds with
  | @migration r account folded =>
    cases left : r.account.left with
    | nil =>
      rw [Account.fold?, left] at folded
      cases folded
    | cons u rest =>
      rw [Account.fold?, left] at folded
      cases folded
      exact .folds rfl left rfl
  | @copying r account folded =>
    cases left : r.account.left with
    | nil =>
      rw [Account.fold?, left] at folded
      cases folded
    | cons u rest =>
      rw [Account.fold?, left] at folded
      cases folded
      exact .folds rfl left rfl

theorem Step.evolves (step : Step s cancelled w x w' effects) : w.Evolves w' := by
  cases step with
  | @migrate r r' _ _ _ act =>
    obtain ⟨updates, account, fair, tells⟩ := MigrationRun.act?_sends act
    have seen : r'.account.stat = r.account.stat := by rw [show r'.account = _ from account]; rfl
    exact .sends (congrArg Snapshot.migration seen) (congrArg Account.left account) fair tells
  | @copy r r' _ _ act =>
    obtain ⟨updates, account, fair, tells⟩ := CopyRun.act?_sends act
    have seen : r'.account.stat = r.account.stat := by rw [show r'.account = _ from account]; rfl
    exact .sends (congrArg Snapshot.copying seen) (congrArg Account.left account) fair tells
  | fold folds => exact folds.evolves
  | persist ending | kept ending =>
    refine .same ?_ left_close ?_
    · cases w <;> rfl
    · rw [chapter_of_ending ending, chapter_of_ending ending?_close]

/-- A step changes neither the kind of a run nor the disks that it works on. -/
theorem Step.same_disks (step : Step s cancelled w x w' effects) :
    w'.disks = w.disks ∧ w'.working = w.working := by
  cases step with
  | @migrate r r' _ _ _ act =>
    have plan : r'.plan = r.plan := (MigrationRun.act?_cases act).plan
    exact ⟨by rw [disks, plan, disks], rfl⟩
  | @copy r r' _ _ act =>
    have plan : r'.plan = r.plan := CopyRun.act?_plan act
    exact ⟨by rw [disks, CopyRun.disk, plan, disks, CopyRun.disk], rfl⟩
  | fold folds => cases folds <;> exact ⟨rfl, rfl⟩
  | persist | kept => cases w <;> exact ⟨rfl, rfl⟩

theorem going_working (w : Work) : w.working.isTerminal = false ∧ w.working ≠ .starting := by
  cases w <;> exact ⟨rfl, nofun⟩

end Work

/-! ## Lives -/

section

variable {α : Type} [DecidableEq α]

/-- A further entry is kept only if it differs from the last one that was. -/
theorem destutter_concat {past said : List α} {a b : α}
    (before : past.destutter (· ≠ ·) = said ++ [a]) :
    (past ++ [b]).destutter (· ≠ ·) = if a = b then said ++ [a] else said ++ [a, b] := by
  have concat (past : List α) : ∀ (c : α) (said : List α), past.destutter' (· ≠ ·) c = said ++ [a] →
      (past ++ [b]).destutter' (· ≠ ·) c = if a = b then said ++ [a] else said ++ [a, b] := by
    induction past with
    | nil =>
      intro c said alone
      obtain ⟨rfl, last⟩ := List.append_inj' (List.nil_append [c] |>.trans alone) rfl
      obtain rfl := List.singleton_inj.mp last
      rw [List.nil_append, List.destutter'_singleton]
      split <;> simp_all
    | cons d rest ih =>
      intro c said all
      rw [List.cons_append]
      by_cases other : c ≠ d
      · rw [List.destutter'_cons_pos _ other] at all ⊢
        cases said with
        | nil => exact absurd (List.cons.inj all).2 (List.destutter'_ne_nil _ _)
        | cons first said =>
          obtain ⟨rfl, others⟩ := List.cons.inj all
          rw [ih d said others]
          split <;> rfl
      · rw [List.destutter'_cons_neg _ other] at all ⊢
        exact ih c said all
  cases past with
  | nil =>
    rw [List.destutter_nil] at before
    exact absurd before.symm (List.concat_ne_nil a said)
  | cons c rest => exact concat rest c said before

end

namespace Job

/-- All that could be seen of a task, oldest first. -/
def snapshots (past : List Moment) (j : Job) : List Snapshot :=
  past.map (·.before.work.snapshot) ++ [j.work.snapshot]

/-- What the status has been, and what it is still to be, is the script of the task so far. -/
def Scripted (past : List Moment) (j : Job) : Prop :=
  ∃ said, ((snapshots past j).map (·.status)).destutter (· ≠ ·) = said ++ [j.work.snapshot.status] ∧
    j.work.chapter.Script j.work.working
      (said ++ j.work.snapshot.status :: j.work.left.filterMap StatUpdate.status?)

/-- What is true of all that could be seen of a task, and of what is still to be seen. -/
structure Shown (past : List Moment) (j : Job) : Prop where
  disks : ∀ shown ∈ snapshots past j, ∀ path, path ∈ shown.disks ↔ path ∈ j.work.disks
  fair : ∀ shown ∈ snapshots past j, ∀ p ∈ shown.progress, p.Fair
  left : ∀ u ∈ j.work.left, u.Fair
  frozen : (snapshots past j).Pairwise
    fun earlier later => earlier.status.isTerminal = true → later = earlier
  scripted : Scripted past j

variable {past : List Moment} {j k : Job} {move : Move} {effects : List Effect}

theorem snapshots_concat :
    snapshots (past ++ [⟨j, move, effects⟩]) k = snapshots past j ++ [k.work.snapshot] := by
  rw [snapshots, List.map_append, List.map_singleton, snapshots]

theorem snapshot_mem_snapshots : j.work.snapshot ∈ snapshots past j :=
  List.mem_append_right _ (List.mem_singleton.mpr rfl)

/-- Where the status stays, the rest of the script stays or grows. -/
theorem Scripted.stay {said : List TaskStatus}
    (seen : ((snapshots past j).map (·.status)).destutter (· ≠ ·) =
      said ++ [j.work.snapshot.status])
    (same : k.work.snapshot.status = j.work.snapshot.status)
    (script : k.work.chapter.Script k.work.working
      (said ++ j.work.snapshot.status :: k.work.left.filterMap StatUpdate.status?)) :
    Scripted (past ++ [⟨j, move, effects⟩]) k := by
  refine ⟨said, ?_, by rwa [same]⟩
  rw [snapshots_concat, List.map_append, List.map_singleton, destutter_concat seen,
    if_pos same.symm, same]

theorem Scripted.next (scripted : Scripted past j) (evolves : j.work.Evolves k.work)
    (kind : k.work.working = j.work.working) : Scripted (past ++ [⟨j, move, effects⟩]) k := by
  obtain ⟨said, seen, script⟩ := scripted
  cases evolves with
  | sends same left _ tells =>
    refine .stay seen (congrArg Snapshot.status same) ?_
    have told := script.tell tells
    rwa [List.append_assoc, List.cons_append, ← List.filterMap_append, ← left, ← kind] at told
  | @folds now u same left chapter =>
    rw [left, ← chapter, ← kind] at script
    cases status : u.status? with
    | none =>
      rw [List.filterMap_cons_none status] at script
      refine .stay seen ?_ script
      rw [same]
      by_cases terminal : j.work.snapshot.status.isTerminal = true
      · rw [Snapshot.apply_of_terminal terminal]
      · rw [Snapshot.status_apply (Bool.eq_false_iff.mpr terminal), status]
        rfl
    | some next =>
      -- the next word of the script is seen, and it is another one
      rw [List.filterMap_cons_some status] at script
      obtain ⟨going, apart⟩ := script.next k.work.going_working.1 k.work.going_working.2
      have news : k.work.snapshot.status = next := by
        rw [same, Snapshot.status_apply going, status]
        rfl
      refine ⟨said ++ [j.work.snapshot.status], ?_, ?_⟩
      · rw [snapshots_concat, List.map_append, List.map_singleton, destutter_concat seen, news,
          if_neg apart, List.append_assoc]
        rfl
      · rwa [news, List.append_assoc]

/-- The first moment of a task whose run has not begun. -/
theorem Shown.new (disks : ∀ path, path ∈ j.work.snapshot.disks ↔ path ∈ j.work.disks)
    (fair : ∀ p ∈ j.work.snapshot.progress, p = .initial) (left : j.work.left = [])
    (status : j.work.snapshot.status = .starting) (chapter : j.work.chapter = .opening) :
    Shown [] j where
  disks := List.forall_mem_singleton.mpr disks
  fair := List.forall_mem_singleton.mpr fun p told => Or.inl (fair p told)
  left := by
    rw [left]
    exact List.forall_mem_nil _
  frozen := List.pairwise_singleton _ _
  scripted := by
    refine ⟨[], List.destutter_singleton _, ?_⟩
    rw [left, status, chapter]
    exact .opening

/-- What is final stays as it is. -/
theorem Shown.frozen_concat (shown : Shown past j)
    (stays : j.work.snapshot.status.isTerminal = true → k.work.snapshot = j.work.snapshot) :
    (snapshots (past ++ [⟨j, move, effects⟩]) k).Pairwise
      fun earlier later => earlier.status.isTerminal = true → later = earlier := by
  rw [snapshots_concat]
  refine List.pairwise_append.mpr ⟨shown.frozen, List.pairwise_singleton _ _, ?_⟩
  intro earlier before later now terminal
  obtain rfl := List.mem_singleton.mp now
  have last : j.work.snapshot = earlier := by
    rcases List.mem_append.mp before with old | here
    · exact (List.pairwise_append.mp shown.frozen).2.2 earlier old _ (List.mem_singleton.mpr rfl)
        terminal
    · exact (List.mem_singleton.mp here).symm
  rw [← last] at terminal ⊢
  exact stays terminal

theorem Shown.next (shown : Shown past j) (evolves : j.work.Evolves k.work)
    (same : k.work.disks = j.work.disks ∧ k.work.working = j.work.working) :
    Shown (past ++ [⟨j, move, effects⟩]) k := by
  have current : j.work.snapshot ∈ snapshots past j := snapshot_mem_snapshots
  have step : k.work.snapshot = j.work.snapshot ∨
      ∃ now, ∃ u ∈ j.work.left, k.work.snapshot = j.work.snapshot.apply now u := by
    cases evolves with
    | sends seen => exact Or.inl seen
    | folds seen left => exact Or.inr ⟨_, _, by rw [left]; exact List.mem_cons_self, seen⟩
  refine ⟨?_, ?_, ?_, shown.frozen_concat fun terminal => ?_, shown.scripted.next evolves same.2⟩
  · rw [snapshots_concat, same.1]
    refine List.forall_mem_append.mpr ⟨shown.disks, List.forall_mem_singleton.mpr ?_⟩
    rcases step with seen | ⟨now, u, -, seen⟩
    · rw [seen]
      exact shown.disks _ current
    · rw [seen, Snapshot.disks_apply]
      exact shown.disks _ current
  · rw [snapshots_concat]
    refine List.forall_mem_append.mpr ⟨shown.fair, List.forall_mem_singleton.mpr ?_⟩
    rcases step with seen | ⟨now, u, left, seen⟩
    · rw [seen]
      exact shown.fair _ current
    · rw [seen]
      exact Snapshot.fair_apply (shown.fair _ current) (shown.left u left)
  · cases evolves with
    | sends _ left fair =>
      rw [left]
      exact List.forall_mem_append.mpr ⟨shown.left, fair⟩
    | folds _ left =>
      have all := shown.left
      rw [left] at all
      exact (List.forall_mem_cons.mp all).2
  · rcases step with seen | ⟨now, u, -, seen⟩
    · exact seen
    · rw [seen, Snapshot.apply_of_terminal terminal]

theorem Life.shown (life : Life past j) : j.Shown past := by
  induction life with
  | migration o config stamp =>
    refine .new (fun path => ?_) (fun p told => ?_) rfl rfl rfl
    · have paths : ((o.disks.map (·.path)).map fun d => (d, Progress.initial)).map (·.1) =
          o.disks.map (·.path) := by
        rw [List.map_map]
        exact List.map_id _
      exact OrderedMap.mem_keys_ofList.trans (by rw [paths]; rfl)
    · rcases List.mem_cons.mp told with rfl | listed
      · rfl
      · obtain ⟨entry, entered, rfl⟩ := List.mem_map.mp listed
        obtain ⟨d, -, rfl⟩ := List.mem_map.mp (OrderedMap.mem_of_mem_ofList entered)
        rfl
  | copying o config stamp =>
    exact .new (fun path => Iff.rfl) (fun p told => List.mem_singleton.mp told) rfl rfl rfl
  | move _ moved ih =>
    cases move?_cases moved with
    | cancel | finish | release => exact ih.next (.same rfl rfl rfl) ⟨rfl, rfl⟩
    | work _ step => exact ih.next step.evolves step.same_disks

/-- All that can be seen of a task tells of its disks, with counters that add up. Its status is that
of a start, then that of work and then that of one end, as far as it has come; and what tells of an
end is seen unchanged ever after, even if further updates were sent. -/
theorem Life.snapshots_sound (life : Life past j) :
    (∀ shown ∈ snapshots past j,
      (∀ path, path ∈ shown.disks ↔ path ∈ j.work.disks) ∧ ∀ p ∈ shown.progress, p.Fair) ∧
    (∃ final : TaskStatus, final.isTerminal = true ∧
      ((snapshots past j).map (·.status)).destutter (· ≠ ·) <+:
      [.starting, j.work.working, final]) ∧
    ((snapshots past j).Pairwise
      fun earlier later => earlier.status.isTerminal = true → later = earlier) ∧
    ∀ shown ∈ snapshots past j, shown.status.isTerminal = true →
      ∀ sent : List (Timestamp × StatUpdate),
        sent.foldl (fun shown u => shown.apply u.1 u.2) shown = shown := by
  have known := life.shown
  refine ⟨fun shown here => ⟨known.disks shown here, known.fair shown here⟩, ?_, known.frozen,
    fun shown _ terminal sent => Snapshot.foldl_apply_of_terminal terminal sent⟩
  obtain ⟨said, seen, script⟩ := known.scripted
  obtain ⟨final, terminal, scripted⟩ := script.isPrefix
  refine ⟨final, terminal, ?_⟩
  have soFar : said ++ [j.work.snapshot.status] <+:
      said ++ j.work.snapshot.status :: j.work.left.filterMap StatUpdate.status? :=
    (List.prefix_append_right_inj said).mpr (List.prefix_iff_eq_append.mpr rfl)
  rw [seen]
  exact soFar.trans scripted

end Job

namespace Sample

/-- The copy is seen at its start, at work and completed; the migration that cannot start its mirror
is seen to fail. -/
theorem seen_in_order :
    ((Job.snapshots copied.1 copied.2).map (·.status)).destutter (· ≠ ·) =
      [.starting, .inProgress, .completed] ∧
    ((Job.snapshots undone.1 undone.2).map (·.status)).destutter (· ≠ ·) =
      [.starting, .inMigrate, .failed] ∧
    (∃ final : TaskStatus, final.isTerminal = true ∧
      ((Job.snapshots copied.1 copied.2).map (·.status)).destutter (· ≠ ·) <+:
        [.starting, .inProgress, final]) ∧
    ∀ shown ∈ Job.snapshots undone.1 undone.2, ∀ p ∈ shown.progress, p.Fair :=
  ⟨rfl, rfl, copied_life.snapshots_sound.2.1,
    fun shown here => (undone_life.snapshots_sound.1 shown here).2⟩

end Sample

end VmControl
